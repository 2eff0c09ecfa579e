import SqlRecords.Proofs.Query.Drafts
import SqlRecords.Proofs.Query.Nesting

/-! Orders and pages on SQL Server, which takes no order inside another statement unless it cuts a
page there, and no page without an order. -/
namespace SqlRecords

/-- What a SELECT is ordered by. -/
inductive RowOrder where
  /-- Keeps rows as they come; stands in for an order where one has to be written. -/
  | neutral
  | entries (list : List String)
  deriving DecidableEq

/-- What stands behind the body of a SELECT: its order and its page, as offset and limit. -/
structure Ending where
  order : Option RowOrder
  page : Option (Nat × Option Nat)
  deriving DecidableEq

def RowOrder.text : RowOrder → String
  | .neutral => " ORDER BY (SELECT NULL)"
  | .entries list => " ORDER BY " ++ commaList list

def pageText (offset : Nat) (limit : Option Nat) : String :=
  " OFFSET " ++ toString offset ++ " ROWS"
    ++ limit.elim "" fun n => " FETCH NEXT " ++ toString n ++ " ROWS ONLY"

/-- A page directly follows the order. -/
def Ending.text (e : Ending) : String :=
  e.order.elim "" RowOrder.text ++ e.page.elim "" fun (offset, limit) => pageText offset limit

/-- The end of a SELECT of `q` at a place in a statement is one that SQL Server takes, and it leaves
out nothing of the order where it has one. -/
structure Ending.IsLegal (e : Ending) (q : Query) (place : Place) : Prop where
  page_eq : e.page =
    if q.limit.isSome || q.offset.isSome then some (q.offset.getD 0, q.limit) else none
  ordered : e.page.isSome = true → e.order.isSome = true
  inside : place ≠ .outermost → (e.order.isSome = true ↔ e.page.isSome = true)
  neutral_iff : e.order = some .neutral ↔ e.page.isSome = true ∧ q.weights = [] ∧ q.orderBy = []
  entries_eq : ∀ list, e.order = some (.entries list) → list = q.pageOrder ∧ list ≠ []

namespace Query

/-- The end that a SELECT has on SQL Server. -/
def ending (q : Query) (place : Place) : Ending where
  order :=
    if (q.orderAt place).isEmpty then
      if q.limit.isSome || q.offset.isSome then some .neutral else none
    else some (.entries (q.orderAt place))
  page := if q.limit.isSome || q.offset.isSome then some (q.offset.getD 0, q.limit) else none

theorem pageOrder_eq_nil_iff (q : Query) : q.pageOrder = [] ↔ q.weights = [] ∧ q.orderBy = [] := by
  unfold pageOrder orderEntries
  cases q.weights <;> simp

/-- A page brings a neutral order with it where there is none in front of it. -/
theorem pagingClause_mssql (limit offset : Option Nat) (ordered : Bool) :
    Dialect.pagingClause .mssql limit offset ordered =
      if limit.isSome || offset.isSome then
        (if ordered then "" else RowOrder.neutral.text) ++ pageText (offset.getD 0) limit
      else "" := by
  unfold Dialect.pagingClause pageText
  cases limit <;> cases offset <;> simp only [String.append_assoc] <;> rfl

theorem ending_text {q : Query} (hq : q.dialect = .mssql) (place : Place) :
    (q.ending place).text = q.endText place := by
  unfold ending Ending.text endText orderText
  rw [hq, pagingClause_mssql]
  cases (q.orderAt place).isEmpty <;> cases q.limit.isSome || q.offset.isSome <;>
    simp [RowOrder.text]

/-- Inside a statement an order is kept for a page alone. -/
theorem orderAt_inside {q : Query} (hq : q.dialect = .mssql) {place : Place}
    (hplace : place ≠ .outermost) :
    q.orderAt place = if q.limit.isSome || q.offset.isSome then q.pageOrder else [] := by
  unfold orderAt
  cases place with
  | outermost => exact absurd rfl hplace
  | counted => rfl
  | nested => simp [Place.keepsOrder, hq]

theorem orderAt_eq_pageOrder_or_nil (q : Query) (place : Place) :
    q.orderAt place = q.pageOrder ∨ q.orderAt place = [] := by
  unfold orderAt
  split
  · exact .inl rfl
  · exact .inr rfl

/-- A page keeps the order at every place. -/
theorem orderAt_paged {q : Query} (hpaged : (q.limit.isSome || q.offset.isSome) = true)
    (place : Place) : q.orderAt place = q.pageOrder := by
  unfold orderAt
  rw [hpaged]
  cases place <;> rfl

theorem ending_isLegal {q : Query} (hq : q.dialect = .mssql) (place : Place) :
    (q.ending place).IsLegal q place where
  page_eq := rfl
  ordered := by
    unfold ending
    cases q.limit.isSome || q.offset.isSome <;> cases (q.orderAt place).isEmpty <;> simp
  inside hplace := by
    unfold ending
    rw [orderAt_inside hq hplace]
    cases q.limit.isSome || q.offset.isSome with
    | false => simp
    | true => cases q.pageOrder <;> simp
  neutral_iff := by
    rw [← pageOrder_eq_nil_iff]
    unfold ending
    cases hpaged : q.limit.isSome || q.offset.isSome with
    | true =>
      rw [orderAt_paged hpaged]
      cases q.pageOrder <;> simp
    | false => cases (q.orderAt place).isEmpty <;> simp
  entries_eq list h := by
    unfold ending at h
    dsimp only at h
    split at h
    · split at h <;> cases h
    · rename_i hsome
      obtain hown | hnone := q.orderAt_eq_pageOrder_or_nil place
      · cases RowOrder.entries.inj (Option.some.inj h)
        exact ⟨hown, fun hnil => hsome (List.isEmpty_iff.mpr hnil)⟩
      · exact absurd (List.isEmpty_iff.mpr hnone) hsome

/-- A SELECT of a query on SQL Server is its body and a legal end. -/
theorem renderAfter_sql_mssql {q : Query} (hq : q.dialect = .mssql) {place : Place} {c : Clauses}
    (h : q.clauses .mssql place = .ok c) (n : Nat) :
    c.sql.renderAfter .mssql n = c.body.renderAfter .mssql n ++ (q.ending place).text := by
  rw [Clauses.renderAfter_sql, end_of_clauses h, ending_text hq]

/-- The queries in the predicate of a write. -/
def restrictedBy (q : Query) : Form → List Query
  | .select | .count | .insert => []
  | .update | .delete => Predicate.nested q.predicate
  | .save => if q.payload matches some (.update ..) then Predicate.nested q.predicate else []

/-- The SELECTs of a statement that stand in no other SELECT, each with its place. -/
def selects (q : Query) : Form → List (Place × Query)
  | .select => [(.outermost, q)]
  | .count => [(.counted, q)]
  | form => (q.restrictedBy form).map fun r => (.nested, r)

/-- The SELECTs of a statement at every depth. -/
inductive Holds (q : Query) (form : Form) : Place → Query → Prop
  | top {place : Place} {r : Query} (h : (place, r) ∈ q.selects form) : Holds q form place r
  | inside {place : Place} {p r : Query} (hp : Holds q form place p) (h : r ∈ p.nested) :
    Holds q form .nested r

/-- How a statement shows the SELECTs that stand in no other SELECT. -/
def Shows (q : Query) (form : Form) (d : Dialect) (sql : Sql) : Prop :=
  match form with
  | .select => ∃ c, q.clauses d .outermost = .ok c ∧ sql = c.sql
  | .count => ∃ c, q.clauses d .counted = .ok c ∧
    sql = Sql.ofText "SELECT COUNT(*) AS total FROM (" ++ c.sql ++ Sql.ofText ") AS count_sql"
  | form => sql.Encloses d (q.restrictedBy form)

theorem updateDraft_encloses {q : Query} {draft : Draft} (h : q.updateDraft = .ok draft) :
    draft.sql.Encloses q.dialect (Predicate.nested q.predicate) := by
  unfold updateDraft at h
  obtain ⟨table, -, h⟩ := bind_eq_ok.mp h
  split at h
  · split at h
    · cases h
    · obtain ⟨condition, hcondition, h⟩ := bind_eq_ok.mp h
      cases Except.ok.inj h
      exact (Predicate.whereSql_encloses hcondition).after _
  · cases h

theorem deleteDraft_encloses {q : Query} {draft : Draft} (h : q.deleteDraft = .ok draft) :
    draft.sql.Encloses q.dialect (Predicate.nested q.predicate) := by
  unfold deleteDraft at h
  obtain ⟨table, -, h⟩ := bind_eq_ok.mp h
  obtain ⟨condition, hcondition, h⟩ := bind_eq_ok.mp h
  cases Except.ok.inj h
  exact (Predicate.whereSql_encloses hcondition).after _

theorem draft_shows {q : Query} {form : Form} {draft : Draft} (h : q.draft form = .ok draft) :
    q.Shows form q.dialect draft.sql := by
  cases form with
  | select =>
    obtain ⟨c, hc, rfl⟩ := map_eq_ok.mp h
    exact ⟨c, hc, rfl⟩
  | count =>
    obtain ⟨c, hc, rfl⟩ := map_eq_ok.mp h
    exact ⟨c, hc, rfl⟩
  | insert => exact .none _
  | update => exact updateDraft_encloses h
  | delete => exact deleteDraft_encloses h
  | save =>
    have hsave : q.saveDraft = .ok draft := h
    show draft.sql.Encloses q.dialect (q.restrictedBy .save)
    unfold saveDraft at hsave
    unfold restrictedBy
    cases hp : q.payload with
    | none => exact .none _
    | some payload =>
      cases payload with
      | insert => exact .none _
      | update =>
        rw [hp] at hsave
        exact updateDraft_encloses hsave

/-- Every SELECT of a statement that is written can be written. -/
theorem Holds.clauses_ok {q : Query} {form : Form} {d : Dialect} {sql : Sql}
    (hshows : q.Shows form d sql) {place : Place} {r : Query} (h : q.Holds form place r) :
    ∃ c, r.clauses d place = .ok c := by
  induction h with
  | inside hp hr ih =>
    obtain ⟨c, hc⟩ := ih
    exact (body_encloses hc).clauses_ok hr
  | top h =>
    cases form with
    | select | count =>
      obtain ⟨c, hc, -⟩ := hshows
      cases List.mem_singleton.mp h
      exact ⟨c, hc⟩
    | insert | update | delete | save =>
      obtain ⟨r, hr, heq⟩ := List.mem_map.mp h
      cases heq
      exact Sql.Encloses.clauses_ok hshows hr

/-- A statement whose queries are all for SQL Server. Each SELECT in it, at every depth, is its
body, which holds the SELECTs inside it, and behind it an end that is legal at its place. -/
theorem select_ends_legal {q : Query} {form : Form} {s : Statement} (hq : q.dialect = .mssql)
    (hall : ∀ place r, q.Holds form place r → r.dialect = .mssql) (h : q.statement form = .ok s) :
    ∃ sql : Sql, s.sql = sql.render .mssql ∧ q.Shows form .mssql sql ∧
      ∀ place r, q.Holds form place r → ∃ (c : Clauses) (e : Ending),
        r.clauses .mssql place = .ok c ∧ c.body.Encloses .mssql r.nested ∧
        (∀ n, c.sql.renderAfter .mssql n = c.body.renderAfter .mssql n ++ e.text) ∧
        e.IsLegal r place := by
  rw [statement_eq, finish] at h
  cases hdraft : q.draft form with
  | error e => rw [hdraft] at h; cases h
  | ok draft =>
    rw [hdraft] at h
    cases Except.ok.inj h
    have hshows := hq ▸ draft_shows hdraft
    refine ⟨draft.sql, congrArg draft.sql.render hq, hshows, fun place r hr => ?_⟩
    obtain ⟨c, hc⟩ := hr.clauses_ok hshows
    have hmssql := hall place r hr
    exact ⟨c, r.ending place, hc, body_encloses hc, renderAfter_sql_mssql hmssql hc,
      ending_isLegal hmssql place⟩

/-- The three best orders, those of members first. -/
def bestOrders : Query :=
  { ((empty .mssql none).table "orders").weigh
      ⟨[Predicate.equals "member" (.bool true)], Double.ofInt 2, .score (Double.ofInt 1)⟩ with
    limit := some 3 }

/-- What is left of them after the first. -/
def laterBest : Query :=
  { (empty .mssql none).from_ (.derived bestOrders "best") with offset := some 1 }

/-- Counting them, the page inside keeps the order of its weights and the one around it gets a
neutral order. -/
theorem laterBest_ends_legal : laterBest.dialect = .mssql ∧
    (∀ place r, laterBest.Holds .count place r → r.dialect = .mssql) ∧
    (laterBest.statement .count).toOption.map (·.sql) = some
      ("SELECT COUNT(*) AS total FROM (SELECT * FROM (SELECT *, CASE WHEN member = @param1 "
        ++ "THEN 2 ELSE 1 END AS __weight FROM orders ORDER BY __weight DESC OFFSET 0 ROWS "
        ++ "FETCH NEXT 3 ROWS ONLY) AS best ORDER BY (SELECT NULL) OFFSET 1 ROWS) AS count_sql") ∧
    ∃ (c : Clauses) (e : Ending), bestOrders.clauses .mssql .nested = .ok c ∧
      c.sql.render .mssql = c.body.render .mssql ++ e.text ∧ e.IsLegal bestOrders .nested := by
  have hheld : ∀ place r, laterBest.Holds .count place r → r = laterBest ∨ r = bestOrders := by
    intro place r h
    induction h with
    | top h => exact .inl (congrArg Prod.snd (List.mem_singleton.mp h))
    | inside hp h ih =>
      obtain rfl | rfl := ih
      · exact .inr (List.mem_singleton.mp h)
      · cases h
  have hall : ∀ place r, laterBest.Holds .count place r → r.dialect = .mssql := by
    intro place r h
    obtain rfl | rfl := hheld place r h <;> rfl
  refine ⟨rfl, hall, by decide +kernel, ?_⟩
  cases h : laterBest.statement .count with
  | error e =>
    have hok : (laterBest.statement .count).isOk = true := by decide +kernel
    rw [h] at hok
    cases hok
  | ok s =>
    obtain ⟨sql, -, -, hends⟩ := select_ends_legal rfl hall h
    have hbest : laterBest.Holds .count .nested bestOrders :=
      .inside (.top List.mem_cons_self) List.mem_cons_self
    obtain ⟨c, e, hc, -, hrender, hlegal⟩ := hends .nested bestOrders hbest
    exact ⟨c, e, hc, hrender 0, hlegal⟩

end Query
end SqlRecords
