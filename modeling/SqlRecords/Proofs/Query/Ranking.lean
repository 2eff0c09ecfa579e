import SqlRecords.Proofs.SqlServer.Ordering

/-! Weights of a query. They add one column to its projection and one entry to its order, and what
follows the column is numbered on from it. -/
namespace SqlRecords

/-- What a SELECT takes its rows from: its text between FROM and its order. -/
def Clauses.rows (c : Clauses) : Sql :=
  c.source ++ c.joins.flatten
    ++ (match c.predicate with
      | some p => Sql.ofText " WHERE " ++ p
      | none => [])
    ++ listClause " GROUP BY " c.groupBy

theorem Clauses.body_eq_rows (c : Clauses) :
    c.body = Sql.ofText (if c.distinct then "SELECT DISTINCT " else "SELECT ")
      ++ Sql.join ", " c.projection ++ Sql.ofText " FROM " ++ c.rows := by
  cases hp : c.predicate <;> simp only [body, rows, hp, List.append_assoc]

theorem Clauses.params_body (c : Clauses) :
    c.body.params = c.projection.flatMap Sql.params ++ c.rows.params := by
  simp only [body_eq_rows, Sql.params_append, Sql.params_ofText, Sql.params_join, List.nil_append,
    List.append_nil]

/-- The rows are numbered on from the columns. -/
theorem Clauses.render_body (c : Clauses) (d : Dialect) :
    c.body.render d = (if c.distinct then "SELECT DISTINCT " else "SELECT ")
      ++ commaList (Sql.renderEach d 0 c.projection) ++ " FROM "
      ++ c.rows.renderAfter d (c.projection.flatMap Sql.params).length := by
  simp only [body_eq_rows, Sql.render, Sql.renderAfter_append, Sql.renderAfter_ofText,
    Sql.renderAfter_join, Sql.params_append, Sql.params_ofText, Sql.params_join, List.nil_append,
    List.append_nil, List.length_nil, Nat.zero_add]
  rfl

/-- The column that ranks rows by the texts of their weights: one weight, or the sum of all. -/
def rankingText : List String → String
  | [score] => score ++ " AS __weight"
  | scores => "(" ++ " + ".intercalate scores ++ ") AS __weight"

theorem params_rankingColumn (scores : List Sql) :
    (rankingColumn scores).flatMap Sql.params = scores.flatMap Sql.params := by
  rw [Sql.flatMap_params, rankingColumn_slots, ← Sql.flatMap_params]

/-- All weights make one column. -/
theorem renderEach_rankingColumn (d : Dialect) (n : Nat) {scores : List Sql} (h : scores ≠ []) :
    Sql.renderEach d n (rankingColumn scores) = [rankingText (Sql.renderEach d n scores)] := by
  match scores with
  | [] => exact absurd rfl h
  | [score] =>
    simp only [rankingColumn, Sql.renderEach, rankingText, Sql.renderAfter_append,
      Sql.renderAfter_ofText]
    rfl
  | a :: b :: rest =>
    simp only [rankingColumn, Sql.renderEach, rankingText, Sql.bracketed, Sql.renderAfter_append,
      Sql.renderAfter_ofText, Sql.renderAfter_join, Sql.params_ofText, List.length_nil,
      Nat.add_zero, String.append_assoc]
    rfl

/-- A page differs without an order in the neutral one alone. -/
theorem Dialect.pagingClause_eq (d : Dialect) (limit offset : Option Nat) (ordered : Bool) :
    d.pagingClause limit offset ordered =
      (if !ordered && d == .mssql && (limit.isSome || offset.isSome) then RowOrder.neutral.text
        else "") ++ d.pagingClause limit offset true := by
  cases d with
  | mssql =>
    rw [Query.pagingClause_mssql, Query.pagingClause_mssql]
    cases ordered <;> cases limit.isSome || offset.isSome <;> simp
  | mysql | postgres => cases limit <;> cases offset <;> simp [pagingClause]

namespace Query

def ranked (q : Query) (ws : List Weight) : Query := { q with weights := ws }

@[simp] theorem ranked_dialect (q : Query) (ws : List Weight) :
    (q.ranked ws).dialect = q.dialect := rfl

/-- The columns that a query selects, as they are written. -/
def columnTexts (q : Query) : List String :=
  if q.columns.isEmpty then ["*"] else q.columns.map q.dialect.escapeIdentifier

/-- A SELECT that lists `items`, with `rows` behind FROM and `ending` behind these. -/
def selectText (q : Query) (items : List String) (rows ending : String) : String :=
  (if q.distinct then "SELECT DISTINCT " else "SELECT ") ++ commaList items ++ " FROM " ++ rows
    ++ ending

/-- The slice that a query is cut to, behind an order. -/
def pagingText (q : Query) : String := q.dialect.pagingClause q.limit q.offset true

/-- The order of a query by itself. SQL Server gets a neutral one for a page without order. -/
def orderOrNeutral (q : Query) : String :=
  if q.pageOrder.isEmpty && q.dialect == .mssql && (q.limit.isSome || q.offset.isSome) then
    RowOrder.neutral.text
  else orderText q.pageOrder

theorem endText_eq (q : Query) : q.endText .outermost = q.orderOrNeutral ++ q.pagingText := by
  have hend : q.endText .outermost = orderText q.pageOrder
      ++ q.dialect.pagingClause q.limit q.offset (!q.pageOrder.isEmpty) := rfl
  rw [hend, Dialect.pagingClause_eq, orderOrNeutral, pagingText]
  cases hempty : q.pageOrder.isEmpty with
  | false => simp
  | true => simp [orderText, hempty]

/-- Weights come first in the order. -/
theorem pageOrder_ranked {q : Query} (hq : q.weights = []) {ws : List Weight} (hws : ws ≠ []) :
    (q.ranked ws).pageOrder = "__weight DESC" :: q.pageOrder := by
  have hranked : (!(q.ranked ws).weights.isEmpty) = true := by simpa [ranked] using hws
  have hplain : (!q.weights.isEmpty) = false := by simp [hq]
  unfold pageOrder orderEntries
  rw [hranked, hplain]
  rfl

/-- A page behind weights takes no neutral order. -/
theorem endText_ranked {q : Query} (hq : q.weights = []) {ws : List Weight} (hws : ws ≠ []) :
    (q.ranked ws).endText .outermost =
      orderText ("__weight DESC" :: q.pageOrder) ++ q.pagingText := by
  rw [endText_eq, orderOrNeutral, pageOrder_ranked hq hws]
  rfl

/-- A query without weights gets some. They are a column more and an order, and nothing else of the
clauses changes. -/
theorem clauses_ranked {q : Query} (hq : q.weights = []) (ws : List Weight) (d : Dialect)
    (place : Place) (c' : Clauses) :
    (q.ranked ws).clauses d place = .ok c' ↔
      ∃ scores c, Weight.sqls d ws = .ok scores ∧ q.clauses d place = .ok c ∧
        c' = { c with
          projection := c.projection ++ rankingColumn scores
          orderBy := (q.ranked ws).orderAt place
          paging := q.dialect.pagingClause q.limit q.offset
            (!((q.ranked ws).orderAt place).isEmpty) } := by
  constructor
  · intro h
    obtain ⟨source, scores, sourceSql, joinSqls, lexemes, hsource, hw, hs, hj, hl, rfl⟩ :=
      clauses_eq_ok_iff.mp h
    refine ⟨scores, _, hw, clauses_eq_ok_iff.mpr ⟨source, [], sourceSql, joinSqls, lexemes,
      hsource, hq ▸ rfl, hs, hj, hl, rfl⟩, ?_⟩
    simp only [rankingColumn, List.append_nil]
    rfl
  · rintro ⟨scores, c, hw, hc, rfl⟩
    obtain ⟨source, none, sourceSql, joinSqls, lexemes, hsource, hnone, hs, hj, hl, rfl⟩ :=
      clauses_eq_ok_iff.mp hc
    rw [hq] at hnone
    cases hnone
    refine clauses_eq_ok_iff.mpr ⟨source, scores, sourceSql, joinSqls, lexemes,
      hsource, hw, hs, hj, hl, ?_⟩
    simp only [rankingColumn, List.append_nil]
    rfl

theorem projection_of_unranked {q : Query} (hq : q.weights = []) {d : Dialect} {place : Place}
    {c : Clauses} (h : q.clauses d place = .ok c) :
    c.distinct = q.distinct ∧ c.projection = q.columnTexts.map Sql.ofText := by
  obtain ⟨source, scores, sourceSql, joinSqls, lexemes, -, hw, -, -, -, rfl⟩ :=
    clauses_eq_ok_iff.mp h
  rw [hq] at hw
  cases hw
  refine ⟨rfl, ?_⟩
  unfold columnTexts
  cases q.columns.isEmpty <;> simp [rankingColumn]

/-- The statement of a query that gets weights, from the clauses that it has without them. -/
theorem selectStatement_ranked {q : Query} (hq : q.weights = []) {ws : List Weight} {c : Clauses}
    {scores : List Sql} (hc : q.clauses q.dialect .outermost = .ok c)
    (hw : Weight.sqls q.dialect ws = .ok scores) :
    (q.ranked ws).selectStatement = .ok (.ofText q.dialect .select
      (q.selectText (q.columnTexts ++ Sql.renderEach q.dialect 0 (rankingColumn scores))
        (c.rows.renderAfter q.dialect (scores.flatMap Sql.params).length)
        ((q.ranked ws).endText .outermost))
      (scores.flatMap Sql.params ++ c.rows.params)) := by
  have hranked := (clauses_ranked hq ws q.dialect .outermost _).mpr ⟨scores, c, hw, hc, rfl⟩
  obtain ⟨hdistinct, hprojection⟩ := projection_of_unranked hq hc
  have hitems : Sql.renderEach q.dialect 0 (c.projection ++ rankingColumn scores) =
      q.columnTexts ++ Sql.renderEach q.dialect 0 (rankingColumn scores) := by
    rw [hprojection, Sql.renderEach_append, Sql.renderEach_ofText, Sql.flatMap_params_ofText]
    rfl
  have hparams : (c.projection ++ rankingColumn scores).flatMap Sql.params =
      scores.flatMap Sql.params := by
    rw [hprojection, List.flatMap_append, params_rankingColumn, Sql.flatMap_params_ofText]
    rfl
  rw [selectStatement_eq, ranked_dialect, hranked]
  simp only [Except.map, end_of_clauses hranked, Clauses.render_body, Clauses.params_body, hitems,
    hparams, hdistinct]
  rfl

theorem ranked_nil {q : Query} (hq : q.weights = []) : q.ranked [] = q := by
  cases q
  cases hq
  rfl

/-- Without weights nothing stands in front of the rows that takes a number. -/
theorem selectStatement_unranked {q : Query} (hq : q.weights = []) {c : Clauses}
    (hc : q.clauses q.dialect .outermost = .ok c) :
    q.selectStatement = .ok (.ofText q.dialect .select
      (q.selectText q.columnTexts (c.rows.render q.dialect) (q.orderOrNeutral ++ q.pagingText))
      c.rows.params) := by
  have hranked := selectStatement_ranked hq hc (rfl : Weight.sqls q.dialect [] = .ok [])
  rw [ranked_nil hq, endText_eq] at hranked
  simpa [rankingColumn, Sql.renderEach, Sql.render] using hranked

theorem parts_of_ranked {q : Query} (hq : q.weights = []) {ws : List Weight} {s' : Statement}
    (h : (q.ranked ws).selectStatement = .ok s') :
    ∃ scores c, Weight.sqls q.dialect ws = .ok scores ∧
      q.clauses q.dialect .outermost = .ok c := by
  rw [selectStatement_eq] at h
  obtain ⟨c', hc', -⟩ := map_eq_ok.mp h
  obtain ⟨scores, c, hw, hc, -⟩ := (clauses_ranked hq ws _ _ _).mp hc'
  exact ⟨scores, c, hw, hc⟩

/-- Weights and a query can be written together when each of them can. -/
theorem ranked_written_iff {q : Query} (hq : q.weights = []) (ws : List Weight) :
    (∃ s', (q.ranked ws).selectStatement = .ok s') ↔
      (∃ s, q.selectStatement = .ok s) ∧ ∃ scores, Weight.sqls q.dialect ws = .ok scores := by
  constructor
  · rintro ⟨s', hs'⟩
    obtain ⟨scores, c, hw, hc⟩ := parts_of_ranked hq hs'
    exact ⟨⟨_, selectStatement_unranked hq hc⟩, scores, hw⟩
  · rintro ⟨⟨s, hs⟩, scores, hw⟩
    rw [selectStatement_eq] at hs
    obtain ⟨c, hc, -⟩ := map_eq_ok.mp hs
    exact ⟨_, selectStatement_ranked hq hc hw⟩

/-- Each weight has its text, and its bound values in their order. -/
theorem scores_of_weights {d : Dialect} {ws : List Weight} {scores : List Sql}
    (hw : Weight.sqls d ws = .ok scores) :
    List.Forall₂ (fun w score => w.sql d = .ok score) ws scores ∧
      scores.flatMap Sql.params = (Weight.allBoundValues ws).filter (!·.isNull) := by
  constructor
  · exact forall₂_of_each (Weight.sql d) (Weight.sqls d) rfl (fun _ _ => by rw [Weight.sqls])
      (fun _ _ h => h) hw
  · have hwrites := Weight.sqls_writes d ws
    rw [hw] at hwrites
    rw [Sql.flatMap_params, hwrites.2]

/-- A query without weights gets some. It can still be written exactly when they can. Its SELECT
then lists one column more, the sum of the weights, and is ordered by this column first, where it
may have had a neutral order. The text between is the same, with placeholders that are numbered on
from the parameters of the weights. -/
theorem weights_add_one_column {q : Query} (hq : q.weights = []) {ws : List Weight}
    (hws : ws ≠ []) :
    ((∃ s', (q.ranked ws).selectStatement = .ok s') ↔
      (∃ s, q.selectStatement = .ok s) ∧ ∃ scores, Weight.sqls q.dialect ws = .ok scores) ∧
    ∀ s s', q.selectStatement = .ok s → (q.ranked ws).selectStatement = .ok s' →
      ∃ scores fragments,
        List.Forall₂ (fun w score => w.sql q.dialect = .ok score) ws scores ∧
        scores.flatMap Sql.params = (Weight.allBoundValues ws).filter (!·.isNull) ∧
        fragments.length = s.params.length + 1 ∧
        s.sql = q.selectText q.columnTexts
          (Sql.fill fragments (Sql.placeholders q.dialect 0 s.params.length))
          (q.orderOrNeutral ++ q.pagingText) ∧
        s'.sql = q.selectText
          (q.columnTexts ++ [rankingText (Sql.renderEach q.dialect 0 scores)])
          (Sql.fill fragments (Sql.placeholders q.dialect (scores.flatMap Sql.params).length
            s.params.length))
          (orderText ("__weight DESC" :: q.pageOrder) ++ q.pagingText) ∧
        s'.params = scores.flatMap Sql.params ++ s.params ∧
        s'.names = q.dialect.parameterNames s'.params.length ∧ s'.kind = s.kind ∧
        s'.returning = s.returning := by
  constructor
  · exact ranked_written_iff hq ws
  · intro s s' hs hs'
    obtain ⟨scores, c, hw, hc⟩ := parts_of_ranked hq hs'
    obtain ⟨heach, hbound⟩ := scores_of_weights hw
    have hscores : scores ≠ [] := by
      rintro rfl
      cases heach
      exact hws rfl
    -- both texts come from the same rows, which are numbered from another start
    cases Except.ok.inj (hs.symm.trans (selectStatement_unranked hq hc))
    cases Except.ok.inj (hs'.symm.trans (selectStatement_ranked hq hc hw))
    refine ⟨scores, c.rows.settled.fragments, heach, hbound, ?_, ?_, ?_, rfl, rfl, rfl, rfl⟩
    · show _ = c.rows.params.length + 1
      rw [Sql.fragments_length, Sql.slots_settled]
    · show q.selectText _ (c.rows.render q.dialect) _ = _
      rw [Sql.render, Sql.renderAfter_eq_fill_placeholders]
      rfl
    · show q.selectText _ (c.rows.renderAfter q.dialect _) _ = _
      rw [renderEach_rankingColumn q.dialect 0 hscores, endText_ranked hq hws,
        Sql.renderAfter_eq_fill_placeholders]
      rfl

/-- Three paid orders. -/
def threePaid : Query :=
  { ((empty .mssql none).table "orders").such (Predicate.equals "paid" (.bool true)) with
    limit := some 3 }

/-- Members count more than guests, and urgent orders more than both. -/
def orderWeights : List Weight :=
  [⟨[Predicate.equals "member" (.bool true)], Double.ofInt 2,
      .weight ⟨[Predicate.equals "guest" (.bool false)], Double.ofInt 1, .score (Double.ofInt 0)⟩⟩,
    ⟨[Predicate.equals "urgent" (.bool true)], Double.ofInt 5, .score (Double.ofInt 0)⟩]

/-- Ranked, they lose the neutral order, and their own placeholder becomes the fourth. -/
theorem threePaid_ranked : threePaid.weights = [] ∧ orderWeights ≠ [] ∧
    ∃ s s', threePaid.selectStatement = .ok s ∧
      (threePaid.ranked orderWeights).selectStatement = .ok s' ∧
      s'.params = [.bool true, .bool false, .bool true] ++ s.params ∧
      s.sql = "SELECT * FROM orders WHERE paid = @param1 ORDER BY (SELECT NULL) OFFSET 0 ROWS "
        ++ "FETCH NEXT 3 ROWS ONLY" ∧
      s'.sql = "SELECT *, (CASE WHEN member = @param1 THEN 2 ELSE CASE WHEN guest = @param2 THEN "
        ++ "1 ELSE 0 END END + CASE WHEN urgent = @param3 THEN 5 ELSE 0 END) AS __weight FROM "
        ++ "orders WHERE paid = @param4 ORDER BY __weight DESC OFFSET 0 ROWS "
        ++ "FETCH NEXT 3 ROWS ONLY" := by
  have hweights : orderWeights ≠ [] := nofun
  obtain ⟨hwritten, hrelated⟩ := weights_add_one_column (q := threePaid) rfl hweights
  obtain ⟨s', hs'⟩ := hwritten.mpr ⟨⟨_, rfl⟩, ⟨_, rfl⟩⟩
  obtain ⟨⟨s, hs⟩, -⟩ := hwritten.mp ⟨s', hs'⟩
  obtain ⟨scores, fragments, -, hbound, -, -, -, hparams, -⟩ := hrelated s s' hs hs'
  have htext : threePaid.selectStatement.toOption.map (·.sql) = some
      ("SELECT * FROM orders WHERE paid = @param1 ORDER BY (SELECT NULL) OFFSET 0 ROWS "
        ++ "FETCH NEXT 3 ROWS ONLY") := by decide +kernel
  have htext' : (threePaid.ranked orderWeights).selectStatement.toOption.map (·.sql) = some
      ("SELECT *, (CASE WHEN member = @param1 THEN 2 ELSE CASE WHEN guest = @param2 THEN "
        ++ "1 ELSE 0 END END + CASE WHEN urgent = @param3 THEN 5 ELSE 0 END) AS __weight FROM "
        ++ "orders WHERE paid = @param4 ORDER BY __weight DESC OFFSET 0 ROWS "
        ++ "FETCH NEXT 3 ROWS ONLY") := by decide +kernel
  rw [hs] at htext
  rw [hs'] at htext'
  rw [hbound] at hparams
  exact ⟨rfl, hweights, s, s', hs, hs', hparams, Option.some.inj htext, Option.some.inj htext'⟩

end Query
end SqlRecords
