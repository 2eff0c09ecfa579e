import Mathlib.Data.List.Forall2
import Mathlib.Data.List.Nodup
import SqlRecords.Proofs.Query.Drafts
import SqlRecords.Proofs.Row.RepeatedNames

/-! Rows of an INSERT. They may have different columns in different orders, and each tuple follows
the columns of all of them. -/
namespace SqlRecords

/-- Fields that are asked for by name, each of them once, are all found. -/
theorem Fields.perm_of_names {α : Type} {fields : Fields α} (h : fields.keys.Nodup)
    {names : List String} (hnames : names.Nodup) (hall : fields.keys ⊆ names) :
    (names.filterMap fun name => (fields.get? name).map (name, ·)).Perm fields := by
  have hasked : (names.filterMap fun name => (fields.get? name).map (name, ·)).Nodup := by
    apply hnames.filterMap
    intro a b p ha hb
    obtain ⟨v, -, rfl⟩ := Option.map_eq_some_iff.mp ha
    obtain ⟨w, -, heq⟩ := Option.map_eq_some_iff.mp hb
    exact (congrArg Prod.fst heq).symm
  apply (List.perm_ext_iff_of_nodup hasked (List.Nodup.of_map _ h)).mpr
  rintro ⟨name, v⟩
  rw [List.mem_filterMap]
  constructor
  · rintro ⟨other, -, hother⟩
    obtain ⟨w, hw, heq⟩ := Option.map_eq_some_iff.mp hother
    cases heq
    exact mem_of_get? hw
  · intro hmem
    refine ⟨name, hall (List.mem_map_of_mem hmem), ?_⟩
    rw [get?_of_mem h hmem]
    rfl

theorem insertColumns_eq_keys (rows : List (Fields Value)) :
    insertColumns rows = (Fields.ofList rows.flatten).keys := by
  have hfold (more : Fields Value) : ∀ fields : Fields Value,
      more.foldl (fun acc p => if acc.contains p.1 then acc else acc ++ [p.1]) fields.keys =
        (fields.insertAll more).keys := by
    induction more with
    | nil => exact fun _ => rfl
    | cons p rest ih =>
      intro fields
      rw [List.foldl_cons, Fields.insertAll, List.foldl_cons, ← Fields.insertAll, ← ih,
        Fields.keys_insert]
      simp
  exact hfold rows.flatten []

/-- The columns of an INSERT are those of all rows, each where it first appears. -/
theorem insertColumns_eq (rows : List (Fields Value)) :
    insertColumns rows = (rows.flatMap Fields.keys).eraseDups := by
  rw [insertColumns_eq_keys, Fields.keys_ofList, Fields.keys, List.map_flatten, List.flatMap_def]
  rfl

theorem nodup_insertColumns (rows : List (Fields Value)) : (insertColumns rows).Nodup := by
  have hempty : (Fields.keys ([] : Fields Value)).Nodup := List.nodup_nil
  rw [insertColumns_eq_keys]
  exact Fields.nodup_keys_insertAll hempty rows.flatten

/-- What a tuple has in one column. -/
inductive Entry where
  | missing | null | parameter (n : Nat) | inline (text : String)
  deriving DecidableEq, Repr

/-- A value in a statement that binds none of them. -/
def inlineText (d : Dialect) : Value → String
  | .text s => s
  | v => d.literal v

theorem writtenValue_inline (d : Dialect) (v : Value) :
    writtenValue d false v = Sql.ofText (inlineText d v) := by
  cases v <;> rfl

namespace Entry

def text (d : Dialect) : Entry → String
  | .missing => "DEFAULT"
  | .null => "NULL"
  | .parameter n => d.placeholder n
  | .inline text => text

def number? : Entry → Option Nat
  | .parameter n => some n
  | _ => none

/-- An entry stands for the value that a row has in its column, or for none. -/
inductive Shows (d : Dialect) (params : List Value) : Bool → Option Value → Entry → Prop
  | missing (bound : Bool) : Shows d params bound none .missing
  | null : Shows d params true (some .null) .null
  | parameter {v : Value} {i : Nat} (hv : v.isNull = false) (h : params[i]? = some v) :
    Shows d params true (some v) (.parameter (i + 1))
  | inline (v : Value) : Shows d params false (some v) (.inline (inlineText d v))

/-- What is written for the value of a row, or for none. -/
def sql (d : Dialect) (bound : Bool) : Option Value → Sql
  | some v => writtenValue d bound v
  | none => Sql.ofText "DEFAULT"

/-- The entry that is written when `n` slots have been numbered before. -/
def of (d : Dialect) (bound : Bool) (n : Nat) : Option Value → Entry
  | none => .missing
  | some v =>
    if bound then if v.isNull then .null else .parameter (n + 1) else .inline (inlineText d v)

theorem text_of (d : Dialect) (bound : Bool) (n : Nat) (o : Option Value) :
    (sql d bound o).renderAfter d n = (of d bound n o).text d := by
  cases o with
  | none => exact Sql.renderAfter_ofText d n _
  | some v =>
    cases bound with
    | false => rw [sql, writtenValue_inline, Sql.renderAfter_ofText, of]; rfl
    | true => cases v <;> simp [sql, writtenValue, Sql.bind, Sql.renderAfter, Sql.chunks, of,
        Value.isNull, text]

/-- An entry takes a number for each parameter. -/
theorem number?_of (d : Dialect) (bound : Bool) (n : Nat) (o : Option Value) :
    [of d bound n o].filterMap number? = List.range' (n + 1) (sql d bound o).params.length := by
  cases o with
  | none => rfl
  | some v =>
    cases bound with
    | false => rw [sql, writtenValue_inline, of]; rfl
    | true => cases v <;> rfl

theorem of_shows {d : Dialect} {bound : Bool} {n : Nat} {o : Option Value}
    {params after : List Value} (h : params.drop n = (sql d bound o).params ++ after) :
    (of d bound n o).Shows d params bound o := by
  cases o with
  | none => exact .missing bound
  | some v =>
    cases bound with
    | false => exact .inline v
    | true =>
      cases hv : v.isNull with
      | true =>
        cases v <;> cases hv
        exact .null
      | false =>
        have hslot : (sql d true (some v)).params = [v] := by
          show (Sql.bind v).params = [v]
          simp [Sql.bind, hv, Sql.params, Sql.slots]
        have hfirst : params[n]? = some v := by
          rw [← List.head?_drop, h, hslot]
          rfl
        have hof : of d true n (some v) = .parameter (n + 1) := by simp [of, hv]
        rw [hof]
        exact .parameter hv hfirst

/-- The entries of one tuple, numbered on from `n`. -/
def tuple (d : Dialect) (bound : Bool) (n : Nat) : List (Option Value) → List Entry
  | [] => []
  | o :: rest => of d bound n o :: tuple d bound (n + (sql d bound o).params.length) rest

variable (d : Dialect) (bound : Bool)

theorem text_tuple (n : Nat) (os : List (Option Value)) :
    Sql.renderEach d n (os.map (sql d bound)) = (tuple d bound n os).map (text d) := by
  induction os generalizing n with
  | nil => rfl
  | cons o rest ih => simp only [List.map_cons, Sql.renderEach, tuple, text_of, ih]

theorem numbers_tuple (n : Nat) (os : List (Option Value)) :
    (tuple d bound n os).filterMap number? =
      List.range' (n + 1) ((os.map (sql d bound)).flatMap Sql.params).length := by
  induction os generalizing n with
  | nil => rfl
  | cons o rest ih =>
    have hsplit : tuple d bound n (o :: rest) =
        [of d bound n o] ++ tuple d bound (n + (sql d bound o).params.length) rest := rfl
    rw [hsplit, List.filterMap_append, number?_of, ih, List.map_cons, List.flatMap_cons,
      List.length_append, ← List.range'_append_1, Nat.add_right_comm]

theorem tuple_shows {params : List Value} (n : Nat) (os : List (Option Value))
    {after : List Value}
    (h : params.drop n = (os.map (sql d bound)).flatMap Sql.params ++ after) :
    List.Forall₂ (Shows d params bound) os (tuple d bound n os) := by
  induction os generalizing n with
  | nil => exact .nil
  | cons o rest ih =>
    rw [List.map_cons, List.flatMap_cons, List.append_assoc] at h
    constructor
    · exact of_shows h
    · apply ih
      rw [← List.drop_drop, h, List.drop_left]

theorem insertTuple_eq (columns : List String) (row : Fields Value) :
    insertTuple d bound columns row =
      Sql.bracketed (Sql.join ", " ((columns.map row.get?).map (sql d bound))) := by
  unfold insertTuple
  rw [List.map_map]
  rfl

theorem params_insertTuple (columns : List String) (row : Fields Value) :
    (insertTuple d bound columns row).params =
      ((columns.map row.get?).map (sql d bound)).flatMap Sql.params := by
  rw [insertTuple_eq, Sql.params, Sql.slots_bracketed, ← Sql.params, Sql.params_join]

/-- The tuples of rows, numbered on from one to the next. -/
def tuples (columns : List String) (n : Nat) : List (Fields Value) → List (List Entry)
  | [] => []
  | row :: rest =>
    tuple d bound n (columns.map row.get?) ::
      tuples columns (n + (insertTuple d bound columns row).params.length) rest

def tupleText (entries : List Entry) : String := "(" ++ commaList (entries.map (text d)) ++ ")"

variable (columns : List String)

theorem text_tuples (n : Nat) (rows : List (Fields Value)) :
    Sql.renderEach d n (rows.map (insertTuple d bound columns)) =
      (tuples d bound columns n rows).map (tupleText d) := by
  induction rows generalizing n with
  | nil => rfl
  | cons row rest ih =>
    have htuple : (insertTuple d bound columns row).renderAfter d n =
        tupleText d (tuple d bound n (columns.map row.get?)) := by
      rw [insertTuple_eq]
      simp only [Sql.bracketed, Sql.renderAfter_append, Sql.renderAfter_ofText,
        Sql.renderAfter_join, Sql.params_ofText, List.length_nil, Nat.add_zero, text_tuple]
      rfl
    rw [List.map_cons, Sql.renderEach, htuple, ih, tuples, List.map_cons]

theorem numbers_tuples (n : Nat) (rows : List (Fields Value)) :
    (tuples d bound columns n rows).flatten.filterMap number? =
      List.range' (n + 1) ((rows.map (insertTuple d bound columns)).flatMap Sql.params).length := by
  induction rows generalizing n with
  | nil => rfl
  | cons row rest ih =>
    rw [tuples, List.flatten_cons, List.filterMap_append, numbers_tuple, ← params_insertTuple, ih,
      List.map_cons, List.flatMap_cons, List.length_append, ← List.range'_append_1,
      Nat.add_right_comm]

end Entry

/-- What is read from an entry: a bound value, or the text of one. -/
inductive Content where
  | value (v : Value)
  | text (s : String)

/-- How a value arrives: as it is if it is bound, else as its text. -/
def Content.of (d : Dialect) (bound : Bool) (v : Value) : Content :=
  if bound then .value v else .text (inlineText d v)

namespace Entry

def content? (params : List Value) : Entry → Option Content
  | .missing => none
  | .null => some (.value .null)
  | .parameter n => params[n - 1]?.map .value
  | .inline s => some (.text s)

/-- A tuple read against the columns, without those that it leaves to their defaults. -/
def readTuple (params : List Value) (columns : List String) (tuple : List Entry) :
    Fields Content :=
  (columns.zip tuple).filterMap fun (column, entry) => (entry.content? params).map (column, ·)

variable {d : Dialect} {bound : Bool} {params : List Value} {columns : List String}

theorem Shows.content {o : Option Value} {entry : Entry} (h : entry.Shows d params bound o) :
    entry.content? params = o.map (.of d bound) := by
  cases h with
  | missing => rfl
  | null => rfl
  | parameter hv h => simp [content?, h, Content.of]
  | inline v => rfl

theorem readTuple_eq {row : Fields Value} {tuple : List Entry}
    (h : List.Forall₂ (fun column entry => Shows d params bound (row.get? column) entry) columns
      tuple) :
    readTuple params columns tuple =
      Fields.mapValues (.of d bound)
        (columns.filterMap fun column => (row.get? column).map (column, ·)) := by
  induction h with
  | nil => rfl
  | @cons column entry columns tuple hentry _ ih =>
    unfold readTuple at ih ⊢
    simp only [List.zip_cons_cons, List.filterMap_cons, hentry.content]
    cases row.get? column with
    | none => exact ih
    | some v => exact congrArg (_ :: ·) ih

/-- A tuple has for each column what its row has there, so the row is read back from it. -/
structure Aligned (d : Dialect) (bound : Bool) (params : List Value) (columns : List String)
    (row : Fields Value) (tuple : List Entry) : Prop where
  entries : List.Forall₂ (fun column entry => Shows d params bound (row.get? column) entry)
    columns tuple
  recovers : row.keys.Nodup →
    (readTuple params columns tuple).Perm (row.mapValues (Content.of d bound))

theorem aligned_tuple (hcolumns : columns.Nodup) {row : Fields Value} (hrow : row.keys ⊆ columns)
    {n : Nat} {after : List Value}
    (h : params.drop n = (insertTuple d bound columns row).params ++ after) :
    Aligned d bound params columns row (tuple d bound n (columns.map row.get?)) := by
  rw [params_insertTuple] at h
  have hentries := List.forall₂_map_left_iff.mp (tuple_shows d bound n _ h)
  constructor
  · exact hentries
  · intro hnodup
    rw [readTuple_eq hentries]
    exact (Fields.perm_of_names hnodup hcolumns hrow).map _

theorem aligned_tuples (hcolumns : columns.Nodup) {rows : List (Fields Value)}
    (hrows : ∀ row ∈ rows, row.keys ⊆ columns) {n : Nat} {after : List Value}
    (h : params.drop n =
      (rows.map (insertTuple d bound columns)).flatMap Sql.params ++ after) :
    List.Forall₂ (Aligned d bound params columns) rows (tuples d bound columns n rows) := by
  induction rows generalizing n with
  | nil => exact .nil
  | cons row rest ih =>
    rw [List.map_cons, List.flatMap_cons, List.append_assoc] at h
    constructor
    · exact aligned_tuple hcolumns (hrows row List.mem_cons_self) h
    · apply ih fun other hother => hrows other (List.mem_cons_of_mem row hother)
      -- behind the parameters of this tuple stand those of the others
      rw [← List.drop_drop, h, List.drop_left]

end Entry

namespace Query

/-- An INSERT that is written has a table and columns. -/
theorem insertDraft_eq_ok {q : Query} {rows : List (Fields Value)} {bound : Bool}
    (hpayload : q.payload = some (.insert rows bound)) {draft : Draft} :
    q.insertDraft = .ok draft ↔ ∃ table, q.source = some (.table table) ∧
      (insertColumns rows).isEmpty = false ∧ draft = {
        kind := .insert
        sql := Sql.ofText ("INSERT INTO " ++ q.dialect.escapeIdentifier table ++ " ("
            ++ commaList ((insertColumns rows).map q.dialect.escapeIdentifier) ++ ")"
            ++ q.outputClause ++ " VALUES ")
          ++ Sql.join ", " (rows.map (insertTuple q.dialect bound (insertColumns rows)))
          ++ Sql.ofText q.returningClause
        returning := q.returning } := by
  unfold insertDraft target
  rw [hpayload]
  constructor
  · intro h
    obtain ⟨escaped, htarget, h⟩ := bind_eq_ok.mp h
    obtain ⟨table, hsource, rfl⟩ : ∃ table, q.source = some (.table table) ∧
        q.dialect.escapeIdentifier table = escaped := by
      split at htarget
      · exact ⟨_, ‹_›, Except.ok.inj htarget⟩
      · cases htarget
      · cases htarget
    refine ⟨table, hsource, ?_⟩
    cases hcolumns : (insertColumns rows).isEmpty with
    | true =>
      simp only [hcolumns, if_true] at h
      cases h
    | false =>
      simp only [hcolumns, Bool.false_eq_true, if_false] at h
      exact ⟨rfl, (Except.ok.inj h).symm⟩
  · rintro ⟨table, hsource, hcolumns, rfl⟩
    simp only [hsource, ok_bind, hcolumns, Bool.false_eq_true, if_false]
    rfl

/-- An INSERT of rows has each column of any row once, in order of first appearance, and one tuple
for each row. A tuple has one entry for each column: what its row has there, and DEFAULT where the
row has nothing, so read against the columns it gives the row. The parameters stand in the tuples
one after another, each once. -/
theorem insert_aligns_rows {q : Query} {rows : List (Fields Value)} {bound : Bool} {s : Statement}
    (hpayload : q.payload = some (.insert rows bound)) (h : q.insertStatement = .ok s) :
    ∃ table tuples, q.source = some (.table table) ∧
      insertColumns rows = (rows.flatMap Fields.keys).eraseDups ∧ (insertColumns rows).Nodup ∧
      s.sql = "INSERT INTO " ++ q.dialect.escapeIdentifier table ++ " ("
        ++ commaList ((insertColumns rows).map q.dialect.escapeIdentifier) ++ ")" ++ q.outputClause
        ++ " VALUES " ++ commaList (tuples.map (Entry.tupleText q.dialect)) ++ q.returningClause ∧
      List.Forall₂ (Entry.Aligned q.dialect bound s.params (insertColumns rows)) rows tuples ∧
      tuples.flatten.filterMap Entry.number? = List.range' 1 s.params.length := by
  obtain ⟨draft, hdraft, rfl⟩ := map_eq_ok.mp h
  obtain ⟨table, hsource, -, hshape⟩ := (insertDraft_eq_ok hpayload).mp hdraft
  have hall : ∀ row ∈ rows, row.keys ⊆ insertColumns rows := by
    intro row hrow column hcolumn
    rw [insertColumns_eq, List.mem_eraseDups]
    exact List.mem_flatMap.mpr ⟨row, hrow, hcolumn⟩
  have hparams : (Statement.ofDraft q.dialect draft).params =
      (rows.map (insertTuple q.dialect bound (insertColumns rows))).flatMap Sql.params := by
    rw [hshape]
    simp only [Statement.ofDraft, Statement.ofSql, Statement.ofText, Sql.params_append,
      Sql.params_ofText, Sql.params_join, List.nil_append, List.append_nil]
  have htext : (Statement.ofDraft q.dialect draft).sql = "INSERT INTO "
      ++ q.dialect.escapeIdentifier table ++ " ("
      ++ commaList ((insertColumns rows).map q.dialect.escapeIdentifier) ++ ")" ++ q.outputClause
      ++ " VALUES " ++ commaList (Sql.renderEach q.dialect 0
        (rows.map (insertTuple q.dialect bound (insertColumns rows)))) ++ q.returningClause := by
    rw [hshape]
    simp only [Statement.ofDraft, Statement.ofSql, Statement.ofText, Sql.render,
      Sql.renderAfter_append, Sql.renderAfter_ofText, Sql.renderAfter_join, Sql.params_ofText,
      List.length_nil, Nat.add_zero]
    rfl
  refine ⟨table, Entry.tuples q.dialect bound (insertColumns rows) 0 rows, hsource,
    insertColumns_eq rows, nodup_insertColumns rows, ?_, ?_, ?_⟩
  · rw [htext, Entry.text_tuples]
  · apply Entry.aligned_tuples (nodup_insertColumns rows) hall
    rw [List.drop_zero, hparams, List.append_nil]
  · rw [Entry.numbers_tuples, hparams]

/-- Two people, one of unknown age and the other of unstated age. -/
def twoPeople : Query :=
  { ((empty .postgres none).table "people").insert
      [[("name", .text "Ann"), ("age", .null)], [("town", .text "Oslo"), ("name", .text "Bob")]]
      true with
    returning := some "id" }

/-- Ann has no town and Bob has no age, which differs from an age that is null. -/
theorem twoPeople_aligned : ∃ rows s tuples, twoPeople.payload = some (.insert rows true) ∧
    twoPeople.insertStatement = .ok s ∧
    s.sql = "INSERT INTO people (name, age, town) VALUES ($1, NULL, DEFAULT), ($2, DEFAULT, $3) "
      ++ "RETURNING id" ∧
    s.params = [.text "Ann", .text "Bob", .text "Oslo"] ∧
    List.Forall₂ (Entry.Aligned .postgres true s.params ["name", "age", "town"]) rows tuples ∧
    tuples.flatten.filterMap Entry.number? = [1, 2, 3] := by
  obtain ⟨s, hs⟩ : ∃ s, twoPeople.insertStatement = .ok s := ⟨_, rfl⟩
  have htext : twoPeople.insertStatement.toOption.map (·.sql) = some
      ("INSERT INTO people (name, age, town) VALUES ($1, NULL, DEFAULT), ($2, DEFAULT, $3) "
        ++ "RETURNING id") := by decide +kernel
  have hparams : twoPeople.insertStatement.toOption.map (·.params) =
      some [.text "Ann", .text "Bob", .text "Oslo"] := rfl
  obtain ⟨table, tuples, -, -, -, -, haligned, hnumbers⟩ := insert_aligns_rows rfl hs
  rw [hs] at htext hparams
  have hbound : s.params = [.text "Ann", .text "Bob", .text "Oslo"] := Option.some.inj hparams
  rw [hbound] at hnumbers
  exact ⟨_, s, tuples, rfl, hs, Option.some.inj htext, hbound, haligned, hnumbers⟩

end Query
end SqlRecords
