import SqlRecords.Proofs.Query.Drafts

/-! Parameters of statements. A statement has the bound values of its parts as parameters, numbered
in the order of its text, and its text depends on no bound value but through which are null. -/
namespace SqlRecords

/-- Two outcomes of writing a statement that differ in the parameters at most. -/
def SameText : Except Incomplete Statement → Except Incomplete Statement → Prop
  | .ok s, .ok s' =>
    s.sql = s'.sql ∧ s.names = s'.names ∧ s.kind = s'.kind ∧ s.returning = s'.returning
  | .error e, .error e' => e = e'
  | _, _ => False

theorem Dialect.parameterNames_eq (d : Dialect) (n : Nat) :
    d.parameterNames n =
      if d = .mssql then (List.range n).map fun i => "param" ++ toString (i + 1) else [] := by
  cases d <;> rfl

/-- One value in the place of every value that is not null. -/
def Value.redacted (v : Value) : Value := if v.isNull then v else .bool true

theorem Value.isNull_redacted (v : Value) : v.redacted.isNull = v.isNull := by
  cases v <;> rfl

/-- Marks show of a value only whether it is null. -/
theorem Sql.marks_map (d : Dialect) (n : Nat) (f : Value → Value)
    (hf : ∀ v, (f v).isNull = v.isNull) (vs : List Value) :
    marks d n (vs.map f) = marks d n vs := by
  induction vs generalizing n with
  | nil => rfl
  | cons v rest ih => rw [List.map_cons, marks, marks, hf v, ih, ih]

theorem Sql.render_mapSlots (d : Dialect) (f : Value → Value)
    (hf : ∀ v, (f v).isNull = v.isNull) (sql : Sql) :
    (sql.mapSlots f).render d = sql.render d := by
  unfold render
  rw [renderAfter_eq_fill, renderAfter_eq_fill, fragments_mapSlots, slots_mapSlots,
    marks_map d 0 f hf]

theorem Sql.params_length_mapSlots (f : Value → Value) (hf : ∀ v, (f v).isNull = v.isNull)
    (sql : Sql) : (sql.mapSlots f).params.length = sql.params.length := by
  unfold params
  rw [slots_mapSlots, List.filter_map, List.length_map]
  congr 2
  funext v
  rw [Function.comp_apply, hf v]

namespace Query

/-- NULL in the place of every bound value. -/
def blanked (q : Query) : Query := q.mapBound fun _ => .null

/-- One value in the place of every bound value that is not null. -/
def redacted (q : Query) : Query := q.mapBound Value.redacted

theorem dialect_of_mapBound {f : Value → Value} {q q' : Query}
    (h : q'.mapBound f = q.mapBound f) : q'.dialect = q.dialect := by
  rw [← (q'.mapBound_fields f).1, h, (q.mapBound_fields f).1]

theorem draft_of_mapBound {f : Value → Value} {q q' : Query}
    (h : q'.mapBound f = q.mapBound f) (form : Form) :
    (q'.draft form).map (Draft.mapSlots f) = (q.draft form).map (Draft.mapSlots f) := by
  rw [← draft_mapBound, ← draft_mapBound, h]

/-- What a draft of a query with the same blanks is like. -/
theorem draft_of_blanked {q q' : Query} {form : Form} {draft : Draft}
    (h : q'.blanked = q.blanked) (hd : q.draft form = .ok draft) :
    ∃ draft', q'.draft form = .ok draft' ∧ draft'.sql.fragments = draft.sql.fragments := by
  have hmap := draft_of_mapBound h form
  rw [hd] at hmap
  cases hd' : q'.draft form with
  | error e =>
    rw [hd'] at hmap
    cases hmap
  | ok draft' =>
    rw [hd'] at hmap
    have hsql : draft'.sql.mapSlots (fun _ => .null) = draft.sql.mapSlots fun _ => .null :=
      congrArg Draft.sql (Except.ok.inj hmap)
    refine ⟨draft', rfl, ?_⟩
    rw [← Sql.fragments_mapSlots (fun _ => .null) draft'.sql, hsql, Sql.fragments_mapSlots]

/-- A draft that is written has the bound values of its parts in its slots. -/
theorem draft_slots {q : Query} {form : Form} {draft : Draft} (h : q.draft form = .ok draft) :
    draft.sql.slots = q.writtenValues form := by
  have hw := q.draft_drafted form
  rw [h] at hw
  exact hw.2

theorem draft_of_writable {q : Query} {form : Form} (h : q.writable form = true) :
    ∃ draft, q.draft form = .ok draft := by
  have hw := q.draft_drafted form
  cases hd : q.draft form with
  | ok draft => exact ⟨draft, rfl⟩
  | error e =>
    rw [hd] at hw
    exact absurd (hw.symm.trans h) (by decide)

theorem statement_of_draft {q : Query} {form : Form} {draft : Draft}
    (h : q.draft form = .ok draft) :
    q.statement form = .ok (.ofDraft q.dialect draft) := by
  rw [statement_eq, h]
  rfl

theorem draft_of_statement {q : Query} {form : Form} {s : Statement}
    (h : q.statement form = .ok s) :
    ∃ draft, q.draft form = .ok draft ∧ s = .ofDraft q.dialect draft := by
  rw [statement_eq] at h
  cases hd : q.draft form with
  | error e =>
    rw [hd] at h
    cases h
  | ok draft =>
    rw [hd] at h
    exact ⟨draft, rfl, (Except.ok.inj h).symm⟩

/-- The dialect of the outermost query decides neither whether a statement can be written nor which
values it binds. -/
theorem writable_withDialect (q : Query) (d : Dialect) (form : Form) :
    ({ q with dialect := d } : Query).writable form = q.writable form ∧
      ({ q with dialect := d } : Query).writtenValues form = q.writtenValues form := by
  have hcomplete : ({ q with dialect := d } : Query).isComplete = q.isComplete := by
    cases q
    rfl
  have hbound : ({ q with dialect := d } : Query).boundValues = q.boundValues := by
    cases q
    rfl
  cases form with
  | select => exact ⟨hcomplete, hbound⟩
  | count => exact ⟨hcomplete, hbound⟩
  | insert => exact ⟨rfl, rfl⟩
  | update => exact ⟨rfl, rfl⟩
  | delete => exact ⟨rfl, rfl⟩
  | save => exact ⟨rfl, rfl⟩

/-- The parameters of a statement are the bound values of the parts that it writes, NULL left out.
The text is one list of fragments with a mark for each bound value between them, whatever values
stand in the places of these: the number that follows for a value, `NULL` for NULL. No dialect of
the outermost query changes the parameters. -/
theorem statement_binds_in_order (q : Query) (form : Form) (s : Statement)
    (h : q.statement form = .ok s) :
    s.params = (q.writtenValues form).filter (!·.isNull) ∧
    s.names = (if q.dialect = .mssql
      then (List.range s.params.length).map fun i => "param" ++ toString (i + 1) else []) ∧
    (∃ fragments : List String, fragments.length = (q.writtenValues form).length + 1 ∧
      ∀ q' : Query, q'.blanked = q.blanked →
        ∃ s', q'.statement form = .ok s' ∧
          (q'.writtenValues form).length = (q.writtenValues form).length ∧
          s'.sql = Sql.fill fragments (Sql.marks q.dialect 0 (q'.writtenValues form))) ∧
    ∀ d : Dialect, ∃ s', ({ q with dialect := d } : Query).statement form = .ok s' ∧
      s'.params = s.params := by
  obtain ⟨draft, hd, rfl⟩ := draft_of_statement h
  have hslots := draft_slots hd
  have hparams : (Statement.ofDraft q.dialect draft).params =
      (q.writtenValues form).filter (!·.isNull) := by
    rw [← hslots]
    rfl
  refine ⟨hparams, Dialect.parameterNames_eq _ _, ?_, ?_⟩
  · refine ⟨draft.sql.fragments, by rw [Sql.fragments_length, hslots], ?_⟩
    intro q' hq'
    obtain ⟨draft', hd', hfragments⟩ := draft_of_blanked hq' hd
    have hslots' := draft_slots hd'
    have hlength : draft'.sql.slots.length + 1 = draft.sql.slots.length + 1 := by
      rw [← Sql.fragments_length, ← Sql.fragments_length, hfragments]
    refine ⟨_, statement_of_draft hd', ?_, ?_⟩
    · rw [← hslots, ← hslots']
      omega
    · rw [← hfragments, ← hslots', dialect_of_mapBound hq'.symm]
      exact Sql.renderAfter_eq_fill q'.dialect 0 draft'.sql
  · intro d
    obtain ⟨hwritable, hvalues⟩ := q.writable_withDialect d form
    have hok : q.writable form = true := by
      have hw := q.draft_drafted form
      rw [hd] at hw
      exact hw.1
    obtain ⟨draft', hd'⟩ := draft_of_writable (hwritable.trans hok)
    refine ⟨_, statement_of_draft hd', ?_⟩
    have hslots' := (draft_slots hd').trans hvalues
    rw [hparams, ← hslots']
    rfl

/-- Customers of a SQL Server joined with the open orders of a PostgreSQL query: weights, a derived
table, ON, NULL and a list all bind values. -/
def openOrders : Query :=
  let orders := ((empty .postgres none).table "orders").such
    (.compare "total" .greater (.int64 9) true)
  let blocked := ((empty .mysql none).table "blocked").such
    (Predicate.equals "reason" (.text "fraud"))
  { empty .mssql none with
    source := some (.table "customers")
    joins := [⟨.left, .derived orders "o", [Predicate.equals "o.state" (.text "open")]⟩]
    predicate := [.compare "deleted" .equal .null true, .between "age" (.int64 18) (.int64 65),
      .membership "id" true (.rows blocked)]
    weights := [⟨[Predicate.equals "city" (.text "Oslo")], .ofInt 10, .score (.ofInt 0)⟩] }

def openOrdersText : String :=
  "SELECT *, CASE WHEN city = @param1 THEN 10 ELSE 0 END AS __weight FROM customers"
    ++ " LEFT JOIN (SELECT * FROM orders WHERE total > @param2) AS o ON o.state = @param3"
    ++ " WHERE deleted = NULL AND age BETWEEN @param4 AND @param5"
    ++ " AND id NOT IN (SELECT * FROM blocked WHERE reason = @param6) ORDER BY __weight DESC"

theorem openOrders_binds_in_order : ∃ s, openOrders.statement .select = .ok s ∧
    s.sql = openOrdersText ∧
    s.params = [.text "Oslo", .int64 9, .text "open", .int64 18, .int64 65, .text "fraud"] ∧
    s.names = ["param1", "param2", "param3", "param4", "param5", "param6"] := by
  have hwritable : openOrders.writable .select = true := rfl
  obtain ⟨draft, hdraft⟩ := draft_of_writable hwritable
  have hstatement := statement_of_draft hdraft
  obtain ⟨hparams, hnames, -, -⟩ := statement_binds_in_order _ _ _ hstatement
  have hvalues : (openOrders.writtenValues .select).filter (!·.isNull) =
      [.text "Oslo", .int64 9, .text "open", .int64 18, .int64 65, .text "fraud"] := rfl
  have htext : (openOrders.statement .select).toOption.map (·.sql) = some openOrdersText := by
    decide +kernel
  rw [hstatement] at htext
  rw [hvalues] at hparams
  refine ⟨_, hstatement, Option.some.inj htext, hparams, ?_⟩
  rw [hnames, hparams]
  rfl

/-- Two queries that are one and the same when their bound values are redacted are written with one
and the same text, or fail alike. -/
theorem text_ignores_bound_values (q q' : Query) (h : q.redacted = q'.redacted) (form : Form) :
    SameText (q.statement form) (q'.statement form) := by
  have hdialect : q.dialect = q'.dialect := dialect_of_mapBound h
  have hmap := draft_of_mapBound h form
  rw [statement_eq, statement_eq]
  cases hd : q.draft form with
  | error e =>
    cases hd' : q'.draft form with
    | error e' =>
      rw [hd, hd'] at hmap
      exact Except.error.inj hmap
    | ok draft' =>
      rw [hd, hd'] at hmap
      cases hmap
  | ok draft =>
    cases hd' : q'.draft form with
    | error e' =>
      rw [hd, hd'] at hmap
      cases hmap
    | ok draft' =>
      rw [hd, hd'] at hmap
      obtain ⟨hkind, hsql, hreturning⟩ := Draft.mk.inj (Except.ok.inj hmap)
      have htext := Sql.render_mapSlots q.dialect Value.redacted Value.isNull_redacted
      have hcount := Sql.params_length_mapSlots Value.redacted Value.isNull_redacted
      refine ⟨?_, ?_, hkind, hreturning⟩
      · change draft.sql.render q.dialect = draft'.sql.render q'.dialect
        rw [← htext draft.sql, hsql, htext draft'.sql, hdialect]
      · change q.dialect.parameterNames draft.sql.params.length =
          q'.dialect.parameterNames draft'.sql.params.length
        rw [← hcount draft.sql, hsql, hcount draft'.sql, hdialect]

def byName (name : String) : Query :=
  ((empty .mysql none).table "users").such (Predicate.equals "name" (.text name))

theorem text_ignores_quotes :
    SameText ((byName "smith").statement .select) ((byName "' OR '1'='1").statement .select) := by
  have hredacted : (byName "smith").redacted = (byName "' OR '1'='1").redacted := rfl
  exact text_ignores_bound_values _ _ hredacted .select

end Query
end SqlRecords
