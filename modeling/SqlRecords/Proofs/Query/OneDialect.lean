import SqlRecords.Proofs.Query.Bodies
import SqlRecords.Proofs.Query.Completeness

/-! A statement is written in the dialect of its outermost query, but for what the queries inside it
write in their own. -/
namespace SqlRecords

namespace Query

theorem endText_inDialect (q : Query) (d : Dialect) (place : Place) :
    (q.inDialect d).endText place = ({ q with dialect := d } : Query).endText place := by
  rw [inDialect_eq]
  unfold endText orderAt pageOrder
  simp only [List.isEmpty_map]

/-- What a SELECT inside a statement writes in its own dialect, in its body and behind it. -/
theorem speaksIn_iff (q : Query) (d : Dialect) :
    q.SpeaksIn d ↔
      (∀ field ∈ q.columns ++ q.groupBy, q.dialect = d ∨ ¬ Dialect.NamesReserved field) ∧
        (q.dialect = d ∨
          (∀ entry ∈ q.orderBy, ¬ Dialect.NamesReserved entry.1) ∧ q.EndsAlike d) := by
  unfold SpeaksIn
  by_cases h : q.dialect = d
  · simp [h]
  · simp only [h, false_or, List.forall_mem_append, List.forall_mem_map, and_assoc]

/-- A SELECT inside a statement agrees with itself in the dialect of the statement exactly if it,
and all that is inside it, is written as if it had that dialect. -/
theorem agreesInside (q : Query) (d : Dialect) : q.AgreesInside d := by
  have hbody := q.body_agree (fun p hp => agreesInside p d) .nested
  refine hbody.imp fun c c' hc hc' h => ?_
  have hend : Text.AgreeIff
      (q.dialect = d ∨ (∀ entry ∈ q.orderBy, ¬ Dialect.NamesReserved entry.1) ∧ q.EndsAlike d)
      (q.endText .nested ++ ")") ((q.inDialect d).endText .nested ++ ")") := by
    rw [endText_inDialect]
    by_cases hd : q.dialect = d
    · subst hd
      exact (Text.AgreeIff.refl _).congr (iff_of_true trivial (.inl rfl))
    · exact (agreeIff_endText hd).congr (or_iff_right hd).symm
  have hrender {c : Clauses} {e : String} (he : orderText c.orderBy ++ c.paging = e) (n : Nat) :
      (Sql.bracketed c.sql).renderAfter d n = "(" ++ (c.body.renderAfter d n ++ (e ++ ")")) := by
    simp [Sql.bracketed, Sql.renderAfter_append, Clauses.renderAfter_sql, he, String.append_assoc]
  have hparams (c : Clauses) : (Sql.bracketed c.sql).params = c.body.params := by
    simp [Sql.bracketed, Clauses.params_sql]
  refine ⟨by rw [hparams, hparams, h.1], fun n => ?_⟩
  rw [hrender (end_of_clauses hc), hrender (end_of_clauses hc')]
  refine (((h.2 n).append hend).prepend "(").congr ?_
  rw [allSpeakIn_singleton, speaksIn_iff]
  exact and_right_comm
termination_by sizeOf q
decreasing_by exact sizeOf_lt hp

/-- The same query with all queries inside it in its dialect. -/
def inOneDialect (q : Query) : Query := q.inDialect q.dialect

theorem inOneDialect_dialect (q : Query) : q.inOneDialect.dialect = q.dialect := by
  rw [inOneDialect, inDialect_eq]

/-- A SELECT that stands in no other. -/
theorem clauses_agree (q : Query) (place : Place) :
    Alike (fun c c' => Sql.AgreeIff q.dialect (AllSpeakIn q.dialect q.nested) c.sql c'.sql)
      (q.clauses q.dialect place) (q.inOneDialect.clauses q.dialect place) := by
  have hbody := q.body_agree (fun p _ => p.agreesInside q.dialect) place
  refine hbody.imp fun c c' hc hc' h => ?_
  have hend : orderText c'.orderBy ++ c'.paging = orderText c.orderBy ++ c.paging := by
    rw [end_of_clauses hc, end_of_clauses hc', endText_inDialect]
    rfl
  refine ⟨by rw [Clauses.params_sql, Clauses.params_sql, h.1], fun n => ?_⟩
  rw [Clauses.renderAfter_sql, Clauses.renderAfter_sql, hend]
  refine ((h.2 n).followed _).congr (and_iff_right ?_)
  exact fun _ _ => .inl rfl

end Query

theorem Predicate.whereSql_agree (p : List Token) (d : Dialect) :
    Alike (Sql.AgreeIff d (Query.AllSpeakIn d (nested p))) (whereSql d p)
      (whereSql d (p.map (Token.inDialect d))) := by
  have hlexemes := Token.lexemes_agree (p := p) fun q _ => q.agreesInside d
  unfold whereSql Predicate.sql
  rw [hasClause_inDialect]
  cases hclause : hasClause p with
  | true =>
    rw [if_pos rfl, if_pos rfl]
    have hsql : Alike (Sql.AgreeIff d (Query.AllSpeakIn d (nested p)))
        ((Token.lexemes d p).map Lexeme.sql)
        ((Token.lexemes d (p.map (Token.inDialect d))).map Lexeme.sql) :=
      hlexemes.map fun ls ls' h => Lexeme.assemble_agree h none false
    exact hsql.map fun a b h => h.prepend _
  | false =>
    rw [nested_of_not_hasClause hclause]
    exact .ok ((Sql.AgreeIff.refl []).congr Query.allSpeakIn_nil.symm)

/-- Drafts of the same kind that agree. -/
structure Draft.AgreeIff (d : Dialect) (P : Prop) (a b : Draft) : Prop where
  kind_eq : a.kind = b.kind
  returning_eq : a.returning = b.returning
  sql : Sql.AgreeIff d P a.sql b.sql

namespace Query

theorem target_inOneDialect (q : Query) (verb : String) :
    q.inOneDialect.target verb = q.target verb := by
  rw [inOneDialect, inDialect_eq]
  match hsource : q.source with
  | none | some (.table _) | some (.derived ..) => simp [target, hsource, Source.inDialect]

/-- The queries in a statement that stand directly in its outermost part. -/
def heldDirectly (q : Query) : Form → List Query
  | .select | .count => q.nested
  | form => q.restrictedBy form

theorem insertDraft_inOneDialect (q : Query) : q.inOneDialect.insertDraft = q.insertDraft := by
  unfold insertDraft
  rw [target_inOneDialect, inOneDialect, inDialect_eq]
  rfl

theorem updateDraft_agree (q : Query) :
    Alike (Draft.AgreeIff q.dialect (AllSpeakIn q.dialect (Predicate.nested q.predicate)))
      q.updateDraft q.inOneDialect.updateDraft := by
  have hwhere := Predicate.whereSql_agree q.predicate q.dialect
  unfold updateDraft
  rw [target_inOneDialect, inOneDialect, inDialect_eq]
  cases q.target "UPDATE" with
  | error e => exact .error e
  | ok table =>
    simp only [ok_bind]
    match q.payload with
    | none | some (.insert ..) => exact .error _
    | some (.update values bound) =>
      dsimp only
      split
      · exact .error _
      · exact hwhere.bind fun a b h => .ok ⟨rfl, rfl, h.prepend _⟩

theorem deleteDraft_agree (q : Query) :
    Alike (Draft.AgreeIff q.dialect (AllSpeakIn q.dialect (Predicate.nested q.predicate)))
      q.deleteDraft q.inOneDialect.deleteDraft := by
  have hwhere := Predicate.whereSql_agree q.predicate q.dialect
  unfold deleteDraft
  rw [target_inOneDialect, inOneDialect, inDialect_eq]
  cases q.target "DELETE" with
  | error e => exact .error e
  | ok table =>
    simp only [ok_bind]
    exact hwhere.bind fun a b h => .ok ⟨rfl, rfl, h.prepend _⟩

theorem insertDraft_agree (q : Query) :
    Alike (Draft.AgreeIff q.dialect (AllSpeakIn q.dialect [])) q.insertDraft
      q.inOneDialect.insertDraft := by
  rw [insertDraft_inOneDialect]
  cases q.insertDraft with
  | error e => exact .error e
  | ok draft => exact .ok ⟨rfl, rfl, (Sql.AgreeIff.refl _).congr allSpeakIn_nil.symm⟩

theorem draft_agree (q : Query) (form : Form) :
    Alike (Draft.AgreeIff q.dialect (AllSpeakIn q.dialect (q.heldDirectly form))) (q.draft form)
      (q.inOneDialect.draft form) := by
  cases form with
  | select =>
    unfold draft selectDraft
    rw [inOneDialect_dialect]
    exact (q.clauses_agree .outermost).map fun c c' h => ⟨rfl, rfl, h⟩
  | count =>
    unfold draft countDraft
    rw [inOneDialect_dialect]
    exact (q.clauses_agree .counted).map fun c c' h => ⟨rfl, rfl, (h.prepend _).followed _⟩
  | insert => exact q.insertDraft_agree
  | update => exact q.updateDraft_agree
  | delete => exact q.deleteDraft_agree
  | save =>
    have hpayload : q.inOneDialect.payload = q.payload := by rw [inOneDialect, inDialect_eq]
    unfold draft saveDraft heldDirectly restrictedBy
    rw [hpayload]
    match q.payload with
    | none => exact .error _
    | some (.insert ..) => exact q.insertDraft_agree
    | some (.update ..) => exact q.updateDraft_agree

theorem exists_under_of_holds {q r : Query} {form : Form} {place : Place}
    (h : q.Holds form place r) : ∃ place' p, (place', p) ∈ q.selects form ∧ p.Under r := by
  induction h with
  | top h => exact ⟨_, _, h, .self⟩
  | inside _ hr ih =>
    obtain ⟨place', p, hp, hunder⟩ := ih
    exact ⟨place', p, hp, .inside hunder hr⟩

theorem exists_holds_of_under {q p r : Query} {form : Form} {place : Place}
    (hp : (place, p) ∈ q.selects form) (h : p.Under r) : ∃ place', q.Holds form place' r := by
  induction h with
  | self => exact ⟨place, .top hp⟩
  | inside _ hr ih =>
    obtain ⟨place', hholds⟩ := ih
    exact ⟨.nested, .inside hholds hr⟩

/-- The SELECTs of a statement are those that stand directly in its outermost part and what is
inside these, but for an outermost one. -/
theorem allSpeakIn_heldDirectly_iff (q : Query) (form : Form) :
    AllSpeakIn q.dialect (q.heldDirectly form) ↔
      ∀ place r, q.Holds form place r → r.SpeaksIn q.dialect := by
  have hselects : (∀ place r, q.Holds form place r → r.SpeaksIn q.dialect) ↔
      ∀ place p, (place, p) ∈ q.selects form → AllSpeakIn q.dialect [p] := by
    unfold AllSpeakIn
    simp only [List.forall_mem_singleton]
    constructor
    · intro h place p hp r hr
      obtain ⟨place', hholds⟩ := exists_holds_of_under hp hr
      exact h place' r hholds
    · intro h place r hr
      obtain ⟨place', p, hp, hunder⟩ := exists_under_of_holds hr
      exact h place' p hp r hunder
  have houter : AllSpeakIn q.dialect [q] ↔ AllSpeakIn q.dialect q.nested :=
    allSpeakIn_singleton.trans (and_iff_right (.inl rfl))
  rw [hselects]
  cases form with
  | select | count => simp [selects, heldDirectly, houter]
  | insert | update | delete | save =>
    unfold heldDirectly selects
    simp only [List.mem_map, Prod.mk.injEq, AllSpeakIn, List.forall_mem_singleton]
    constructor
    · rintro h place _ ⟨p, hp, -, rfl⟩
      exact h p hp
    · intro h p hp
      exact h .nested p ⟨p, hp, rfl, rfl⟩

/-- All queries of a query in one dialect have that dialect. -/
theorem dialect_of_holds_inOneDialect {q r : Query} {form : Form} {place : Place}
    (h : q.inOneDialect.Holds form place r) : r.dialect = q.dialect := by
  suffices hr : ∃ p, r = inDialect q.dialect p by
    obtain ⟨p, rfl⟩ := hr
    rw [inDialect_eq]
  have hrestricted : ∃ ps : List Query,
      q.inOneDialect.restrictedBy form = ps.map (inDialect q.dialect) := by
    have hnested : Predicate.nested q.inOneDialect.predicate =
        (Predicate.nested q.predicate).map (inDialect q.dialect) := by
      rw [inOneDialect, inDialect_eq]
      exact Predicate.nested_inDialect _ _
    unfold restrictedBy
    cases form with
    | select | count | insert => exact ⟨[], rfl⟩
    | update | delete => exact ⟨_, hnested⟩
    | save =>
      dsimp only
      split
      · exact ⟨_, hnested⟩
      · exact ⟨[], rfl⟩
  induction h with
  | top h =>
    cases form with
    | select | count =>
      cases List.mem_singleton.mp h
      exact ⟨q, rfl⟩
    | insert | update | delete | save =>
      obtain ⟨p, hp, heq⟩ := List.mem_map.mp h
      cases heq
      obtain ⟨ps, hps⟩ := hrestricted
      rw [hps] at hp
      obtain ⟨p, -, rfl⟩ := List.mem_map.mp hp
      exact ⟨p, rfl⟩
  | inside _ hr ih =>
    obtain ⟨p, rfl⟩ := ih
    rw [nested_inDialect] at hr
    obtain ⟨r, -, rfl⟩ := List.mem_map.mp hr
    exact ⟨r, rfl⟩

/-- A statement is the one that all of its queries make in the dialect of the outermost, up to its
text, and in its text exactly if each SELECT in it, at every depth, has that dialect, or else writes
no reserved word in a field of its own projection, grouping or order, and ends alike in both. -/
theorem text_in_one_dialect_iff (q : Query) (form : Form) :
    (∀ place r, q.inOneDialect.Holds form place r → r.dialect = q.dialect) ∧
    (∀ e, q.statement form = .error e ↔ q.inOneDialect.statement form = .error e) ∧
    ∀ s, q.statement form = .ok s → ∃ text,
      q.inOneDialect.statement form = .ok { s with sql := text } ∧
      (s.sql = text ↔ ∀ place r, q.Holds form place r → r.SpeaksIn q.dialect) := by
  refine ⟨fun place r => dialect_of_holds_inOneDialect, ?_⟩
  have hdraft := q.draft_agree form
  rw [statement_eq, statement_eq, finish, finish, inOneDialect_dialect]
  generalize q.draft form = outcome at hdraft
  generalize q.inOneDialect.draft form = outcome' at hdraft
  cases hdraft with
  | error e =>
    refine ⟨fun _ => Iff.rfl, ?_⟩
    rintro s ⟨⟩
  | @ok draft draft' h =>
    refine ⟨fun e => iff_of_false ?_ ?_, ?_⟩
    · rintro ⟨⟩
    · rintro ⟨⟩
    rintro s ⟨⟩
    refine ⟨draft'.sql.render q.dialect, ?_, ?_⟩
    · obtain ⟨hkind, hreturning, hparams, -⟩ := h
      simp [Statement.ofDraft, Statement.ofSql, Statement.ofText, hkind, hreturning, hparams]
    · rw [← allSpeakIn_heldDirectly_iff]
      exact (h.sql.2 0).eq_iff

/-- The first users by name. -/
def firstUsers (d : Dialect) (column : String) : Query :=
  { ((empty d none).table "users").order "name" .ascending with
    columns := [column], limit := some 3 }

/-- They are read on MySQL by a query that was made for PostgreSQL. -/
def mixedUsers (column : String) : Query :=
  (empty .mysql none).from_ (.derived (firstUsers .postgres column) "first")

theorem mixedUsers_holds {column : String} {place : Place} {r : Query}
    (h : (mixedUsers column).Holds .select place r) :
    r = mixedUsers column ∨ r = firstUsers .postgres column := by
  induction h with
  | top h => exact .inl (congrArg Prod.snd (List.mem_singleton.mp h))
  | inside hp h ih =>
    obtain rfl | rfl := ih
    · exact .inr (List.mem_singleton.mp h)
    · cases h

/-- The text is that of MySQL if the column is called `id`, and it is not if it is called `key`. -/
theorem mixedUsers_in_one_dialect :
    (∃ s, (mixedUsers "id").statement .select = .ok s ∧
      (mixedUsers "id").inOneDialect.statement .select = .ok s ∧
      s.sql = "SELECT * FROM (SELECT id FROM users ORDER BY name ASC LIMIT 3) AS first") ∧
    ∃ s text, (mixedUsers "key").statement .select = .ok s ∧
      (mixedUsers "key").inOneDialect.statement .select = .ok { s with sql := text } ∧
      s.sql ≠ text := by
  have hfield (field : String) :
      Dialect.postgres.escapeIdentifier field = Dialect.mysql.escapeIdentifier field ↔
        ¬ Dialect.NamesReserved field :=
    (Dialect.agreeIff_escapeIdentifier (by decide) field).eq_iff
  have hid : ¬ Dialect.NamesReserved "id" := (hfield "id").mp (by decide +kernel)
  have hname : ¬ Dialect.NamesReserved "name" := (hfield "name").mp (by decide +kernel)
  have hkey : Dialect.NamesReserved "key" := by
    rw [← not_not (a := Dialect.NamesReserved "key"), ← hfield]
    decide +kernel
  constructor
  · have htext : ((mixedUsers "id").statement .select).map (·.sql) =
        .ok "SELECT * FROM (SELECT id FROM users ORDER BY name ASC LIMIT 3) AS first" := by
      decide +kernel
    obtain ⟨s, hs, hsql⟩ := map_eq_ok.mp htext
    obtain ⟨text, hone, hiff⟩ := (text_in_one_dialect_iff (mixedUsers "id") .select).2.2 s hs
    have hspeaks : ∀ place r, (mixedUsers "id").Holds .select place r → r.SpeaksIn .mysql := by
      intro place r hr
      obtain rfl | rfl := mixedUsers_holds hr
      · exact .inl rfl
      · refine .inr ⟨?_, .inl ⟨by decide, by decide, nofun⟩⟩
        simp [firstUsers, empty, table, from_, order, hid, hname]
    rw [← hiff.mpr hspeaks] at hone
    exact ⟨s, hs, hone, hsql⟩
  · have hok : ((mixedUsers "key").statement .select).isOk = true := by decide +kernel
    cases hs : (mixedUsers "key").statement .select with
    | error e =>
      rw [hs] at hok
      cases hok
    | ok s =>
      obtain ⟨text, hone, hiff⟩ := (text_in_one_dialect_iff (mixedUsers "key") .select).2.2 s hs
      refine ⟨s, text, rfl, hone, fun heq => ?_⟩
      have hinside : (mixedUsers "key").Holds .select .nested (firstUsers .postgres "key") :=
        .inside (.top List.mem_cons_self) List.mem_cons_self
      obtain hdialect | ⟨hplain, -⟩ := hiff.mp heq .nested _ hinside
      · cases hdialect
      · exact hplain "key" List.mem_cons_self hkey

/-- The text of a statement depends on the dialects of the queries inside it. -/
theorem text_not_always_in_one_dialect : ¬ ∀ (q : Query) (form : Form) (s s' : Statement),
    q.statement form = .ok s → q.inOneDialect.statement form = .ok s' → s.sql = s'.sql := by
  intro h
  have hmixed : ((mixedUsers "key").statement .select).map (·.sql) =
      .ok "SELECT * FROM (SELECT \"key\" FROM users ORDER BY name ASC LIMIT 3) AS first" := by
    decide +kernel
  have hone : ((mixedUsers "key").inOneDialect.statement .select).map (·.sql) =
      .ok "SELECT * FROM (SELECT \x60key\x60 FROM users ORDER BY name ASC LIMIT 3) AS first" := by
    decide +kernel
  obtain ⟨s, hs, hsql⟩ := map_eq_ok.mp hmixed
  obtain ⟨s', hs', hsql'⟩ := map_eq_ok.mp hone
  have heq := h (mixedUsers "key") .select s s' hs hs'
  rw [hsql, hsql'] at heq
  exact absurd heq (by decide)

end Query
end SqlRecords
