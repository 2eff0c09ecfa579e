import Mathlib.Tactic.Tauto
import SqlRecords.Proofs.Query.Endings
import SqlRecords.Proofs.Query.InDialect
import SqlRecords.Proofs.Sql.Agreement

/-! The body of a SELECT, and each part of it, as two dialects of the queries inside it make it. -/
namespace SqlRecords

/-- Two outcomes that are the same failure, or that are both written and related. -/
inductive Alike {α : Type} (R : α → α → Prop) : Except Incomplete α → Except Incomplete α → Prop
  | ok {a b : α} (h : R a b) : Alike R (.ok a) (.ok b)
  | error (e : Incomplete) : Alike R (.error e) (.error e)

namespace Alike
variable {α β : Type} {R : α → α → Prop} {S : β → β → Prop} {x y : Except Incomplete α}

theorem bind {f g : α → Except Incomplete β} (h : Alike R x y)
    (hfg : ∀ a b, R a b → Alike S (f a) (g b)) : Alike S (x >>= f) (y >>= g) := by
  cases h with
  | ok h => exact hfg _ _ h
  | error e => exact .error e

theorem map {f g : α → β} (h : Alike R x y) (hfg : ∀ a b, R a b → S (f a) (g b)) :
    Alike S (x.map f) (y.map g) := by
  cases h with
  | ok h => exact .ok (hfg _ _ h)
  | error e => exact .error e

theorem imp {S : α → α → Prop} (h : Alike R x y)
    (himp : ∀ a b, x = .ok a → y = .ok b → R a b → S a b) : Alike S x y := by
  cases h with
  | ok h => exact .ok (himp _ _ rfl rfl h)
  | error e => exact .error e

/-- Items that are written one by one. -/
theorem each {α β : Type} {R : Prop → β → β → Prop} (one : α → Except Incomplete β)
    (all : List α → Except Incomplete (List β)) {f : α → α} {P : α → Prop} (hnil : all [] = .ok [])
    (hcons : ∀ x rest, all (x :: rest) = do
      let y ← one x
      let ys ← all rest
      return y :: ys)
    {xs : List α} (h : ∀ x ∈ xs, Alike (R (P x)) (one x) (one (f x))) :
    Alike (Each R (∀ x ∈ xs, P x)) (all xs) (all (xs.map f)) := by
  induction xs with
  | nil =>
    rw [List.map_nil, hnil]
    exact .ok (Each.nil.congr (by simp))
  | cons x rest ih =>
    obtain ⟨hx, hrest⟩ := List.forall_mem_cons.mp h
    rw [List.map_cons, hcons, hcons]
    refine hx.bind fun y y' hy => (ih hrest).bind fun ys ys' hys => .ok ?_
    exact (Each.cons hy hys).congr (List.forall_mem_cons ..).symm

end Alike

/-- A query and the queries inside it, at every depth. -/
inductive Query.Under (q : Query) : Query → Prop
  | self : Under q q
  | inside {p r : Query} (hp : Under q p) (hr : r ∈ p.nested) : Under q r

theorem Query.under_iff {q r : Query} : q.Under r ↔ r = q ∨ ∃ p ∈ q.nested, p.Under r := by
  constructor
  · intro h
    induction h with
    | self => exact .inl rfl
    | inside _ hr ih =>
      obtain rfl | ⟨p, hp, hunder⟩ := ih
      · exact .inr ⟨_, hr, .self⟩
      · exact .inr ⟨p, hp, .inside hunder hr⟩
  · rintro (rfl | ⟨p, hp, h⟩)
    · exact .self
    · induction h with
      | self => exact .inside .self hp
      | inside _ hr ih => exact .inside ih hr

namespace Query

/-- Whether a SELECT inside a statement is written as it would be if it had the dialect of that
statement. It has, or no reserved word is a name in a field that it writes itself and it ends
alike. -/
def SpeaksIn (d : Dialect) (r : Query) : Prop :=
  r.dialect = d ∨
    (∀ field ∈ r.columns ++ r.groupBy ++ r.orderBy.map Prod.fst, ¬ Dialect.NamesReserved field) ∧
      r.EndsAlike d

/-- Whether queries, and all that are inside them, are written as if they had the dialect. -/
def AllSpeakIn (d : Dialect) (qs : List Query) : Prop := ∀ q ∈ qs, ∀ r, q.Under r → r.SpeaksIn d

theorem allSpeakIn_append {d : Dialect} {ps qs : List Query} :
    AllSpeakIn d (ps ++ qs) ↔ AllSpeakIn d ps ∧ AllSpeakIn d qs := List.forall_mem_append

theorem allSpeakIn_flatMap {d : Dialect} {α : Type} {nested : α → List Query} {items : List α} :
    AllSpeakIn d (items.flatMap nested) ↔ ∀ a ∈ items, AllSpeakIn d (nested a) := by
  unfold AllSpeakIn
  simp only [List.mem_flatMap]
  exact ⟨fun h a ha q hq => h q ⟨a, ha, hq⟩, fun h q ⟨a, ha, hq⟩ => h a ha q hq⟩

theorem allSpeakIn_nil {d : Dialect} : AllSpeakIn d [] ↔ True :=
  iff_of_true (List.forall_mem_nil _) trivial

theorem allSpeakIn_singleton {d : Dialect} {q : Query} :
    AllSpeakIn d [q] ↔ q.SpeaksIn d ∧ AllSpeakIn d q.nested := by
  unfold AllSpeakIn
  rw [List.forall_mem_singleton]
  constructor
  · exact fun h => ⟨h q .self, fun p hp r hr => h r (under_iff.mpr (.inr ⟨p, hp, hr⟩))⟩
  · rintro ⟨hself, hnested⟩ r hr
    obtain rfl | ⟨p, hp, h⟩ := under_iff.mp hr
    · exact hself
    · exact hnested p hp r h

/-- Whether a query that stands inside a statement agrees with itself in the statement's dialect. -/
def AgreesInside (d : Dialect) (q : Query) : Prop :=
  Alike (fun c c' => Sql.AgreeIff d (AllSpeakIn d [q]) (Sql.bracketed c.sql) (Sql.bracketed c'.sql))
    (q.clauses d .nested) ((q.inDialect d).clauses d .nested)

end Query

section
variable {d : Dialect}
open Query

theorem Source.sql_agree {source : Source} (h : ∀ q ∈ source.nested, q.AgreesInside d) :
    Alike (Sql.AgreeIff d (AllSpeakIn d source.nested)) (source.sql d)
      ((source.inDialect d).sql d) := by
  cases source with
  | table name => exact .ok ((Sql.AgreeIff.refl _).congr allSpeakIn_nil.symm)
  | derived query label =>
    rw [inDialect, Source.sql, Source.sql]
    refine (h query List.mem_cons_self).bind fun c c' hc => .ok ?_
    exact hc.followed _

theorem Members.sql_agree {members : Members} (h : ∀ q ∈ members.nested, q.AgreesInside d)
    (field : String) (negated : Bool) :
    Alike (Sql.AgreeIff d (AllSpeakIn d members.nested)) (members.sql d field negated)
      ((members.inDialect d).sql d field negated) := by
  cases members with
  | values vs bound => exact .ok ((Sql.AgreeIff.refl _).congr allSpeakIn_nil.symm)
  | rows query =>
    rw [inDialect, Members.sql, Members.sql]
    refine (h query List.mem_cons_self).bind fun c c' hc => .ok ?_
    exact hc.prepend _

/-- Clauses that agree, and the same connector or bracket. -/
inductive Lexeme.AgreeIff (d : Dialect) : Prop → Lexeme → Lexeme → Prop
  | clause {P : Prop} {a b : Sql} (h : Sql.AgreeIff d P a b) : AgreeIff d P (.clause a) (.clause b)
  | same (l : Lexeme) : AgreeIff d True l l

theorem Lexeme.AgreeIff.congr {P Q : Prop} {l l' : Lexeme} (h : AgreeIff d P l l') (hPQ : P ↔ Q) :
    AgreeIff d Q l l' := propext hPQ ▸ h

theorem Token.lexeme_agree {t : Token} (h : ∀ q ∈ t.nested, q.AgreesInside d) :
    Alike (Lexeme.AgreeIff d (AllSpeakIn d t.nested)) (t.lexeme d) ((t.inDialect d).lexeme d) := by
  cases t with
  | membership field negated members =>
    rw [inDialect, lexeme, lexeme]
    exact (members.sql_agree h field negated).bind fun a b hab => .ok (.clause hab)
  | compare | nullness | between | connector | opening | closing =>
    exact .ok ((Lexeme.AgreeIff.same _).congr allSpeakIn_nil.symm)

theorem Token.lexemes_agree {p : List Token} (h : ∀ q ∈ Predicate.nested p, q.AgreesInside d) :
    Alike (Each (Lexeme.AgreeIff d) (AllSpeakIn d (Predicate.nested p))) (Token.lexemes d p)
      (Token.lexemes d (p.map (inDialect d))) := by
  unfold Predicate.nested
  rw [propext allSpeakIn_flatMap]
  exact Alike.each (Token.lexeme d) (Token.lexemes d) rfl (fun _ _ => by rw [Token.lexemes])
    fun t ht => t.lexeme_agree fun q hq => h q (List.mem_flatMap.mpr ⟨t, ht, hq⟩)

theorem Lexeme.assemble_agree {P : Prop} {ls ls' : List Lexeme}
    (h : Each (Lexeme.AgreeIff d) P ls ls') (pending : Option Connector) (afterOperand : Bool) :
    Sql.AgreeIff d P (assemble pending afterOperand ls) (assemble pending afterOperand ls') := by
  induction h generalizing pending afterOperand with
  | nil => exact .refl _
  | @cons _ _ l _ _ _ hl _ ih =>
    cases hl with
    | clause hab => exact (hab.prepend _).append (ih none true)
    | same =>
      cases l with
      | clause sql => exact ((Sql.AgreeIff.refl _).append (ih none true))
      | connector c => exact (ih (some c) afterOperand).congr (and_iff_right trivial).symm
      | opening => exact ((ih none false).prepend _).congr (and_iff_right trivial).symm
      | closing => exact ((ih none true).prepend _).congr (and_iff_right trivial).symm

/-- A predicate behind a keyword, or left out without a clause. -/
theorem Predicate.clause_agree {p : List Token} {ls ls' : List Lexeme}
    (h : Each (Lexeme.AgreeIff d) (AllSpeakIn d (nested p)) ls ls') (keyword : String) :
    Sql.AgreeIff d (AllSpeakIn d (nested p))
      (if hasClause p then Sql.ofText keyword ++ Lexeme.sql ls else [])
      (if hasClause (p.map (Token.inDialect d)) then Sql.ofText keyword ++ Lexeme.sql ls'
        else []) := by
  rw [hasClause_inDialect]
  cases hclause : hasClause p with
  | true => exact (Lexeme.assemble_agree h none false).prepend _
  | false =>
    rw [nested_of_not_hasClause hclause]
    exact (Sql.AgreeIff.refl []).congr allSpeakIn_nil.symm

theorem Join.sql_agree {j : Join} (h : ∀ q ∈ j.nested, q.AgreesInside d) :
    Alike (Sql.AgreeIff d (AllSpeakIn d j.nested)) (j.sql d) ((j.inDialect d).sql d) := by
  obtain ⟨kind, target, on⟩ := j
  obtain ⟨htarget, hon⟩ := List.forall_mem_append.mp h
  rw [inDialect, Join.sql, Join.sql, Token.allInDialect_eq]
  refine (target.sql_agree htarget).bind fun a b hab => ?_
  refine (Token.lexemes_agree hon).bind fun ls ls' hls => .ok ?_
  exact ((hab.prepend _).append (Predicate.clause_agree hls " ON ")).congr
    allSpeakIn_append.symm

theorem Join.sqls_agree {joins : List Join} (h : ∀ q ∈ joins.flatMap nested, q.AgreesInside d) :
    Alike (Each (Sql.AgreeIff d) (AllSpeakIn d (joins.flatMap nested))) (Join.sqls d joins)
      (Join.sqls d (joins.map (inDialect d))) := by
  rw [propext allSpeakIn_flatMap]
  exact Alike.each (Join.sql d) (Join.sqls d) rfl (fun _ _ => by rw [Join.sqls]) fun j hj =>
    j.sql_agree fun q hq => h q (List.mem_flatMap.mpr ⟨j, hj, hq⟩)

mutual

theorem Weight.sql_agree (w : Weight) (h : ∀ q ∈ w.nested, q.AgreesInside d) :
    Alike (Sql.AgreeIff d (AllSpeakIn d w.nested)) (w.sql d) ((w.inDialect d).sql d) := by
  obtain ⟨predicate, score, otherwise⟩ := w
  rw [Weight.nested] at h ⊢
  obtain ⟨hpredicate, hotherwise⟩ := List.forall_mem_append.mp h
  rw [Weight.inDialect, Weight.sql, Weight.sql, Token.allInDialect_eq]
  refine (Token.lexemes_agree hpredicate).bind fun ls ls' hls => ?_
  refine (Otherwise.sql_agree otherwise hotherwise).bind fun a b hab => .ok ?_
  exact ((Lexeme.assemble_agree hls none false).conditional _ hab).congr allSpeakIn_append.symm

theorem Otherwise.sql_agree (o : Otherwise) (h : ∀ q ∈ o.nested, q.AgreesInside d) :
    Alike (Sql.AgreeIff d (AllSpeakIn d o.nested)) (o.sql d) ((o.inDialect d).sql d) := by
  match o with
  | .score x =>
    rw [Otherwise.nested]
    exact .ok ((Sql.AgreeIff.refl _).congr allSpeakIn_nil.symm)
  | .weight w =>
    rw [Otherwise.nested] at h ⊢
    exact Weight.sql_agree w h

end

theorem Weight.sqls_agree {weights : List Weight}
    (h : ∀ q ∈ weights.flatMap nested, q.AgreesInside d) :
    Alike (Each (Sql.AgreeIff d) (AllSpeakIn d (weights.flatMap nested))) (Weight.sqls d weights)
      (Weight.sqls d (weights.map (inDialect d))) := by
  rw [propext allSpeakIn_flatMap]
  exact Alike.each (Weight.sql d) (Weight.sqls d) rfl (fun _ _ => by rw [Weight.sqls]) fun w hw =>
    w.sql_agree fun q hq => h q (List.mem_flatMap.mpr ⟨w, hw, hq⟩)

theorem rankingColumn_agree {P : Prop} {ws ws' : List Sql}
    (h : Each (Sql.AgreeIff d) P ws ws') :
    Each (Sql.AgreeIff d) P (rankingColumn ws) (rankingColumn ws') := by
  have hjoin := Sql.AgreeIff.join " + " h
  cases h with
  | nil => exact .nil
  | cons hw hrest =>
    cases hrest with
    | nil => exact .cons (hw.followed _) .nil
    | cons hw' hrest' =>
      exact (Each.cons (hjoin.bracketed.followed _) .nil).congr (and_iff_left trivial)

end

theorem listClause_agree {d : Dialect} {P : Prop} {as bs : List String}
    (h : Each Text.AgreeIff P as bs) (keyword : String) :
    Sql.AgreeIff d P (listClause keyword as) (listClause keyword bs) := by
  unfold listClause
  rw [h.isEmpty_eq]
  split
  · next hempty =>
    rw [List.isEmpty_iff.mp hempty] at h
    cases h
    exact .refl []
  · exact .ofText ((Text.AgreeIff.intercalate ", " h).prepend keyword)

/-- A field that is written in the query's own dialect. -/
theorem Dialect.agreeIff_own (own d : Dialect) (field : String) :
    Text.AgreeIff (own = d ∨ ¬ NamesReserved field) (own.escapeIdentifier field)
      (d.escapeIdentifier field) := by
  by_cases h : own = d
  · exact h ▸ (Text.AgreeIff.refl _).congr (iff_of_true trivial (.inl rfl))
  · exact (agreeIff_escapeIdentifier h field).congr (or_iff_right h).symm

theorem projection_agree (own d : Dialect) (columns : List String) {P : Prop} {ws ws' : List Sql}
    (h : Each (Sql.AgreeIff d) P ws ws') :
    Sql.AgreeIff d ((∀ c ∈ columns, own = d ∨ ¬ Dialect.NamesReserved c) ∧ P)
      (Sql.join ", " ((if columns.isEmpty then [Sql.ofText "*"]
        else columns.map fun c => Sql.ofText (own.escapeIdentifier c)) ++ rankingColumn ws))
      (Sql.join ", " ((if columns.isEmpty then [Sql.ofText "*"]
        else columns.map fun c => Sql.ofText (d.escapeIdentifier c)) ++ rankingColumn ws')) := by
  refine Sql.AgreeIff.join ", " (Each.append ?_ (rankingColumn_agree h))
  cases columns with
  | nil => exact (Each.cons (.refl _) .nil).congr (by simp)
  | cons c rest =>
    exact Each.map (fun c => Sql.AgreeIff.ofText (Dialect.agreeIff_own own d c)) (c :: rest)

namespace Query

/-- The body of a SELECT, where the SELECTs inside it are compared already. -/
theorem body_agree {q : Query} {d : Dialect} (h : ∀ p ∈ q.nested, p.AgreesInside d)
    (place : Place) :
    Alike (fun c c' => Sql.AgreeIff d
        ((∀ field ∈ q.columns ++ q.groupBy, q.dialect = d ∨ ¬ Dialect.NamesReserved field) ∧
          AllSpeakIn d q.nested) c.body c'.body)
      (q.clauses d place) ((q.inDialect d).clauses d place) := by
  rw [inDialect_eq]
  obtain ⟨own, dataSource, source, columns, additional, distinct, joins, predicate, weights,
    groupBy, orderBy, limit, offset, payload, returning⟩ := q
  cases source with
  | none => exact .error _
  | some source =>
    simp only [nested, List.forall_mem_append, Option.elim_some] at h
    obtain ⟨⟨⟨hweights, hsource⟩, hjoins⟩, hpredicate⟩ := h
    simp only [Option.map_some, clauses]
    refine (Weight.sqls_agree hweights).bind fun scores scores' hscores => ?_
    refine (Source.sql_agree hsource).bind fun a a' ha => ?_
    refine (Join.sqls_agree hjoins).bind fun js js' hjs => ?_
    refine (Token.lexemes_agree hpredicate).bind fun ls ls' hls => .ok ?_
    have hwhere := Predicate.clause_agree hls " WHERE "
    have hgroup := listClause_agree (d := d)
      (Each.map (fun g => Dialect.agreeIff_own own d g) groupBy) " GROUP BY "
    have hselect := ((projection_agree own d columns hscores).prepend
      (Sql.ofText (if distinct then "SELECT DISTINCT " else "SELECT "))).followed
      (Sql.ofText " FROM ")
    have hfrom := (hselect.append ha).append (Sql.AgreeIff.flatten hjs)
    have hparts : (((((∀ c ∈ columns, own = d ∨ ¬ Dialect.NamesReserved c) ∧
          AllSpeakIn d (weights.flatMap Weight.nested)) ∧ AllSpeakIn d source.nested) ∧
          AllSpeakIn d (joins.flatMap Join.nested)) ∧ AllSpeakIn d (Predicate.nested predicate)) ∧
          (∀ g ∈ groupBy, own = d ∨ ¬ Dialect.NamesReserved g) ↔
        (∀ field ∈ columns ++ groupBy, own = d ∨ ¬ Dialect.NamesReserved field) ∧
          AllSpeakIn d (weights.flatMap Weight.nested ++ source.nested ++ joins.flatMap Join.nested
            ++ Predicate.nested predicate) := by
      rw [List.forall_mem_append, allSpeakIn_append, allSpeakIn_append, allSpeakIn_append]
      tauto
    refine Sql.AgreeIff.congr ?_ hparts
    unfold Clauses.body
    rw [Predicate.hasClause_inDialect] at hwhere
    rw [Predicate.hasClause_inDialect]
    cases hclause : Predicate.hasClause predicate <;> rw [hclause] at hwhere <;>
      exact (hfrom.append hwhere).append hgroup

end Query

end SqlRecords
