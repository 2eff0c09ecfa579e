import Mathlib.Data.List.Forall2
import SqlRecords.Proofs.Query.Clauses
import SqlRecords.Query.Write

/-! The SELECTs inside a query, and the text that is written for them. Each stands in brackets, in
the place where the query that holds it is written. -/
namespace SqlRecords

/-- A query that stands in the place of a table. -/
def Source.nested : Source → List Query
  | .table _ => []
  | .derived query _ => [query]

def Members.nested : Members → List Query
  | .values .. => []
  | .rows query => [query]

def Token.nested : Token → List Query
  | .membership _ _ members => members.nested
  | _ => []

def Predicate.nested (p : Predicate) : List Query := List.flatMap Token.nested p

def Join.nested (j : Join) : List Query := j.target.nested ++ Predicate.nested j.on

mutual

def Weight.nested : Weight → List Query
  | ⟨predicate, _, otherwise⟩ => Predicate.nested predicate ++ otherwise.nested

def Otherwise.nested : Otherwise → List Query
  | .score _ => []
  | .weight w => w.nested

end

/-- The queries directly inside a SELECT, in the order in which they are written. -/
def Query.nested (q : Query) : List Query :=
  q.weights.flatMap Weight.nested ++ q.source.elim [] Source.nested ++ q.joins.flatMap Join.nested
    ++ Predicate.nested q.predicate

/-- A predicate without a clause holds no query, so nothing is lost where it is left out. -/
theorem Predicate.nested_of_not_hasClause {p : List Token} (h : hasClause p = false) :
    nested p = [] := by
  induction p with
  | nil => rfl
  | cons t rest ih =>
    rw [hasClause_cons, Bool.or_eq_false_iff] at h
    obtain ⟨ht, hrest⟩ := h
    have hnone : t.nested = [] := by
      cases t <;> first | rfl | cases ht
    rw [nested, List.flatMap_cons, hnone]
    exact ih hrest

/-- A text holds the SELECTs of the given queries, one behind another and each in brackets. -/
inductive Sql.Encloses (d : Dialect) : List Query → Sql → Prop
  | none (sql : Sql) : Encloses d [] sql
  | next {q : Query} {c : Clauses} {rest : List Query} {back : Sql} (front : Sql)
    (hclauses : q.clauses d .nested = .ok c) (hback : Encloses d rest back) :
    Encloses d (q :: rest) (front ++ (Sql.bracketed c.sql ++ back))

namespace Sql.Encloses
variable {d : Dialect} {ps qs : List Query} {a b : Sql}

theorem after (front : Sql) (h : Encloses d qs a) : Encloses d qs (front ++ a) := by
  cases h with
  | none => exact .none _
  | next front' hclauses hback =>
    rw [← List.append_assoc]
    exact .next (front ++ front') hclauses hback

theorem append (ha : Encloses d ps a) (hb : Encloses d qs b) : Encloses d (ps ++ qs) (a ++ b) := by
  induction ha with
  | none sql => exact hb.after sql
  | next front hclauses _ ih =>
    rw [List.append_assoc, List.append_assoc]
    exact .next front hclauses ih

theorem before (h : Encloses d qs a) (back : Sql) : Encloses d qs (a ++ back) := by
  have happend := h.append (.none back)
  rwa [List.append_nil] at happend

theorem single {q : Query} {c : Clauses} (h : q.clauses d .nested = .ok c) :
    Encloses d [q] (Sql.bracketed c.sql) := by
  have hnext : Encloses d [q] ([] ++ (Sql.bracketed c.sql ++ [])) := .next [] h (.none [])
  rwa [List.nil_append, List.append_nil] at hnext

theorem bracketed (h : Encloses d qs a) : Encloses d qs (Sql.bracketed a) :=
  (h.after _).before _

theorem conditional {otherwise : Sql} (outcome : Sql) (ha : Encloses d ps a)
    (hb : Encloses d qs otherwise) :
    Encloses d (ps ++ qs) (Sql.conditional d a outcome otherwise) := by
  unfold Sql.conditional
  split
  all_goals exact ((((((ha.after _).before _).before _).before _).append hb).before _)

/-- A SELECT that a text holds can be written. -/
theorem clauses_ok (h : Encloses d qs a) {q : Query} (hq : q ∈ qs) :
    ∃ c, q.clauses d .nested = .ok c := by
  induction h with
  | none => cases hq
  | next front hclauses _ ih =>
    obtain rfl | hq := List.mem_cons.mp hq
    · exact ⟨_, hclauses⟩
    · exact ih hq

/-- What one of many parts holds is held by all of them together. -/
theorem join_of_mem {parts : List Sql} (separator : String) (hmem : a ∈ parts)
    (h : Encloses d qs a) : Encloses d qs (Sql.join separator parts) := by
  induction parts with
  | nil => cases hmem
  | cons part parts ih =>
    unfold Sql.join at *
    cases parts with
    | nil =>
      cases List.mem_singleton.mp hmem
      exact h.before _
    | cons next parts =>
      rw [List.intersperse_cons_cons, List.flatten_cons, List.flatten_cons]
      obtain rfl | hmem := List.mem_cons.mp hmem
      · exact h.before _
      · exact ((ih hmem).after _).after _

/-- Parts with separators between them. -/
theorem join {α : Type} {nested : α → List Query} {items : List α} {parts : List Sql}
    (separator : String) (h : List.Forall₂ (fun item part => Encloses d (nested item) part)
      items parts) : Encloses d (items.flatMap nested) (Sql.join separator parts) := by
  induction h with
  | nil => exact .none _
  | @cons item part items parts hpart hrest ih =>
    unfold Sql.join at *
    cases parts with
    | nil =>
      cases hrest
      rw [List.flatMap_cons, List.flatMap_nil, List.append_nil]
      exact hpart.before _
    | cons next parts =>
      rw [List.intersperse_cons_cons, List.flatten_cons, List.flatten_cons, List.flatMap_cons]
      exact hpart.append (ih.after _)

/-- Parts one behind another. -/
theorem flatten {α : Type} {nested : α → List Query} {items : List α} {parts : List Sql}
    (h : List.Forall₂ (fun item part => Encloses d (nested item) part) items parts) :
    Encloses d (items.flatMap nested) parts.flatten := by
  induction h with
  | nil => exact .none _
  | cons hpart _ ih => exact hpart.append ih

end Sql.Encloses

/-- Parts of a list that are written one after another. -/
theorem forall₂_of_each {α β : Type} (one : α → Except Incomplete β)
    (each : List α → Except Incomplete (List β)) {R : α → β → Prop} (hnil : each [] = .ok [])
    (hcons : ∀ x rest, each (x :: rest) = do
      let y ← one x
      let ys ← each rest
      return y :: ys)
    (hone : ∀ x y, one x = .ok y → R x y) {xs : List α} {ys : List β} (h : each xs = .ok ys) :
    List.Forall₂ R xs ys := by
  induction xs generalizing ys with
  | nil =>
    cases Except.ok.inj (hnil.symm.trans h)
    exact .nil
  | cons x rest ih =>
    obtain ⟨y, hy, h⟩ := bind_eq_ok.mp ((hcons x rest).symm.trans h)
    obtain ⟨ys, hrest, h⟩ := bind_eq_ok.mp h
    cases Except.ok.inj h
    exact .cons (hone x y hy) (ih hrest)

section
variable {d : Dialect}

theorem Source.sql_encloses {source : Source} {sql : Sql} (h : source.sql d = .ok sql) :
    Sql.Encloses d source.nested sql := by
  cases source with
  | table name => exact .none _
  | derived query label =>
    unfold Source.sql at h
    obtain ⟨c, hq, h⟩ := bind_eq_ok.mp h
    cases Except.ok.inj h
    exact (Sql.Encloses.single hq).before _

theorem Members.sql_encloses {members : Members} {field : String} {negated : Bool} {sql : Sql}
    (h : members.sql d field negated = .ok sql) : Sql.Encloses d members.nested sql := by
  cases members with
  | values vs bound => exact .none _
  | rows query =>
    unfold Members.sql at h
    obtain ⟨c, hq, h⟩ := bind_eq_ok.mp h
    cases Except.ok.inj h
    exact (Sql.Encloses.single hq).after _

/-- A clause holds queries, connectors and brackets hold none. -/
def Lexeme.Encloses (d : Dialect) (qs : List Query) : Lexeme → Prop
  | .clause sql => Sql.Encloses d qs sql
  | .connector _ | .opening | .closing => qs = []

theorem Token.lexeme_encloses {t : Token} {l : Lexeme} (h : t.lexeme d = .ok l) :
    l.Encloses d t.nested := by
  cases t with
  | membership field negated members =>
    unfold Token.lexeme at h
    obtain ⟨sql, hm, h⟩ := bind_eq_ok.mp h
    cases Except.ok.inj h
    exact Members.sql_encloses hm
  | compare | nullness | between =>
    cases Except.ok.inj h
    exact .none _
  | connector | opening | closing =>
    cases Except.ok.inj h
    rfl

theorem Token.lexemes_encloses {tokens : List Token} {ls : List Lexeme}
    (h : Token.lexemes d tokens = .ok ls) :
    List.Forall₂ (fun t l => Lexeme.Encloses d (Token.nested t) l) tokens ls :=
  forall₂_of_each (Token.lexeme d) (Token.lexemes d) rfl (fun _ _ => by rw [Token.lexemes])
    (fun _ _ => Token.lexeme_encloses) h

theorem Lexeme.assemble_encloses {tokens : List Token} {ls : List Lexeme}
    (h : List.Forall₂ (fun t l => Lexeme.Encloses d (Token.nested t) l) tokens ls)
    (pending : Option Connector) (afterOperand : Bool) :
    Sql.Encloses d (Predicate.nested tokens) (assemble pending afterOperand ls) := by
  induction h generalizing pending afterOperand with
  | nil => exact .none _
  | @cons t l tokens ls ht _ ih =>
    have hnested : Predicate.nested (t :: tokens) = t.nested ++ Predicate.nested tokens :=
      List.flatMap_cons
    rw [hnested]
    cases l with
    | clause sql => exact (Sql.Encloses.after _ ht).append (ih none true)
    | connector c =>
      rw [show t.nested = [] from ht]
      exact ih (some c) afterOperand
    | opening =>
      rw [show t.nested = [] from ht]
      exact (ih none false).after _
    | closing =>
      rw [show t.nested = [] from ht]
      exact (ih none true).after _

theorem Predicate.sql_encloses {tokens : List Token} {ls : List Lexeme}
    (h : Token.lexemes d tokens = .ok ls) :
    Sql.Encloses d (Predicate.nested tokens) (Lexeme.sql ls) :=
  Lexeme.assemble_encloses (Token.lexemes_encloses h) none false

/-- A predicate is written behind a keyword or left out. -/
theorem Predicate.clause_encloses {tokens : List Token} {ls : List Lexeme}
    (h : Token.lexemes d tokens = .ok ls) (keyword : String) :
    Sql.Encloses d (Predicate.nested tokens)
      (if hasClause tokens then Sql.ofText keyword ++ Lexeme.sql ls else []) := by
  cases hclause : hasClause tokens with
  | true => exact (Predicate.sql_encloses h).after _
  | false =>
    rw [nested_of_not_hasClause hclause]
    exact .none _

theorem Predicate.whereSql_encloses {p : Predicate} {sql : Sql} (h : p.whereSql d = .ok sql) :
    sql.Encloses d (nested p) := by
  unfold whereSql Predicate.sql at h
  split at h
  · cases hl : Token.lexemes d p with
    | error e => rw [hl] at h; cases h
    | ok ls =>
      rw [hl] at h
      cases Except.ok.inj h
      exact (Predicate.sql_encloses hl).after _
  · rename_i hclause
    rw [nested_of_not_hasClause (Bool.not_eq_true _ ▸ hclause)]
    exact .none _

theorem Join.sql_encloses {j : Join} {sql : Sql} (h : j.sql d = .ok sql) :
    Sql.Encloses d j.nested sql := by
  obtain ⟨kind, target, on⟩ := j
  unfold Join.sql at h
  obtain ⟨targetSql, ht, h⟩ := bind_eq_ok.mp h
  obtain ⟨ls, hl, h⟩ := bind_eq_ok.mp h
  cases Except.ok.inj h
  have htarget := (Source.sql_encloses ht).after (Sql.ofText (" " ++ kind.text ++ " "))
  exact htarget.append (Predicate.clause_encloses hl " ON ")

theorem Join.sqls_encloses {joins : List Join} {sqls : List Sql}
    (h : Join.sqls d joins = .ok sqls) :
    List.Forall₂ (fun j sql => Sql.Encloses d (Join.nested j) sql) joins sqls :=
  forall₂_of_each (Join.sql d) (Join.sqls d) rfl (fun _ _ => by rw [Join.sqls])
    (fun _ _ => Join.sql_encloses) h

mutual

theorem Weight.sql_encloses (w : Weight) {sql : Sql} (h : w.sql d = .ok sql) :
    Sql.Encloses d w.nested sql := by
  obtain ⟨predicate, score, otherwise⟩ := w
  unfold Weight.sql at h
  obtain ⟨ls, hl, h⟩ := bind_eq_ok.mp h
  obtain ⟨otherwiseSql, ho, h⟩ := bind_eq_ok.mp h
  cases Except.ok.inj h
  exact (Predicate.sql_encloses hl).conditional _ (Otherwise.sql_encloses otherwise ho)

theorem Otherwise.sql_encloses (o : Otherwise) {sql : Sql} (h : o.sql d = .ok sql) :
    Sql.Encloses d o.nested sql := by
  match o with
  | .score x => exact .none _
  | .weight w => exact Weight.sql_encloses w h

end

theorem Weight.sqls_encloses {weights : List Weight} {sqls : List Sql}
    (h : Weight.sqls d weights = .ok sqls) :
    List.Forall₂ (fun w sql => Sql.Encloses d (Weight.nested w) sql) weights sqls :=
  forall₂_of_each (Weight.sql d) (Weight.sqls d) rfl (fun _ _ => by rw [Weight.sqls])
    (fun w _ => Weight.sql_encloses w) h

/-- The ranking column holds what the weights hold. -/
theorem rankingColumn_encloses {weights : List Weight} {sqls : List Sql}
    (h : List.Forall₂ (fun w sql => Sql.Encloses d (Weight.nested w) sql) weights sqls)
    (columns : List Sql) :
    Sql.Encloses d (weights.flatMap Weight.nested)
      (Sql.join ", " (columns ++ rankingColumn sqls)) := by
  match weights, sqls, h with
  | [], [], _ => exact .none _
  | [_], [_], .cons hw _ =>
    refine Sql.Encloses.join_of_mem _ (List.mem_append_right _ List.mem_cons_self) ?_
    rw [List.flatMap_cons, List.flatMap_nil, List.append_nil]
    exact hw.before _
  | _ :: _ :: _, _ :: _ :: _, h =>
    refine Sql.Encloses.join_of_mem _ (List.mem_append_right _ List.mem_cons_self) ?_
    exact (Sql.Encloses.join " + " h).bracketed.before _

/-- All SELECTs inside a SELECT stand in front of its order and its page. -/
theorem Query.body_encloses {q : Query} {place : Place} {c : Clauses}
    (h : q.clauses d place = .ok c) : Sql.Encloses d q.nested c.body := by
  obtain ⟨source, scores, sourceSql, joinSqls, lexemes, hsource, hw, hs, hj, hl, rfl⟩ :=
    clauses_eq_ok_iff.mp h
  have hprojection := rankingColumn_encloses (Weight.sqls_encloses hw)
    (if q.columns.isEmpty then [Sql.ofText "*"]
      else q.columns.map fun c => Sql.ofText (q.dialect.escapeIdentifier c))
  have hjoins := Sql.Encloses.flatten (Join.sqls_encloses hj)
  have hpredicate := Predicate.clause_encloses hl " WHERE "
  unfold nested Clauses.body
  rw [hsource]
  refine Sql.Encloses.before ?_ _
  refine Sql.Encloses.append ?_ ?_
  · exact (((hprojection.after _).before _).append (Source.sql_encloses hs)).append hjoins
  · cases hclause : Predicate.hasClause q.predicate <;> rw [hclause] at hpredicate <;>
      exact hpredicate

end
end SqlRecords
