import SqlRecords.Query.Select

/-! Connectors between the operands of a predicate. They are written where one operand ends and the
next begins, and nowhere else. -/
namespace SqlRecords

namespace Token

def isConnector : Token → Bool
  | .connector _ => true
  | _ => false

/-- Whether an operand begins with a token: a clause or an opening bracket. -/
def startsOperand : Token → Bool
  | .closing | .connector _ => false
  | _ => true

/-- Whether an operand ends with a token: a clause or a closing bracket. -/
def endsOperand : Token → Bool
  | .opening | .connector _ => false
  | _ => true

end Token

namespace Predicate

/-- The connector that is written where one is needed, AND without a pending one. -/
def joint (pending : Option Connector) (needed : Bool) : List Token :=
  if needed then [.connector (pending.getD .and)] else []

/-- Tokens as they are written after an operand or at the start, each connector in its place. -/
def connect (pending : Option Connector) (afterOperand : Bool) : List Token → List Token
  | [] => []
  | .connector c :: rest => connect (some c) afterOperand rest
  | t :: rest =>
    joint pending (afterOperand && t.startsOperand) ++ t :: connect none t.endsOperand rest

/-- The tokens of a predicate as they are written, each connector in its place. -/
def connected (p : Predicate) : Predicate := connect none false p

/-- The connector that is pending behind tokens. -/
def pendingAfter (pending : Option Connector) (ts : List Token) : Option Connector :=
  ts.foldl (fun _ t => match t with
    | .connector c => some c
    | _ => none) pending

/-- Whether an operand ends where tokens end. -/
def endsOperand (afterOperand : Bool) (ts : List Token) : Bool :=
  ts.foldl (fun after t => if t.isConnector then after else t.endsOperand) afterOperand

section
variable (pending : Option Connector) (afterOperand : Bool) {t : Token} (rest : List Token)

theorem connect_word (h : t.isConnector = false) :
    connect pending afterOperand (t :: rest) =
      joint pending (afterOperand && t.startsOperand) ++ t :: connect none t.endsOperand rest := by
  cases t with
  | connector c => cases h
  | _ => rfl

theorem pendingAfter_word (h : t.isConnector = false) :
    pendingAfter pending (t :: rest) = pendingAfter none rest := by
  cases t with
  | connector c => cases h
  | _ => rfl

theorem endsOperand_word (h : t.isConnector = false) :
    endsOperand afterOperand (t :: rest) = endsOperand t.endsOperand rest := by
  rw [endsOperand, List.foldl_cons, h]
  rfl

end

theorem pendingAfter_concat (pending : Option Connector) (ts : List Token) {t : Token}
    (h : t.isConnector = false) : pendingAfter pending (ts ++ [t]) = none := by
  unfold pendingAfter
  rw [List.foldl_append]
  cases t with
  | connector c => cases h
  | _ => rfl

theorem endsOperand_concat (afterOperand : Bool) (ts : List Token) {t : Token}
    (h : t.isConnector = false) : endsOperand afterOperand (ts ++ [t]) = t.endsOperand := by
  rw [endsOperand, List.foldl_append, List.foldl_cons, h]
  rfl

/-- Tokens that follow are written as what they follow leaves it. -/
theorem connect_append (pending : Option Connector) (afterOperand : Bool) (ts us : List Token) :
    connect pending afterOperand (ts ++ us) =
      connect pending afterOperand ts
        ++ connect (pendingAfter pending ts) (endsOperand afterOperand ts) us := by
  induction ts generalizing pending afterOperand with
  | nil => rfl
  | cons t rest ih =>
    cases ht : t.isConnector with
    | true =>
      cases t with
      | connector c => exact ih (some c) afterOperand
      | _ => cases ht
    | false =>
      rw [List.cons_append, connect_word _ _ _ ht, connect_word _ _ _ ht, ih,
        pendingAfter_word _ _ ht, endsOperand_word _ _ ht]
      simp

/-- Of connectors in a row the last counts. -/
theorem connect_connectors (pending : Option Connector) (afterOperand : Bool)
    (cs : List Connector) (ts : List Token) :
    connect pending afterOperand (cs.map .connector ++ ts) =
      connect (cs.getLast?.or pending) afterOperand ts := by
  induction cs generalizing pending with
  | nil => rfl
  | cons c rest ih =>
    have hstep := ih (some c)
    rw [List.map_cons, List.cons_append, connect, hstep]
    cases rest with
    | nil => rfl
    | cons c' rest => simp [List.getLast?_cons]

/-- All tokens but connectors are written, in their order. -/
theorem filter_connect (pending : Option Connector) (afterOperand : Bool) (ts : List Token) :
    (connect pending afterOperand ts).filter (!·.isConnector) = ts.filter (!·.isConnector) := by
  induction ts generalizing pending afterOperand with
  | nil => rfl
  | cons t rest ih =>
    cases ht : t.isConnector with
    | true =>
      cases t with
      | connector c => exact ih (some c) afterOperand
      | _ => cases ht
    | false =>
      have hjoint (needed : Bool) : (joint pending needed).filter (!·.isConnector) = [] := by
        cases needed <;> rfl
      rw [connect_word _ _ _ ht, List.filter_append, hjoint, List.nil_append,
        List.filter_cons_of_pos (by rw [ht]; rfl), List.filter_cons_of_pos (by rw [ht]; rfl), ih]

/-- A written connector stands behind what ends an operand and before what starts one. -/
theorem connect_edges (pending : Option Connector) (afterOperand : Bool) (ts : List Token)
    {front back : List Token} {c : Connector}
    (h : connect pending afterOperand ts = front ++ .connector c :: back) :
    (front = [] → afterOperand = true) ∧ (∀ x, front.getLast? = some x → x.endsOperand = true) ∧
      ∃ y, back.head? = some y ∧ y.startsOperand = true := by
  induction ts generalizing pending afterOperand front with
  | nil => cases front <;> cases h
  | cons t rest ih =>
    cases ht : t.isConnector with
    | true =>
      cases t with
      | connector c' => exact ih (some c') afterOperand h
      | _ => cases ht
    | false =>
      rw [connect_word _ _ _ ht] at h
      -- Behind the token itself the rest is written, with a connector only if an operand ends here.
      have hbehind {front' : List Token}
          (h' : t :: connect none t.endsOperand rest = front' ++ .connector c :: back) :
          front' ≠ [] ∧ (∀ x, front'.getLast? = some x → x.endsOperand = true) ∧
            ∃ y, back.head? = some y ∧ y.startsOperand = true := by
        cases front' with
        | nil =>
          cases (List.cons.inj h').1
          cases ht
        | cons x front' =>
          obtain ⟨rfl, hrest⟩ := List.cons.inj h'
          obtain ⟨hfirst, hlast, hback⟩ := ih none t.endsOperand hrest
          refine ⟨List.cons_ne_nil _ _, ?_, hback⟩
          intro y hy
          cases front' with
          | nil =>
            cases Option.some.inj hy
            exact hfirst rfl
          | cons z front' => exact hlast y (by rwa [List.getLast?_cons_cons] at hy)
      cases hneeded : afterOperand && t.startsOperand with
      | false =>
        rw [hneeded] at h
        obtain ⟨hne, hlast, hback⟩ := hbehind h
        exact ⟨fun hnil => absurd hnil hne, hlast, hback⟩
      | true =>
        obtain ⟨hafter, hstarts⟩ := Bool.and_eq_true_iff.mp hneeded
        rw [hneeded] at h
        cases front with
        | nil =>
          obtain ⟨-, rfl⟩ := List.cons.inj h
          refine ⟨fun _ => hafter, fun x hx => ?_, t, rfl, hstarts⟩
          cases hx
        | cons x front =>
          obtain ⟨-, hrest⟩ := List.cons.inj h
          obtain ⟨hne, hlast, hback⟩ := hbehind hrest
          refine ⟨fun _ => hafter, ?_, hback⟩
          intro y hy
          cases front with
          | nil => exact absurd rfl hne
          | cons z front => exact hlast y (by rwa [List.getLast?_cons_cons] at hy)

end Predicate

namespace Lexeme

/-- What is written for a lexeme in its place. -/
def written : Lexeme → Sql
  | .clause sql => sql
  | .connector c => Sql.ofText c.text
  | .opening => Sql.ofText "("
  | .closing => Sql.ofText ")"

/-- The texts of lexemes, slots numbered on from each to the next. -/
def texts (d : Dialect) (n : Nat) : List Lexeme → List String
  | [] => []
  | l :: rest => l.written.renderAfter d n :: texts d (n + l.written.params.length) rest

theorem join_texts (d : Dialect) (n : Nat) (ls : List Lexeme) :
    String.join (texts d n ls) = Sql.renderAfter d n (ls.flatMap written) := by
  induction ls generalizing n with
  | nil => rfl
  | cons l rest ih =>
    unfold Sql.renderAfter at ih ⊢
    rw [texts, String.join_cons, ih, List.flatMap_cons, Sql.chunks_append, String.join_append]
    rfl

end Lexeme

namespace Token

theorem lexemes_append (d : Dialect) (ts us : List Token) :
    lexemes d (ts ++ us) = (do return (← lexemes d ts) ++ (← lexemes d us)) := by
  induction ts with
  | nil =>
    simp only [List.nil_append, lexemes, ok_bind]
    cases lexemes d us <;> rfl
  | cons t rest ih =>
    simp only [List.cons_append, lexemes, ih]
    cases t.lexeme d with
    | error e => rfl
    | ok l =>
    cases lexemes d rest with
    | error e => rfl
    | ok ls => cases lexemes d us <;> rfl

theorem lexemes_joint (d : Dialect) (pending : Option Connector) (needed : Bool) :
    ∃ ls, lexemes d (Predicate.joint pending needed) = .ok ls ∧
      ls.flatMap Lexeme.written = Lexeme.separator pending needed := by
  cases needed with
  | false => exact ⟨[], rfl, rfl⟩
  | true => exact ⟨[.connector (pending.getD .and)], rfl, List.append_nil _⟩

/-- A token that is no connector is written behind what separates it from the operand before. -/
theorem assemble_word {d : Dialect} {t : Token} {l : Lexeme} (pending : Option Connector)
    (afterOperand : Bool) (ls : List Lexeme) (ht : t.isConnector = false)
    (hl : t.lexeme d = .ok l) :
    Lexeme.assemble pending afterOperand (l :: ls) =
      Lexeme.separator pending (afterOperand && t.startsOperand) ++ l.written
        ++ Lexeme.assemble none t.endsOperand ls := by
  have hclause {sql : Sql} (hsql : l = .clause sql) (hstarts : t.startsOperand = true)
      (hends : t.endsOperand = true) : Lexeme.assemble pending afterOperand (l :: ls) =
        Lexeme.separator pending (afterOperand && t.startsOperand) ++ l.written
          ++ Lexeme.assemble none t.endsOperand ls := by
    rw [hsql, hstarts, hends, Bool.and_true]
    rfl
  cases t with
  | compare field comparison v bound => exact hclause (Except.ok.inj hl).symm rfl rfl
  | nullness field isNull => exact hclause (Except.ok.inj hl).symm rfl rfl
  | membership field negated members =>
    rw [lexeme] at hl
    cases hm : members.sql d field negated with
    | error e =>
      rw [hm] at hl
      cases hl
    | ok sql =>
      rw [hm] at hl
      exact hclause (Except.ok.inj hl).symm rfl rfl
  | between field low high => exact hclause (Except.ok.inj hl).symm rfl rfl
  | connector c => cases ht
  | opening =>
    have hstarts : opening.startsOperand = true := rfl
    cases Except.ok.inj hl
    rw [hstarts, Bool.and_true]
    rfl
  | closing =>
    cases Except.ok.inj hl
    rw [startsOperand, Bool.and_false]
    rfl

/-- Tokens are written one after another once each connector is in its place. -/
theorem lexemes_connect (d : Dialect) (pending : Option Connector) (afterOperand : Bool)
    (ts : List Token) :
    (lexemes d ts).map (Lexeme.assemble pending afterOperand) =
      (lexemes d (Predicate.connect pending afterOperand ts)).map (·.flatMap Lexeme.written) := by
  induction ts generalizing pending afterOperand with
  | nil => rfl
  | cons t rest ih =>
    cases ht : t.isConnector with
    | true =>
      cases t with
      | connector c =>
        rw [Predicate.connect, ← ih, lexemes, lexeme, ok_bind]
        cases lexemes d rest <;> rfl
      | _ => cases ht
    | false =>
      obtain ⟨joint, hjoint, hwritten⟩ :=
        lexemes_joint d pending (afterOperand && t.startsOperand)
      rw [Predicate.connect_word _ _ _ ht, lexemes_append, hjoint, ok_bind]
      simp only [lexemes]
      cases hl : t.lexeme d with
      | error e => rfl
      | ok l =>
        -- What is written for the rest is the same on both sides.
        have hrest := congrArg (Except.map fun sql =>
          Lexeme.separator pending (afterOperand && t.startsOperand) ++ l.written ++ sql)
          (ih none t.endsOperand)
        cases hls : lexemes d rest <;>
          cases hls' : lexemes d (Predicate.connect none t.endsOperand rest) <;>
          simp only [hls, hls'] at hrest
        · exact hrest
        · cases hrest
        · cases hrest
        · have hpieces := Except.ok.inj hrest
          simp only [ok_bind, map_ok, pure_eq_ok, assemble_word pending afterOperand _ ht hl,
            hpieces, List.flatMap_append, List.flatMap_cons, hwritten, List.append_assoc]

end Token

namespace Predicate

theorem sql_eq_written (d : Dialect) (p : Predicate) :
    p.sql d = (Token.lexemes d p.connected).map (·.flatMap Lexeme.written) :=
  Token.lexemes_connect d none false p

/-- A predicate is written token by token, in order, with a connector between two of its tokens that
follow one another if an operand ends with the first and one starts with the second: the last that
was asked for between them, and AND without one. No connector stands at an end of the text, behind
an opening bracket or before a closing one. -/
theorem connectors_join_operands (d : Dialect) (n : Nat) (p : Predicate) :
    (p.sql d).map (·.renderAfter d n) =
      (Token.lexemes d p.connected).map (fun ls => String.join (Lexeme.texts d n ls)) ∧
    p.connected.filter (!·.isConnector) = p.filter (!·.isConnector) ∧
    (∀ (front back : List Token) (x y : Token) (between : List Connector),
      p = front ++ x :: (between.map .connector ++ y :: back) →
      x.isConnector = false → y.isConnector = false →
      p.connected = connected (front ++ [x])
        ++ (if x.endsOperand && y.startsOperand then [.connector (between.getLast?.getD .and)]
          else [])
        ++ connected (y :: back)) ∧
    ∀ (front back : List Token) (c : Connector), p.connected = front ++ .connector c :: back →
      (∃ x, front.getLast? = some x ∧ x.endsOperand = true) ∧
        ∃ y, back.head? = some y ∧ y.startsOperand = true := by
  refine ⟨?_, filter_connect none false p, ?_, ?_⟩
  · rw [p.sql_eq_written d]
    cases Token.lexemes d p.connected with
    | error e => rfl
    | ok ls => exact congrArg Except.ok (Lexeme.join_texts d n ls).symm
  · rintro front back x y between rfl hx hy
    have hsplit : front ++ x :: (between.map .connector ++ y :: back) =
        (front ++ [x]) ++ (between.map .connector ++ y :: back) := by simp
    unfold connected
    rw [hsplit, connect_append, pendingAfter_concat none front hx,
      endsOperand_concat false front hx, connect_connectors, Option.or_none,
      connect_word _ _ _ hy, connect_word none false _ hy, List.append_assoc]
    rfl
  · intro front back c h
    obtain ⟨hfirst, hlast, hback⟩ := connect_edges none false p h
    refine ⟨?_, hback⟩
    cases hx : front.getLast? with
    | none =>
      rw [List.getLast?_eq_none_iff] at hx
      cases hfirst hx
    | some x => exact ⟨x, rfl, hlast x hx⟩

/-- OR is dropped where the bracket closes. -/
example : (sql .mysql [.opening, .nullness "a" true, .connector .or, .closing,
    .nullness "b" true]).toOption.map (·.render .mysql) = some "(a IS NULL) AND b IS NULL" := by
  decide +kernel

end Predicate
end SqlRecords
