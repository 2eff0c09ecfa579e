import SqlRecords.Query.OnePass
import SqlRecords.Proofs.Query.Parameters

/-! What is written in one pass is what the pieces are written as. -/
namespace SqlRecords

namespace Output

/-- Writes pieces one after another. -/
def put (out : Output) (sql : Sql) : Output :=
  sql.foldl (fun out piece => match piece with
    | .text s => out.emit s
    | .slot v => out.bind v) out

@[simp] theorem put_nil (out : Output) : out.put [] = out := rfl

@[simp] theorem put_append (out : Output) (a b : Sql) : out.put (a ++ b) = (out.put a).put b :=
  List.foldl_append

@[simp] theorem put_ofText (out : Output) (s : String) : out.put (Sql.ofText s) = out.emit s := rfl

@[simp] theorem emit_emit (out : Output) (s t : String) :
    (out.emit s).emit t = out.emit (s ++ t) := by
  simp [emit, String.append_assoc]

@[simp] theorem emit_empty (out : Output) : out.emit "" = out := by
  simp [emit]

@[simp] theorem bind_dialect (out : Output) (v : Value) : (out.bind v).dialect = out.dialect := by
  unfold bind
  split <;> rfl

@[simp] theorem put_dialect (out : Output) (sql : Sql) : (out.put sql).dialect = out.dialect := by
  induction sql generalizing out with
  | nil => rfl
  | cons p rest ih =>
    cases p with
    | text s => exact ih (out.emit s)
    | slot v => exact (ih (out.bind v)).trans (bind_dialect out v)

/-- Pieces are numbered on from the parameters that there are. -/
theorem put_eq (out : Output) (sql : Sql) :
    out.put sql = { out with
      text := out.text ++ sql.renderAfter out.dialect out.params.length
      params := out.params ++ sql.params } := by
  induction sql generalizing out with
  | nil => simp [Sql.renderAfter, Sql.chunks, Sql.params, Sql.slots]
  | cons p rest ih =>
    cases p with
    | text s =>
      have hput : out.put (.text s :: rest) = (out.emit s).put rest := rfl
      have hparams : Sql.params (.text s :: rest) = Sql.params rest := rfl
      rw [hput, ih, hparams]
      simp [emit, Sql.renderAfter, Sql.chunks, String.append_assoc]
    | slot v =>
      have hput : out.put (.slot v :: rest) = (out.bind v).put rest := rfl
      rw [hput, ih, Sql.params_slot_cons]
      cases hv : v.isNull <;>
        simp [bind, emit, hv, Sql.renderAfter, Sql.chunks, String.append_assoc]

end Output

/-- A writer of what is written as `pieces` in a statement of dialect `d`. -/
def Emits (d : Dialect) (w : Writer) (pieces : Except Incomplete Sql) : Prop :=
  ∀ out : Output, out.dialect = d → w out = pieces.map out.put

namespace Emits
variable {d : Dialect} {w w' : Writer} {a b pieces : Except Incomplete Sql}

theorem text (s : String) : Emits d (Writer.text s) (.ok (Sql.ofText s)) := fun _ _ => rfl

theorem slot (v : Value) : Emits d (Writer.slot v) (.ok (Sql.bind v)) := fun _ _ => rfl

theorem skip : Emits d Writer.skip (.ok []) := fun _ _ => rfl

theorem inDialect (f : Dialect → String) :
    Emits d (Writer.inDialect f) (.ok (Sql.ofText (f d))) := by
  intro out hout
  rw [← hout]
  rfl

theorem identifier (name : String) :
    Emits d (Writer.identifier name) (.ok (Sql.ofText (d.escapeIdentifier name))) :=
  inDialect fun d => d.escapeIdentifier name

theorem seq (ha : Emits d w a) (hb : Emits d w' b) :
    Emits d (w >=> w') (do return (← a) ++ (← b)) := by
  intro out hout
  unfold Bind.kleisliRight
  rw [ha out hout]
  cases a with
  | error e => rfl
  | ok sql =>
    refine (hb (out.put sql) ((out.put_dialect sql).trans hout)).trans ?_
    cases b with
    | error e => rfl
    | ok sql' => exact congrArg Except.ok (out.put_append sql sql').symm

theorem congr (ha : Emits d w a) (h : ∀ out : Output, a.map out.put = pieces.map out.put) :
    Emits d w pieces := fun out hout => (ha out hout).trans (h out)

theorem value (v : Value) (bound : Bool) :
    Emits d (Writer.value v bound) (.ok (operand d v bound)) := by
  cases bound with
  | false => exact inDialect fun d => inlineOperand d v
  | true => exact slot v

theorem separator (pending : Option Connector) (afterOperand : Bool) :
    Emits d (Writer.separator pending afterOperand)
      (.ok (Lexeme.separator pending afterOperand)) := by
  cases afterOperand with
  | false => exact skip
  | true => exact text _

theorem listing (keyword : String) (items : List String) :
    Emits d (Writer.listing keyword items) (.ok (listClause keyword items)) := by
  unfold Writer.listing listClause
  cases items.isEmpty with
  | false => exact text _
  | true => exact skip

theorem member (v : Value) (bound : Bool) :
    Emits d (if bound then Writer.slot v else Writer.inDialect fun d => d.literal v)
      (.ok (memberSql d bound v)) := by
  cases bound with
  | false => exact inDialect fun d => d.literal v
  | true => exact slot v

theorem members (bound : Bool) (values : List Value) :
    Emits d (Writer.members bound values)
      (.ok (Sql.join ", " (values.map (memberSql d bound)))) := by
  match values with
  | [] => exact skip
  | [v] =>
    refine (member v bound).congr fun out => ?_
    simp [Sql.join]
  | v :: v' :: rest =>
    -- Both sides put the comma before the second member.
    refine ((member v bound).seq ((text ", ").seq (members bound (v' :: rest)))).congr fun out => ?_
    simp [Sql.join_cons]

end Emits

theorem Output.put_commaList (out : Output) (items : List String) :
    out.put (Sql.join ", " (items.map Sql.ofText)) = out.emit (commaList items) := by
  induction items generalizing out with
  | nil => simp [commaList]
  | cons item rest ih =>
    cases rest with
    | nil => simp [Sql.join_cons, commaList]
    | cons item' rest =>
      have htail := ih (out.emit (item ++ ", "))
      simp only [List.map_cons, Sql.join_cons] at htail ⊢
      simpa [commaList] using htail

/-- The columns come first; the ranking column stands after a comma, if there is one. -/
theorem Output.put_projection (out : Output) (own : Dialect) (columns : List String)
    (ranking : List Sql) :
    out.put (Sql.join ", " ((if columns.isEmpty then [Sql.ofText "*"]
        else columns.map fun c => Sql.ofText (own.escapeIdentifier c)) ++ ranking)) =
      (out.emit (if columns.isEmpty then "*" else commaList (columns.map own.escapeIdentifier))).put
        (ranking.flatMap (Sql.ofText ", " ++ ·)) := by
  cases columns with
  | nil => simp [Sql.join_cons]
  | cons c rest =>
    have hne : (c :: rest).map (fun c => Sql.ofText (own.escapeIdentifier c)) ≠ [] := by simp
    have hitems := out.put_commaList ((c :: rest).map own.escapeIdentifier)
    rw [List.map_map] at hitems
    simp only [List.isEmpty_cons, Bool.false_eq_true, if_false]
    rw [Sql.join_append _ _ _ hne, put_append]
    exact congrArg (Output.put · _) hitems

namespace Emits
variable {d : Dialect}

theorem ranking {ws : List Weight} {sum : Writer}
    (h : Emits d sum ((Weight.sqls d ws).map (Sql.join " + "))) :
    Emits d (Writer.ranking ws sum)
      ((Weight.sqls d ws).map fun scores =>
        (rankingColumn scores).flatMap (Sql.ofText ", " ++ ·)) := by
  match ws with
  | [] => exact .skip
  | [w] =>
    refine ((text ", ").seq (h.seq (text (" AS " ++ weightColumn)))).congr fun out => ?_
    simp only [Weight.sqls]
    cases w.sql d with
    | error e => rfl
    | ok sql => simp [Sql.join_cons, rankingColumn]
  | w :: w' :: rest =>
    refine ((text ", ").seq ((text "(").seq (h.seq ((text ")").seq
      (text (" AS " ++ weightColumn)))))).congr fun out => ?_
    simp only [Weight.sqls]
    cases w.sql d with
    | error e => rfl
    | ok sql =>
    cases w'.sql d with
    | error e => rfl
    | ok sql' =>
    cases Weight.sqls d rest with
    | error e => rfl
    | ok sqls => simp [rankingColumn, Sql.bracketed]

/-- A predicate under a keyword, left out when it has no clause. -/
theorem condition {p : List Token} (keyword : String)
    (h : Emits d (Token.writeAll none false p) ((Token.lexemes d p).map Lexeme.sql)) :
    Emits d (if Predicate.hasClause p then Writer.text keyword >=> Token.writeAll none false p
        else Writer.skip)
      ((Token.lexemes d p).map fun lexemes =>
        if Predicate.hasClause p then Sql.ofText keyword ++ Lexeme.sql lexemes else []) := by
  cases hc : Predicate.hasClause p with
  | false =>
    have hw := Token.lexemes_writes d p
    cases hl : Token.lexemes d p with
    | error e =>
      rw [hl] at hw
      have hcomplete := Predicate.allComplete_of_not_hasClause p hc
      exact absurd (hw.1.symm.trans hcomplete) (by decide)
    | ok lexemes => exact .skip
  | true =>
    refine ((text keyword).seq h).congr fun out => ?_
    cases Token.lexemes d p <;> rfl

end Emits

mutual

/-- One pass writes a query the way its clauses are put together. -/
theorem Query.write_emits (d : Dialect) (place : Place) (q : Query) :
    Emits d (q.write place) ((q.clauses d place).map Clauses.sql) := by
  obtain ⟨own, dataSource, source, columns, additional, distinct, joins, predicate, weights,
    groupBy, orderBy, limit, offset, payload, returning⟩ := q
  cases source with
  | none => exact fun _ _ => rfl
  | some source =>
    have hselect := Emits.text (d := d) (if distinct then "SELECT DISTINCT " else "SELECT ")
    have hcolumns := Emits.text (d := d)
      (if columns.isEmpty then "*" else commaList (columns.map own.escapeIdentifier))
    have hranking := Emits.ranking (Weight.writeSum_emits d weights)
    have hsource := (Emits.text " FROM ").seq (Source.write_emits d source)
    have hpredicate := Emits.condition " WHERE " (Token.writeAll_emits d none false predicate)
    have hgroup := Emits.listing (d := d) " GROUP BY " (groupBy.map own.escapeIdentifier)
    have hend (order : List String) := (Emits.listing (d := d) " ORDER BY " order).seq
      (Emits.text (own.pagingClause limit offset (!order.isEmpty)))
    have h (order : List String) := hselect.seq (hcolumns.seq (hranking.seq
      (hsource.seq ((Join.writeAll_emits d joins).seq (hpredicate.seq (hgroup.seq (hend order)))))))
    refine Emits.congr (h _) fun out => ?_
    unfold Query.clauses
    cases Weight.sqls d weights with
    | error e => rfl
    | ok scores =>
    cases source.sql d with
    | error e => rfl
    | ok sourceSql =>
    cases Join.sqls d joins with
    | error e => rfl
    | ok joinSqls =>
    cases Token.lexemes d predicate with
    | error e => rfl
    | ok lexemes =>
      simp only [ok_bind, map_ok, pure_eq_ok, Clauses.sql, Output.put_append,
        Output.put_ofText, Output.put_projection]
      cases Predicate.hasClause predicate <;> rfl

theorem Source.write_emits (d : Dialect) (s : Source) : Emits d s.write (s.sql d) := by
  match s with
  | .table name => exact .identifier name
  | .derived query label =>
    have h := (Emits.text "(").seq ((Query.write_emits d .nested query).seq
      ((Emits.text ")").seq ((Emits.text " AS ").seq (.identifier label))))
    refine h.congr fun out => ?_
    simp only [Source.sql]
    cases query.clauses d .nested with
    | error e => rfl
    | ok c => simp [Sql.bracketed, ← String.append_assoc]

theorem Members.write_emits (d : Dialect) (field : String) (negated : Bool) (m : Members) :
    Emits d (m.write field negated) (m.sql d field negated) := by
  match m with
  | .values [] bound => exact .text _
  | .values (v :: rest) bound =>
    have hkeyword := Emits.text (d := d) (membershipKeyword negated ++ "(")
    have hmembers := (Emits.members (d := d) bound (v :: rest)).seq (Emits.text ")")
    refine ((Emits.identifier field).seq (hkeyword.seq hmembers)).congr fun out => ?_
    simp [Members.sql, memberList, Sql.bracketed, String.append_assoc]
  | .rows query =>
    have hkeyword := Emits.text (d := d) (membershipKeyword negated ++ "(")
    have hquery := (Query.write_emits d .nested query).seq (Emits.text ")")
    refine ((Emits.identifier field).seq (hkeyword.seq hquery)).congr fun out => ?_
    simp only [Members.sql]
    cases query.clauses d .nested with
    | error e => rfl
    | ok c => simp [Sql.bracketed, String.append_assoc]

/-- A clause is written as it is, and all other tokens by what comes before and after them. -/
theorem Token.write_emits (d : Dialect) (t : Token) :
    Emits d t.write ((t.lexeme d).map fun l => match l with
      | .clause sql => sql
      | _ => []) := by
  match t with
  | .compare field comparison v bound =>
    have h := (Emits.identifier (d := d) field).seq
      ((Emits.text (" " ++ comparison.symbol ++ " ")).seq (.value v bound))
    refine h.congr fun out => ?_
    simp [Token.lexeme, String.append_assoc]
  | .nullness field isNull =>
    have h := (Emits.identifier (d := d) field).seq
      (Emits.text (if isNull then " IS NULL" else " IS NOT NULL"))
    refine h.congr fun out => ?_
    simp [Token.lexeme]
  | .membership field negated members =>
    have h := Members.write_emits d field negated members
    refine h.congr fun out => ?_
    simp only [Token.lexeme]
    cases members.sql d field negated <;> rfl
  | .between field low high =>
    have h := (Emits.identifier (d := d) field).seq ((Emits.text " BETWEEN ").seq
      ((Emits.slot low).seq ((Emits.text " AND ").seq (Emits.slot high))))
    refine h.congr fun out => ?_
    simp [Token.lexeme]
  | .connector c => exact .skip
  | .opening => exact .skip
  | .closing => exact .skip

/-- What is pending and what comes before are the same on both sides at every token. -/
theorem Token.writeAll_emits (d : Dialect) (pending : Option Connector) (afterOperand : Bool)
    (ts : List Token) :
    Emits d (Token.writeAll pending afterOperand ts)
      ((Token.lexemes d ts).map (Lexeme.assemble pending afterOperand)) := by
  match ts with
  | [] => exact .skip
  | t :: rest =>
    have hclause (sql : Except Incomplete Sql) (ht : t.lexeme d = sql.map .clause) :
        Emits d (Writer.separator pending afterOperand >=> t.write
            >=> Token.writeAll none true rest)
          ((Token.lexemes d (t :: rest)).map (Lexeme.assemble pending afterOperand)) := by
      have h := (Emits.separator pending afterOperand).seq ((Token.write_emits d t).seq
        (Token.writeAll_emits d none true rest))
      refine h.congr fun out => ?_
      simp only [Token.lexemes, ht]
      cases sql with
      | error e => rfl
      | ok sql =>
      cases Token.lexemes d rest with
      | error e => rfl
      | ok lexemes => simp [Lexeme.assemble]
    -- Connectors and brackets write nothing of their own here, so they do not follow `hclause`.
    cases t with
    | compare field comparison v bound => exact hclause (.ok _) rfl
    | nullness field isNull => exact hclause (.ok _) rfl
    | membership field negated members =>
      refine hclause (members.sql d field negated) ?_
      simp only [Token.lexeme]
      cases members.sql d field negated <;> rfl
    | between field low high => exact hclause (.ok _) rfl
    | connector c =>
      refine (Token.writeAll_emits d (some c) afterOperand rest).congr fun out => ?_
      simp only [Token.lexemes, Token.lexeme]
      cases Token.lexemes d rest <;> rfl
    | opening =>
      have h := (Emits.separator pending afterOperand).seq ((Emits.text "(").seq
        (Token.writeAll_emits d none false rest))
      refine h.congr fun out => ?_
      simp only [Token.lexemes, Token.lexeme]
      cases Token.lexemes d rest with
      | error e => rfl
      | ok lexemes => simp [Lexeme.assemble]
    | closing =>
      have h := (Emits.text ")").seq (Token.writeAll_emits d none true rest)
      refine h.congr fun out => ?_
      simp only [Token.lexemes, Token.lexeme]
      cases Token.lexemes d rest <;> rfl

theorem Join.write_emits (d : Dialect) (j : Join) : Emits d j.write (j.sql d) := by
  obtain ⟨kind, target, on⟩ := j
  have h := (Emits.text (" " ++ kind.text ++ " ")).seq ((Source.write_emits d target).seq
    (Emits.condition " ON " (Token.writeAll_emits d none false on)))
  refine h.congr fun out => ?_
  simp only [Join.sql]
  cases target.sql d with
  | error e => rfl
  | ok sql =>
  cases Token.lexemes d on with
  | error e => rfl
  | ok lexemes => simp

theorem Join.writeAll_emits (d : Dialect) (js : List Join) :
    Emits d (Join.writeAll js) ((Join.sqls d js).map List.flatten) := by
  match js with
  | [] => exact .skip
  | j :: rest =>
    refine ((Join.write_emits d j).seq (Join.writeAll_emits d rest)).congr fun out => ?_
    simp only [Join.sqls]
    cases j.sql d with
    | error e => rfl
    | ok sql => cases Join.sqls d rest <;> rfl

theorem Weight.write_emits (d : Dialect) (w : Weight) : Emits d w.write (w.sql d) := by
  obtain ⟨predicate, score, otherwise⟩ := w
  have h := (Emits.inDialect fun d => if d = .mysql then "IF(" else "CASE WHEN ").seq
    ((Token.writeAll_emits d none false predicate).seq
      ((Emits.inDialect fun d => if d = .mysql then ", " else " THEN ").seq
        ((Emits.text score.text).seq
          ((Emits.inDialect fun d => if d = .mysql then ", " else " ELSE ").seq
            ((Otherwise.write_emits d otherwise).seq
              (Emits.inDialect fun d => if d = .mysql then ")" else " END"))))))
  refine h.congr fun out => ?_
  simp only [Weight.sql]
  cases Token.lexemes d predicate with
  | error e => rfl
  | ok lexemes =>
  cases otherwise.sql d with
  | error e => rfl
  | ok sql =>
    cases d <;> simp [Sql.conditional, Lexeme.sql]

theorem Otherwise.write_emits (d : Dialect) (o : Otherwise) : Emits d o.write (o.sql d) := by
  match o with
  | .score x => exact .text _
  | .weight w => exact Weight.write_emits d w

theorem Weight.writeSum_emits (d : Dialect) (ws : List Weight) :
    Emits d (Weight.writeSum ws) ((Weight.sqls d ws).map (Sql.join " + ")) := by
  match ws with
  | [] => exact .skip
  | [w] =>
    refine (Weight.write_emits d w).congr fun out => ?_
    simp only [Weight.sqls]
    cases w.sql d with
    | error e => rfl
    | ok sql => simp [Sql.join]
  | w :: w' :: rest =>
    have h := (Weight.write_emits d w).seq ((Emits.text " + ").seq
      (Weight.writeSum_emits d (w' :: rest)))
    refine h.congr fun out => ?_
    simp only [Weight.sqls]
    cases w.sql d with
    | error e => rfl
    | ok sql =>
    cases w'.sql d with
    | error e => rfl
    | ok sql' =>
    cases Weight.sqls d rest with
    | error e => rfl
    | ok sqls => simp [Sql.join_cons]

end

end SqlRecords
