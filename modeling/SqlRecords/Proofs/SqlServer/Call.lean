import SqlRecords.Proofs.Text.Reading
import SqlRecords.SqlServer.Call

/-! The call for a statement with named parameters, read back. It holds the statement, declares each
parameter once with the type of its value, and hands the values over in their order. -/
namespace SqlRecords

/-- The ways in which statements come about: with all parameters at once, or bound one by one. -/
inductive Statement.BuiltFor (d : Dialect) : Statement → Prop where
  | ofText (kind : StatementKind) (sql : String) (params : List Value) :
    BuiltFor d (.ofText d kind sql params)
  | bound (values : List Value) (kind : StatementKind) (sql : String) :
    BuiltFor d ((values.foldl Bindings.bind (.none d)).statement kind sql)
  | returning {s : Statement} (column : String) :
    BuiltFor d s → BuiltFor d (s.returningColumn column)

theorem Dialect.parameterNames_succ (d : Dialect) (n : Nat) :
    d.parameterNames (n + 1) =
      d.parameterNames n ++ if d.namesParameters then ["param" ++ toString (n + 1)] else [] := by
  unfold parameterNames
  cases d.namesParameters <;> simp [List.range_succ]

/-- Names are given out one for each value that is bound. -/
theorem Bindings.names_bind {b : Bindings} (h : b.names = b.dialect.parameterNames b.params.length)
    (v : Value) :
    (b.bind v).names = (b.bind v).dialect.parameterNames (b.bind v).params.length := by
  unfold bind
  cases v.isNull with
  | true => exact h
  | false =>
    simp only [Bool.false_eq_true, if_false, List.length_append, List.length_singleton,
      Dialect.parameterNames_succ, ← h]
    cases b.dialect.namesParameters <;> simp

theorem Bindings.names_foldl {b : Bindings} (h : b.names = b.dialect.parameterNames b.params.length)
    (values : List Value) :
    (values.foldl bind b).names =
      (values.foldl bind b).dialect.parameterNames (values.foldl bind b).params.length := by
  induction values generalizing b with
  | nil => exact h
  | cons v rest ih => exact ih (names_bind h v)

theorem Bindings.dialect_foldl (b : Bindings) (values : List Value) :
    (values.foldl bind b).dialect = b.dialect := by
  induction values generalizing b with
  | nil => rfl
  | cons v rest ih =>
    refine (ih (b.bind v)).trans ?_
    unfold bind
    split <;> rfl

namespace Statement

/-- However a statement came about, it has one name for each parameter or none at all. -/
theorem BuiltFor.names_eq {d : Dialect} {s : Statement} (h : s.BuiltFor d) :
    s.names = d.parameterNames s.params.length := by
  induction h with
  | ofText kind sql params => rfl
  | bound values kind sql =>
    have hnone : (Bindings.none d).names = (Bindings.none d).dialect.parameterNames 0 := by
      cases d <;> rfl
    have hnames := Bindings.names_foldl hnone values
    rwa [Bindings.dialect_foldl] at hnames
  | returning column _ ih => exact ih

end Statement

namespace SqlServer
open Text

/-- A call as the engine reads it: the statement, the type of each declared name, and what each name
is set to. -/
structure Call where
  sql : String
  declared : List (String × String)
  assigned : List (String × String)
  deriving DecidableEq

/-- The name of a variable, which follows its sign. -/
def nameOf? (word : String) : Option String :=
  match word.toList with
  | '@' :: name => some (String.ofList name)
  | _ => none

def declaration? : List String → Option (String × String)
  | [name, type] => (nameOf? name).map (·, type)
  | _ => none

def assignment? : List String → Option (String × String)
  | [name, "=", value] => do return (← nameOf? name, ← nameOf? value)
  | _ => none

/-- What follows a text that has to stand in front. -/
def follow? (front : String) (t : List Char) : Option (List Char) :=
  if front.toList.isPrefixOf t then some (t.drop front.toList.length) else none

/-- Two literals of national characters, in which a quote is written twice, and then assignments. -/
def readCall? (t : String) : Option Call := do
  let t ← follow? "EXEC sp_executesql N" t.toList
  let (sql, t) ← readQuoted? '\'' '\'' t
  let t ← follow? ", N" t
  let (declarations, t) ← readQuoted? '\'' '\'' t
  let t ← follow? ", " t
  let declared ← (items declarations).mapM declaration?
  let assigned ← (items (String.ofList t)).mapM assignment?
  return ⟨sql, declared, assigned⟩

theorem follow?_append (front : String) (t : List Char) :
    follow? front (front.toList ++ t) = some t := by
  simp [follow?]

/-- Whether a word can stand in an item of a list that is written between quotes. -/
def isItemWord (s : String) : Bool := isWord s && s.toList.all fun c => c != ',' && c != '\''

theorem isItemWord_append {s t : String} (hs : isItemWord s = true)
    (ht : t.toList.all (fun c => !isBlank c && (c != ',' && c != '\'')) = true) :
    isItemWord (s ++ t) = true := by
  simp only [isItemWord, isWord, Bool.and_eq_true, List.all_eq_true, bne_iff_ne, ne_eq,
    Bool.not_eq_true', String.toList_append, List.mem_append] at hs ht ⊢
  obtain ⟨⟨hne, hblank⟩, hmark⟩ := hs
  refine ⟨⟨by simp [hne], ?_⟩, ?_⟩
  · rintro c (hc | hc)
    · exact hblank c hc
    · exact (ht c hc).1
  · rintro c (hc | hc)
    · exact hmark c hc
    · exact (ht c hc).2

theorem isItemWord_append_digits {label : String} (h : isItemWord label = true) (n : Nat) :
    isItemWord (label ++ toString n) = true := by
  apply isItemWord_append h
  rw [List.all_eq_true]
  intro c hc
  have hdigit := isDigit_of_mem_toString hc
  rw [isBlank_of_isDigit hdigit, Bool.and_eq_true, Bool.and_eq_true, bne_iff_ne, bne_iff_ne]
  refine ⟨rfl, ?_, ?_⟩
  · rintro rfl
    cases hdigit
  · rintro rfl
    cases hdigit

/-- The types under which parameters are declared. -/
def declaredTypes : List String :=
  ["nvarchar(max)", "bit", "int", "bigint", "real", "float", "varbinary(max)", "uniqueidentifier",
    "datetimeoffset", "datetime2", "date", "time"]

theorem isItemWord_declaredType (v : Value) : isItemWord (declaredType v) = true := by
  have hmem : declaredType v ∈ declaredTypes := by cases v <;> simp [declaredType, declaredTypes]
  have hall : declaredTypes.all isItemWord = true := by decide +kernel
  exact List.all_eq_true.mp hall _ hmem

/-- The name of the parameter at a position. -/
def parameterName (i : Nat) : String := "param" ++ toString (i + 1)

/-- The name under which the driver hands over the value at a position. -/
def sourceName (i : Nat) : String := "P" ++ toString (i + 1)

theorem names_eq_map {s : Statement} (h : s.BuiltFor .mssql) :
    s.names = (List.range s.params.length).map parameterName := by
  rw [h.names_eq]
  rfl

theorem declarations_eq_map {s : Statement} (h : s.BuiltFor .mssql) :
    declarations s =
      s.params.zipIdx.map fun (v, i) => "@" ++ parameterName i ++ " " ++ declaredType v := by
  apply List.ext_getElem
  · simp [declarations, names_eq_map h]
  · intro i hi hi'
    simp [declarations, names_eq_map h]

theorem assignments_eq_map {s : Statement} (h : s.BuiltFor .mssql) :
    assignments s =
      s.params.zipIdx.map fun (_, i) =>
        "@" ++ parameterName i ++ " " ++ ("= " ++ ("@" ++ sourceName i)) := by
  apply List.ext_getElem
  · simp [assignments, names_eq_map h]
  · intro i hi hi'
    have hsign : " = @P" ++ toString (i + 1) = " " ++ ("= " ++ ("@" ++ sourceName i)) := by
      simp only [sourceName, ← String.append_assoc]
      rfl
    simp only [assignments, names_eq_map h, List.getElem_mapIdx, List.getElem_map,
      List.getElem_range, List.getElem_zipIdx, Nat.zero_add, String.append_assoc, hsign]

theorem isItemWord_parameterName (i : Nat) : isItemWord ("@" ++ parameterName i) = true := by
  have hlabel : isItemWord "@param" = true := by decide +kernel
  have happend : "@" ++ parameterName i = "@param" ++ toString (i + 1) := by
    rw [parameterName, ← String.append_assoc]
    rfl
  rw [happend]
  exact isItemWord_append_digits hlabel (i + 1)

theorem isItemWord_sourceName (i : Nat) : isItemWord ("@" ++ sourceName i) = true := by
  have hlabel : isItemWord "@P" = true := by decide +kernel
  have happend : "@" ++ sourceName i = "@P" ++ toString (i + 1) := by
    rw [sourceName, ← String.append_assoc]
    rfl
  rw [happend]
  exact isItemWord_append_digits hlabel (i + 1)

theorem parameterName_injective {i j : Nat} (h : parameterName i = parameterName j) : i = j := by
  have hdigits : toString (i + 1) = toString (j + 1) := String.append_right_inj _ |>.mp h
  have hvalue := congrArg (fun s => Nat.ofDigitChars 10 s.toList 0) hdigits
  simp only [Nat.toString_eq_repr, Nat.toList_repr, Nat.ofDigitChars_ten_toDigits] at hvalue
  omega

theorem nameOf?_append (s : String) : nameOf? ("@" ++ s) = some s := by
  simp [nameOf?]

theorem isWord_of_isItemWord {s : String} (h : isItemWord s = true) : isWord s = true :=
  (Bool.and_eq_true_iff.mp h).1

theorem words_declaration (i : Nat) (v : Value) :
    words ("@" ++ parameterName i ++ " " ++ declaredType v) =
      ["@" ++ parameterName i, declaredType v] := by
  rw [words_append, words_of_isWord (isWord_of_isItemWord (isItemWord_parameterName i)),
    words_of_isWord (isWord_of_isItemWord (isItemWord_declaredType v))]
  rfl

theorem words_assignment (i : Nat) :
    words ("@" ++ parameterName i ++ " " ++ ("= " ++ ("@" ++ sourceName i))) =
      ["@" ++ parameterName i, "=", "@" ++ sourceName i] := by
  have hequals : isWord "=" = true := by decide +kernel
  have hblank : "= " = "=" ++ " " := rfl
  rw [words_append, words_of_isWord (isWord_of_isItemWord (isItemWord_parameterName i)), hblank,
    words_append, words_of_isWord hequals,
    words_of_isWord (isWord_of_isItemWord (isItemWord_sourceName i))]
  rfl

/-- No mark stands in a text that is put together from words of items. -/
theorem not_mem_of_isItemWord {s : String} (h : isItemWord s = true) :
    ',' ∉ s.toList ∧ '\'' ∉ s.toList := by
  simp only [isItemWord, Bool.and_eq_true, List.all_eq_true, bne_iff_ne] at h
  exact ⟨fun hc => (h.2 _ hc).1 rfl, fun hc => (h.2 _ hc).2 rfl⟩

theorem not_mem_declaration {c : Char} (hc : c = ',' ∨ c = '\'') (i : Nat) (v : Value) :
    c ∉ ("@" ++ parameterName i ++ " " ++ declaredType v).toList := by
  have hname := not_mem_of_isItemWord (isItemWord_parameterName i)
  have htype := not_mem_of_isItemWord (isItemWord_declaredType v)
  rw [String.toList_append, String.toList_append, List.mem_append, List.mem_append, not_or, not_or]
  rcases hc with rfl | rfl
  · exact ⟨⟨hname.1, by decide⟩, htype.1⟩
  · exact ⟨⟨hname.2, by decide⟩, htype.2⟩

theorem comma_not_mem_assignment (i : Nat) :
    ',' ∉ ("@" ++ parameterName i ++ " " ++ ("= " ++ ("@" ++ sourceName i))).toList := by
  have hname := not_mem_of_isItemWord (isItemWord_parameterName i)
  have hsource := not_mem_of_isItemWord (isItemWord_sourceName i)
  have htext : ("@" ++ parameterName i ++ " " ++ ("= " ++ ("@" ++ sourceName i))).toList =
      ("@" ++ parameterName i).toList
        ++ (" ".toList ++ ("= ".toList ++ ("@" ++ sourceName i).toList)) := by
    simp only [String.toList_append, List.append_assoc]
  rw [htext, List.mem_append, List.mem_append, List.mem_append, not_or, not_or, not_or]
  exact ⟨hname.1, by decide, by decide, hsource.1⟩

/-- No quote stands in the declarations, so they are written between quotes as they are. -/
theorem singleQuoted_declarations {s : Statement} (h : s.BuiltFor .mssql) :
    singleQuoted (", ".intercalate (declarations s)) =
      "'" ++ ", ".intercalate (declarations s) ++ "'" := by
  have hquote : '\'' ∉ (", ".intercalate (declarations s)).toList := by
    apply not_mem_intercalate (by decide)
    rw [declarations_eq_map h, List.forall_mem_map]
    exact fun (v, i) _ => not_mem_declaration (.inr rfl) i v
  rw [singleQuoted, quoted, double_eq_self hquote]
  apply String.toList_inj.mp
  simp only [String.toList_ofList, String.toList_append, List.append_assoc]
  rfl

theorem callText_of_params {s : Statement} (h : s.BuiltFor .mssql) (hsome : s.params ≠ []) :
    (callText s).toList = "EXEC sp_executesql N".toList ++ ((singleQuoted s.sql).toList
      ++ (", N".toList ++ ((singleQuoted (", ".intercalate (declarations s))).toList
      ++ (", ".toList ++ (", ".intercalate (assignments s)).toList)))) := by
  rw [callText, List.isEmpty_eq_false_iff.mpr hsome, singleQuoted_declarations h]
  simp only [Bool.false_eq_true, if_false, String.toList_append, List.append_assoc]
  rfl

/-- What the engine reads in the call for a statement: the statement as it is, its parameters with
the types of their values, and each parameter set to the value at its position. -/
theorem call_holds_statement (s : Statement) (h : s.BuiltFor .mssql) :
    (s.params = [] → callText s = s.sql) ∧
    (s.params ≠ [] → readCall? (callText s) = some {
      sql := s.sql
      declared := s.params.zipIdx.map fun (v, i) => (parameterName i, declaredType v)
      assigned := s.params.zipIdx.map fun (_, i) => (parameterName i, sourceName i) }) ∧
    (s.params.zipIdx.map fun (_, i) => parameterName i).Nodup := by
  refine ⟨fun hnone => ?_, fun hsome => ?_, ?_⟩
  · simp [callText, hnone]
  · have hindexed : s.params.zipIdx ≠ [] := by simpa using hsome
    have hdeclared : (items (", ".intercalate (declarations s))).mapM declaration? =
        some (s.params.zipIdx.map fun (v, i) => (parameterName i, declaredType v)) := by
      rw [declarations_eq_map h]
      apply mapM_items hindexed
      · exact fun (v, i) => not_mem_declaration (.inl rfl) i v
      · intro (v, i)
        simp [words_declaration, declaration?, nameOf?_append]
    have hassigned : (items (", ".intercalate (assignments s))).mapM assignment? =
        some (s.params.zipIdx.map fun (_, i) => (parameterName i, sourceName i)) := by
      rw [assignments_eq_map h]
      apply mapM_items hindexed
      · exact fun (_, i) => comma_not_mem_assignment i
      · intro (_, i)
        simp [words_assignment, assignment?, nameOf?_append]
    rw [readCall?, callText_of_params h hsome, follow?_append]
    simp only [Option.bind_eq_bind, Option.bind_some]
    rw [readQuoted?_singleQuoted _ (by simp)]
    simp only [Option.bind_some, follow?_append]
    rw [readQuoted?_singleQuoted _ (by simp)]
    simp only [Option.bind_some, follow?_append, String.ofList_toList, hdeclared, hassigned,
      Option.pure_def]
  · have hnames : (s.params.zipIdx.map fun (_, i) => parameterName i) =
        (List.range s.params.length).map parameterName := by
      apply List.ext_getElem <;> simp
    rw [hnames]
    have hne : ∀ i j, i ≠ j → parameterName i ≠ parameterName j :=
      fun _ _ hij hname => hij (parameterName_injective hname)
    exact List.Pairwise.map parameterName hne List.nodup_range

/-- Two values are bound around a NULL, and quotes stand in the text. -/
def quotedNames : Statement :=
  ([.int32 1, .null, .text "o'neil"].foldl Bindings.bind (.none .mssql)).statement .select
    "SELECT * FROM users WHERE id = @param1 AND name <> 'x''y' AND name = @param2"

theorem quotedNames_call : quotedNames.BuiltFor .mssql ∧
    quotedNames.params = [.int32 1, .text "o'neil"] ∧
    callText quotedNames = "EXEC sp_executesql N'SELECT * FROM users WHERE id = @param1 AND name <> "
      ++ "''x''''y'' AND name = @param2', N'@param1 int, @param2 nvarchar(max)', "
      ++ "@param1 = @P1, @param2 = @P2" ∧
    readCall? (callText quotedNames) = some ⟨quotedNames.sql,
      [("param1", "int"), ("param2", "nvarchar(max)")], [("param1", "P1"), ("param2", "P2")]⟩ := by
  have hbuilt : quotedNames.BuiltFor .mssql := .bound _ _ _
  have hparams : quotedNames.params = [.int32 1, .text "o'neil"] := rfl
  have hsome : quotedNames.params ≠ [] := by simp [hparams]
  obtain ⟨-, hread, -⟩ := call_holds_statement quotedNames hbuilt
  refine ⟨hbuilt, hparams, by decide +kernel, (hread hsome).trans ?_⟩
  rw [hparams]
  decide +kernel

end SqlServer
end SqlRecords
