import SqlRecords.Model.Fetch
import SqlRecords.Query.Projection
import SqlRecords.Proofs.Model.Hydration
import SqlRecords.Proofs.Text.Reading

/-! Columns that are projected under an alias. They reach the models if the expression that is named
is one word; else the recorded name is not the alias. -/
namespace SqlRecords
open Text

/-- The quotes that are taken off the name of a column. -/
def isNameQuote (c : Char) : Bool := c == '\x60' || c == '"' || c == '[' || c == ']'

/-- Whether an alias is written as it appears in rows: one word without points and quotes. -/
def isPlainAlias (a : String) : Bool := isWord a && a.toList.all fun c => c != '.' && !isNameQuote c

/-- An expression with the name that it gets in rows. -/
def aliased (e a : String) : String := e ++ " AS " ++ a

/-- A text that is not of three words is cut behind its last point and freed of quotes. -/
theorem toList_resultKey {reference : String} (h : (words reference).length ≠ 3) :
    (resultKey reference).toList = trimWhere isNameQuote
      ((splitWhere (· == '.') (trim reference).toList).getLastD []) := by
  unfold resultKey
  rw [String.toList_ofList]
  split
  · next w keyword label hthree =>
    exact absurd (congrArg List.length hthree) h
  · rfl

section
variable {a : String}

theorem isWord_of_isPlainAlias (h : isPlainAlias a = true) : isWord a = true :=
  (Bool.and_eq_true_iff.mp h).1

theorem marks_of_isPlainAlias (h : isPlainAlias a = true) :
    ∀ c ∈ a.toList, (c == '.') = false ∧ isNameQuote c = false := by
  intro c hc
  have hall := List.all_eq_true.mp (Bool.and_eq_true_iff.mp h).2 c hc
  simpa [bne] using hall

theorem words_aliased (h : isPlainAlias a = true) (e : String) :
    words (aliased e a) = words e ++ ["AS", a] := by
  have hparts : aliased e a = e ++ " " ++ ("AS" ++ " " ++ a) := by
    apply String.toList_inj.mp
    simp [aliased]
  have hkeyword : isWord "AS" = true := by decide
  rw [hparts, words_append, words_append, words_of_isWord hkeyword,
    words_of_isWord (isWord_of_isPlainAlias h)]
  rfl

/-- The alias of one word is the recorded name. -/
theorem resultKey_aliased (h : isPlainAlias a = true) {e w : String} (he : words e = [w]) :
    resultKey (aliased e a) = a := by
  have hmarks := marks_of_isPlainAlias h
  have hkeyword : (Dialect.lowerAscii "AS" == "as") = true := by decide
  have hpieces : splitWhere (· == '.') a.toList = [a.toList] :=
    splitWhere_of_none _ fun c hc => (hmarks c hc).1
  have hkept : trimWhere isNameQuote a.toList = a.toList :=
    trimWhere_of_none fun c hc => (hmarks c hc).2
  unfold resultKey
  rw [words_aliased h, he]
  simp only [List.singleton_append, hkeyword, if_true, hpieces, List.getLastD_cons,
    List.getLastD_nil]
  exact (congrArg String.ofList hkept).trans (String.ofList_toList)

theorem not_point_of_mem_named (h : isPlainAlias a = true) :
    ∀ c ∈ ("AS " ++ a).toList, (c == '.') = false := by
  intro c hc
  rw [String.toList_append, List.mem_append] at hc
  rcases hc with hc | hc
  · have hkeyword : ∀ c ∈ "AS ".toList, (c == '.') = false := by simp
    exact hkeyword c hc
  · exact (marks_of_isPlainAlias h c hc).1

/-- Unless it is that of one word, the keyword and the alias stay a part of the recorded name. -/
theorem suffix_resultKey_aliased (h : isPlainAlias a = true) {e : String}
    (he : (words e).length ≠ 1) :
    ("AS " ++ a).toList <:+ (resultKey (aliased e a)).toList := by
  have hword := isWord_of_isPlainAlias h
  obtain ⟨init, last, ha⟩ : ∃ init last, a.toList = init ++ [last] :=
    (List.eq_nil_or_concat' a.toList).resolve_left (toList_ne_nil_of_isWord hword)
  have hlast : last ∈ a.toList := by simp [ha]
  have hnamed : ("AS " ++ a).toList = 'A' :: ('S' :: ' ' :: init ++ [last]) := by
    simp [String.toList_append, ha]
  -- Neither the blanks nor the quotes at the ends of the text reach into the alias.
  have htrim (p : Char → Bool) (hp : p 'A' = false) (hplast : p last = false) {s : List Char}
      (hs : ("AS " ++ a).toList <:+ s) : ("AS " ++ a).toList <:+ trimWhere p s := by
    obtain ⟨front, rfl⟩ := hs
    rw [hnamed]
    exact suffix_trimWhere hp hplast front _
  have hreference : ("AS " ++ a).toList <:+ (trim (aliased e a)).toList := by
    rw [trim, String.toList_ofList]
    apply htrim isBlank (by decide) (isBlank_of_isWord hword hlast)
    exact ⟨(e ++ " ").toList, by simp [aliased]⟩
  obtain ⟨front, hfront⟩ := hreference
  have hpiece := suffix_getLastD_splitWhere front (not_point_of_mem_named h)
  rw [hfront] at hpiece
  have hlength : (words (aliased e a)).length ≠ 3 := by
    rw [words_aliased h, List.length_append, List.length_cons, List.length_singleton]
    omega
  rw [toList_resultKey hlength]
  exact htrim isNameQuote (by decide) (marks_of_isPlainAlias h last hlast).2 hpiece

/-- An alias is the recorded name if what it names is one word, and only then. -/
theorem resultKey_aliased_iff (h : isPlainAlias a = true) (e : String) :
    resultKey (aliased e a) = a ↔ (words e).length = 1 := by
  constructor
  · intro hkey
    by_contra he
    have hsuffix := (suffix_resultKey_aliased h he).length_le
    rw [hkey, String.toList_append, List.length_append] at hsuffix
    have hkeyword : "AS ".toList.length = 3 := rfl
    omega
  · intro he
    obtain ⟨w, hw⟩ := List.length_eq_one_iff.mp he
    exact resultKey_aliased h hw

end

namespace Query

/-- Which names a query records after a column is added under an alias. -/
theorem mem_additional_aliased {a : String} (h : isPlainAlias a = true) (q : Query) (e : String) :
    a ∈ (q.addColumn (aliased e a)).additional ↔ (words e).length = 1 ∨ a ∈ q.additional := by
  rw [← resultKey_aliased_iff h e, eq_comm]
  by_cases hkey : resultKey (aliased e a) ∈ q.additional
  · have hmem : a = resultKey (aliased e a) → a ∈ q.additional := fun heq => heq ▸ hkey
    simpa [addColumn, hkey] using hmem
  · simp [addColumn, hkey, or_comm]

variable {π : Type} [Pool π]

theorem bound_of_fetch {q : Query} {rows : List Record} {db db' : Database π}
    (h : q.fetch.Yields db rows db') : ∃ source, q.boundSource = .ok source := by
  unfold fetch rowsOf pool at h
  obtain ⟨s, mid, -, h⟩ := Session.yields_bind.mp h
  obtain ⟨i, mid, hpool, -⟩ := Session.yields_bind.mp h
  obtain ⟨source, mid, hsource, -⟩ := Session.yields_bind.mp hpool
  exact ⟨source, (Session.yields_ofExcept.mp hsource).1⟩

/-- Models are read where rows are, from each row. -/
theorem yields_fetchModels {q : Query} {schema : Schema} {db db' : Database π}
    {models : ModelSet} : (q.fetchModels schema).Yields db models db' ↔
      ∃ rows, q.fetch.Yields db rows db' ∧ q.toModels schema rows = models := by
  cases hbound : q.boundSource with
  | error f =>
    have hthrow : (q.fetchModels schema : Session π ModelSet) = throw f := by
      unfold fetchModels
      rw [hbound]
      rfl
    rw [hthrow]
    constructor
    · intro h
      exact absurd h Session.not_yields_throw
    · rintro ⟨rows, hfetch, -⟩
      obtain ⟨source, hsource⟩ := bound_of_fetch hfetch
      cases hbound.symm.trans hsource
  | ok source =>
    have hread : (q.fetchModels schema : Session π ModelSet) =
        q.fetch >>= fun rows => pure (q.toModels schema rows) := by
      unfold fetchModels
      rw [hbound]
      rfl
    rw [hread, Session.yields_bind]
    constructor
    · rintro ⟨rows, mid, hfetch, h⟩
      obtain ⟨hmodels, rfl⟩ := Session.yields_pure.mp h
      exact ⟨rows, hfetch, hmodels⟩
    · rintro ⟨rows, hfetch, hmodels⟩
      exact ⟨rows, db', hfetch, Session.yields_pure.mpr ⟨hmodels, rfl⟩⟩

end Query

/-- Whether a model has a column beside the declared ones, and shows it in its JSON, as it is in a
row. -/
structure Model.Takes (row : Record) (name : String) (m : Model) : Prop where
  additional : m.additional.get? name = row.get? name
  json : m.toJson.fields.get? name = row.get? name

/-- A column that is not declared is taken out of a row that has it if it is recorded, and not at
all else. -/
theorem Model.takes_ofRow_iff {schema : Schema} {row : Record} {additional : List String}
    {name : String} (hdeclared : schema.hasColumn name = false) (hrow : row.keys.Nodup)
    (hmem : row.contains name = true) :
    (ofRow schema row additional).Takes row name ↔ name ∈ additional := by
  obtain ⟨v, hv⟩ := Option.isSome_iff_exists.mp hmem
  obtain ⟨fields, hjson, -, hfields⟩ := (givesBack_ofRow schema additional hrow).json
  have hshown := hfields name
  rw [hdeclared] at hshown
  constructor
  · intro h
    have hkept := h.additional
    rw [get?_additional_ofRow, hv] at hkept
    by_contra hadditional
    simp [hadditional] at hkept
  · intro hadditional
    constructor
    · simp [get?_additional_ofRow, hadditional]
    · rw [hjson, Json.fields, hshown]
      simp [hadditional]

/-- A column that is added under an alias is recorded under the alias, and is taken out of every row
that has it, if what the alias names is one word or the alias was recorded before; else it is in
none of the models. -/
theorem Query.alias_reaches_models_iff {π : Type} [Pool π] (q : Query) (e : String) {a : String}
    (h : isPlainAlias a = true) :
    (resultKey (aliased e a) = a ↔ (words e).length = 1) ∧
    (a ∈ (q.addColumn (aliased e a)).additional ↔ (words e).length = 1 ∨ a ∈ q.additional) ∧
    ∀ (schema : Schema) (db db' : Database π), schema.hasColumn a = false →
      (∀ rows, (q.addColumn (aliased e a)).fetch.Yields db rows db' →
        ∃ models, ((q.addColumn (aliased e a)).fetchModels schema).Yields db models db') ∧
      ∀ models, ((q.addColumn (aliased e a)).fetchModels schema).Yields db models db' →
        ∃ rows, (q.addColumn (aliased e a)).fetch.Yields db rows db' ∧
          List.Forall₂ (fun row m => row.contains a = true →
            (m.Takes row a ↔ (words e).length = 1 ∨ a ∈ q.additional)) rows models.models := by
  refine ⟨resultKey_aliased_iff h e, mem_additional_aliased h q e, ?_⟩
  intro schema db db' hdeclared
  constructor
  · intro rows hfetch
    exact ⟨_, yields_fetchModels.mpr ⟨rows, hfetch, rfl⟩⟩
  · intro models hmodels
    obtain ⟨rows, hfetch, rfl⟩ := yields_fetchModels.mp hmodels
    refine ⟨rows, hfetch, ?_⟩
    rw [toModels, ModelSet.models_ofList, List.forall₂_map_right_iff, List.forall₂_same]
    intro row hrow hmem
    rw [← mem_additional_aliased h q e]
    exact Model.takes_ofRow_iff hdeclared (nodup_of_fetch hfetch row hrow) hmem

namespace Query
open Model (orderSchema)

def allOrders : Query := (Query.empty .mysql (some "main")).table "orders"

/-- An order with its total, which is no column of the table. -/
def totalRow : Record := [("id", .int 1), ("total", .int 30)]

def orderDatabase : Database ScriptedPool where
  configs := [("main", .ofParts "main" .mysql "localhost" "shop")]
  backends := []
  opened := [⟨"main", .mysql, { ScriptedPool.new with responses := [.rows [totalRow]] }⟩]
  registry := [("main", 0)]

/-- A sum is one word. -/
theorem sum_reaches_orders : ∃ (m : Model) (db' : Database ScriptedPool),
    ((allOrders.addColumn (aliased "SUM(price)" "total")).fetchModels orderSchema).Yields
      orderDatabase (.ofList [m]) db' ∧ m.Takes totalRow "total" := by
  have hplain : isPlainAlias "total" = true := by decide
  have hword : (words "SUM(price)").length = 1 := by decide
  have hfetch : (allOrders.addColumn (aliased "SUM(price)" "total")).fetch.Yields orderDatabase
    [totalRow] _ := rfl
  have hmodels : ((allOrders.addColumn (aliased "SUM(price)" "total")).fetchModels
      orderSchema).Yields orderDatabase _ _ := yields_fetchModels.mpr ⟨_, hfetch, rfl⟩
  obtain ⟨-, -, hreach⟩ :=
    alias_reaches_models_iff (π := ScriptedPool) allOrders "SUM(price)" hplain
  obtain ⟨rows, hrows, hall⟩ := (hreach orderSchema orderDatabase _ rfl).2 _ hmodels
  obtain ⟨rfl, -⟩ := hfetch.unique hrows
  obtain ⟨htakes, -⟩ := List.forall₂_cons.mp hall
  exact ⟨_, _, hmodels, (htakes rfl).mpr (.inl hword)⟩

/-- A product with blanks is not, and its alias is lost. -/
theorem alias_may_be_lost : ¬ ∀ (q : Query) (e a : String) (schema : Schema)
    (db db' : Database ScriptedPool) (models : ModelSet), isPlainAlias a = true →
    schema.hasColumn a = false →
    ((q.addColumn (aliased e a)).fetchModels schema).Yields db models db' →
    ∃ rows, (q.addColumn (aliased e a)).fetch.Yields db rows db' ∧
      List.Forall₂ (fun row m => row.contains a = true → m.Takes row a) rows models.models := by
  intro h
  have hfetch : (allOrders.addColumn (aliased "price * amount" "total")).fetch.Yields
    orderDatabase [totalRow] _ := rfl
  obtain ⟨rows, hrows, hall⟩ := h allOrders "price * amount" "total" orderSchema orderDatabase _ _
    (by decide) rfl (yields_fetchModels.mpr ⟨_, hfetch, rfl⟩)
  obtain ⟨rfl, -⟩ := hfetch.unique hrows
  obtain ⟨htakes, -⟩ := List.forall₂_cons.mp hall
  cases (htakes rfl).additional

end Query

end SqlRecords
