import Mathlib.Data.List.TakeWhile
import SqlRecords.Dialect.Identifier
import SqlRecords.Dialect.Literal
import SqlRecords.Json.Access
import SqlRecords.Proofs.Text.Reading

/-! Identifiers and literals read back where a quote is escaped by a second one and by nothing
else. MySQL's literals have other escapes and are read elsewhere. -/
namespace SqlRecords

namespace Text

/-- Bytes of pairs of hexadecimal digits. -/
def hexPairs? : List Char → Option (List UInt8)
  | [] => some []
  | [_] => none
  | high :: low :: rest => do
    let n ← hexNumber? [high, low]
    return n.toUInt8 :: (← hexPairs? rest)

def isHexDigit (c : Char) : Bool := (hexValue? c).isSome

theorem hexValue?_digitChar {n : Nat} (h : n < 16) : hexValue? n.digitChar = some n := by
  have hall : ∀ m < 16, hexValue? m.digitChar = some m := by decide
  exact hall n h

theorem hexDigits_two {n : Nat} (h : n < 256) :
    hexDigits 2 n = [(n / 16).digitChar, (n % 16).digitChar] := by
  unfold hexDigits
  by_cases hn : n < 16
  · simp [Nat.toDigits_of_lt_base hn, Nat.div_eq_of_lt hn, Nat.mod_eq_of_lt hn]
  · have hhigh : n / 16 < 16 := by omega
    have hsplit := Nat.toDigits_of_base_le (b := 16) (by decide) (Nat.not_lt.mp hn)
    rw [hsplit, Nat.toDigits_of_lt_base hhigh]
    simp

theorem toList_hexBytes_cons (b : UInt8) (bytes : List UInt8) :
    (hexBytes (b :: bytes)).toList =
      (b.toNat / 16).digitChar :: (b.toNat % 16).digitChar :: (hexBytes bytes).toList := by
  simp [hexBytes, hexDigits_two b.toNat_lt]

/-- Bytes are read back digit by digit. -/
theorem hexPairs?_hexBytes (bytes : List UInt8) :
    hexPairs? (hexBytes bytes).toList = some bytes := by
  induction bytes with
  | nil => rfl
  | cons b bytes ih =>
    have hb := b.toNat_lt
    have hhigh : b.toNat / 16 < 16 := by omega
    have hlow : b.toNat % 16 < 16 := Nat.mod_lt _ (by decide)
    have hpair : hexNumber? [(b.toNat / 16).digitChar, (b.toNat % 16).digitChar] =
        some b.toNat := by
      simp [hexNumber?, hexValue?_digitChar hhigh, hexValue?_digitChar hlow]
      omega
    rw [toList_hexBytes_cons, hexPairs?, hpair, ih]
    simp

theorem isHexDigit_of_mem_hexBytes {bytes : List UInt8} {c : Char}
    (h : c ∈ (hexBytes bytes).toList) : isHexDigit c = true := by
  induction bytes with
  | nil => simp [hexBytes] at h
  | cons b bytes ih =>
    have hb := b.toNat_lt
    rw [toList_hexBytes_cons] at h
    rcases List.mem_cons.mp h with rfl | h
    · simp [isHexDigit, hexValue?_digitChar (show b.toNat / 16 < 16 by omega)]
    rcases List.mem_cons.mp h with rfl | h
    · simp [isHexDigit, hexValue?_digitChar (Nat.mod_lt b.toNat (show 0 < 16 by decide))]
    · exact ih h

theorem hexBytes_injective : Function.Injective hexBytes := by
  intro bs cs h
  have hread := hexPairs?_hexBytes bs
  rw [h, hexPairs?_hexBytes] at hread
  exact (Option.some.inj hread).symm

/-- A quoted text ends where its closing quote stands. -/
theorem readQuoted?_quoted_end (opening closing : Char) (s : String) :
    readQuoted? opening closing (quoted opening closing s).toList = some (s, []) := by
  have hend : ([] : List Char).head? ≠ some closing := by simp
  simpa using readQuoted?_quoted opening s hend

theorem quoted_injective (opening closing : Char) :
    Function.Injective (quoted opening closing) := by
  intro s t h
  have hread := readQuoted?_quoted_end opening closing s
  rw [h, readQuoted?_quoted_end] at hread
  exact (Prod.mk.inj (Option.some.inj hread)).1.symm

end Text

open Text

/-- The text of a value that is written between quotes: a document as it is printed, and of all else
what is text in JSON. -/
def Value.spelling? : Value → Option String
  | .json j => some j.render
  | v => v.toJson.text?

namespace Dialect

/-- The identifier between quotes in front of a text, and what follows it. -/
def readIdentifier? (d : Dialect) (t : List Char) : Option (String × List Char) :=
  readQuoted? d.openingQuote d.closingQuote t

/-- A constant in a statement: what stands between quotes, or the digits of a binary one. -/
inductive Constant where
  | quoted (contents : String) | binary (digits : List Char)
  deriving DecidableEq

/-- The bytes that a constant spells. Between quotes they follow a mark. -/
def Constant.bytes? : Constant → Option (List UInt8)
  | .binary digits => hexPairs? digits
  | .quoted contents =>
    match contents.toList with
    | '\\' :: 'x' :: digits => hexPairs? digits
    | _ => none

/-- The constant in front of a text, and what follows it. Only SQL Server has binary ones, which go
on as long as there are digits. -/
def readConstant? : Dialect → List Char → Option (Constant × List Char)
  | .mysql, _ => none
  | .mssql, '0' :: 'x' :: rest =>
    some (.binary (rest.takeWhile isHexDigit), rest.dropWhile isHexDigit)
  | _, t => (readQuoted? '\'' '\'' t).map fun (s, rest) => (.quoted s, rest)

theorem readIdentifier?_quoteIdentifier (d : Dialect) (s : String) :
    d.readIdentifier? (d.quoteIdentifier s).toList = some (s, []) :=
  readQuoted?_quoted_end d.openingQuote d.closingQuote s

theorem literal_of_spelling? {d : Dialect} {v : Value} {s : String} (h : v.spelling? = some s) :
    d.literal v = singleQuoted s := by
  have hfloat (x : Double) : (Value.ofFloat x).text? = none := by
    unfold Value.ofFloat
    split <;> rfl
  cases v with
  | float32 x | float64 x =>
    rw [Value.spelling?, Value.toJson, hfloat] at h
    · cases h
    · rintro j ⟨⟩
  | null | bool | int32 | int64 | bytes => cases h
  | text | uuid | timestamp | dateTime | date | time | json =>
    exact congrArg singleQuoted (Option.some.inj h)

theorem readConstant?_singleQuoted {d : Dialect} (hd : d ≠ .mysql) (s : String) :
    d.readConstant? (singleQuoted s).toList = some (.quoted s, []) := by
  have hread := readQuoted?_quoted_end '\'' '\'' s
  have htext : (singleQuoted s).toList = '\'' :: (double '\'' s.toList ++ ['\'']) := by
    simp [singleQuoted, quoted]
  cases d with
  | mysql => exact absurd rfl hd
  | mssql | postgres =>
    rw [← singleQuoted, htext] at hread
    rw [htext]
    simp [readConstant?, hread]

/-- Bytes are a binary constant of SQL Server. -/
theorem readConstant?_bytes_mssql (bytes : List UInt8) :
    readConstant? .mssql (Dialect.mssql.bytesLiteral bytes).toList =
      some (.binary (hexBytes bytes).toList, []) := by
  have htext : (Dialect.mssql.bytesLiteral bytes).toList = '0' :: 'x' :: (hexBytes bytes).toList := by
    simp [bytesLiteral]
  have hdigits : ∀ c ∈ (hexBytes bytes).toList, isHexDigit c = true :=
    fun c hc => isHexDigit_of_mem_hexBytes hc
  rw [htext, readConstant?, List.takeWhile_eq_self_iff.mpr hdigits,
    List.dropWhile_eq_nil_iff.mpr hdigits]

/-- No quote stands among the digits, so PostgreSQL's are text like any other. -/
theorem bytesLiteral_postgres (bytes : List UInt8) :
    Dialect.postgres.bytesLiteral bytes = singleQuoted ("\\x" ++ hexBytes bytes) := by
  have hquote : '\'' ∉ ("\\x" ++ hexBytes bytes).toList := by
    rw [String.toList_append, List.mem_append, not_or]
    refine ⟨by decide, fun hmem => ?_⟩
    have hdigit := isHexDigit_of_mem_hexBytes hmem
    cases hdigit
  apply String.toList_inj.mp
  rw [singleQuoted, quoted, double_eq_self hquote]
  simp [bytesLiteral]

/-- The constant that bytes are written as spells them. -/
theorem readConstant?_bytes {d : Dialect} (hd : d ≠ .mysql) (bytes : List UInt8) :
    ∃ c, d.readConstant? (d.bytesLiteral bytes).toList = some (c, []) ∧
      c.bytes? = some bytes := by
  cases d with
  | mysql => exact absurd rfl hd
  | mssql => exact ⟨_, readConstant?_bytes_mssql bytes, hexPairs?_hexBytes bytes⟩
  | postgres =>
    refine ⟨.quoted ("\\x" ++ hexBytes bytes), ?_, ?_⟩
    · rw [bytesLiteral_postgres]
      exact readConstant?_singleQuoted hd _
    · have htext : ("\\x" ++ hexBytes bytes).toList = '\\' :: 'x' :: (hexBytes bytes).toList := by
        simp
      rw [Constant.bytes?, htext]
      exact hexPairs?_hexBytes bytes

theorem bytesLiteral_injective (d : Dialect) : Function.Injective d.bytesLiteral := by
  intro bs cs h
  apply hexBytes_injective
  cases d with
  | mssql => exact (String.append_right_inj _).mp h
  | mysql | postgres => exact (String.append_right_inj _).mp ((String.append_left_inj _).mp h)

/-- A quoted identifier is read back in every dialect; on SQL Server and PostgreSQL so is each value
that is text between quotes, and bytes are read back digit by digit. In each dialect no two names,
no two texts and no two runs of bytes are written the same. -/
theorem names_and_constants_read_back :
    (∀ (d : Dialect) s, d.readIdentifier? (d.quoteIdentifier s).toList = some (s, [])) ∧
    (∀ d : Dialect, d ≠ .mysql →
      (∀ v s, v.spelling? = some s →
        d.readConstant? (d.literal v).toList = some (.quoted s, [])) ∧
      ∀ bytes, ∃ c, d.readConstant? (d.literal (.bytes bytes)).toList = some (c, []) ∧
        c.bytes? = some bytes) ∧
    ∀ d : Dialect, Function.Injective d.quoteIdentifier ∧
      Function.Injective (fun s => d.literal (.text s)) ∧
      Function.Injective (fun bytes => d.literal (.bytes bytes)) := by
  refine ⟨readIdentifier?_quoteIdentifier, fun d hd => ⟨?_, readConstant?_bytes hd⟩, fun d => ?_⟩
  · intro v s hs
    rw [literal_of_spelling? hs]
    exact readConstant?_singleQuoted hd s
  · exact ⟨quoted_injective _ _, quoted_injective _ _, bytesLiteral_injective d⟩

/-- Closing quotes at the end of a name, and a document with a quote at the end of a text in it. -/
theorem brackets_and_quotes_read_back :
    Dialect.mssql.quoteIdentifier "a]]" = "[a]]]]]" ∧
    Dialect.mssql.readIdentifier? "[a]]]]]".toList = some ("a]]", []) ∧
    Dialect.postgres ≠ .mysql ∧
    (Value.json (.list [.text "it'"])).spelling? = some "[\"it'\"]" ∧
    Dialect.postgres.readConstant? "'[\"it''\"]'".toList = some (.quoted "[\"it'\"]", []) ∧
    ∃ c, Dialect.postgres.readConstant? "'\\x0027ff'".toList = some (c, []) ∧
      c.bytes? = some [0x00, 0x27, 0xff] := by
  obtain ⟨hnames, hconstants, -⟩ := names_and_constants_read_back
  obtain ⟨htexts, hbytes⟩ := hconstants .postgres (by decide)
  have hspelling : (Value.json (.list [.text "it'"])).spelling? = some "[\"it'\"]" := by
    decide +kernel
  have hname := hnames .mssql "a]]"
  have hdocument := htexts _ _ hspelling
  have hdigits := hbytes [0x00, 0x27, 0xff]
  have hnameText : Dialect.mssql.quoteIdentifier "a]]" = "[a]]]]]" := by decide +kernel
  have hdocumentText : Dialect.postgres.literal (.json (.list [.text "it'"])) = "'[\"it''\"]'" := by
    decide +kernel
  have hdigitsText : Dialect.postgres.literal (.bytes [0x00, 0x27, 0xff]) = "'\\x0027ff'" := by
    decide +kernel
  rw [hnameText] at hname
  rw [hdocumentText] at hdocument
  rw [hdigitsText] at hdigits
  exact ⟨hnameText, hname, by decide, hspelling, hdocument, hdigits⟩

end Dialect
end SqlRecords
