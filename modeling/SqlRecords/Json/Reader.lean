import SqlRecords.Json.Basic
import SqlRecords.Text.Hex
import SqlRecords.Text.Numeral

/-! Reading JSON text. -/
namespace SqlRecords.Json
open Text

abbrev Rest := List Char

def skipSpace : Rest → Rest
  | c :: rest => if c = ' ' ∨ c = '\n' ∨ c = '\r' ∨ c = '\t' then skipSpace rest else c :: rest
  | [] => []

/-- The digits in front and what follows them. -/
def takeDigits (cs : Rest) : List Char × Rest := cs.span Char.isDigit

/-- A whole number of 64 bits stays whole, `-0` and all others become the nearest float; a float
beyond the largest one is refused. -/
def number? (negative : Bool) (whole fraction : List Char) (exponent : Option Int) : Option Json :=
  let digits := (whole ++ fraction).foldl (fun n c => n * 10 + (c.toNat - '0'.toNat)) 0
  let signed : Int := if negative then -digits else digits
  if fraction.isEmpty && exponent.isNone && isWord signed && !(negative && digits == 0) then
    some (.int signed)
  else
    let x := Double.ofDecimal negative digits (exponent.getD 0 - fraction.length)
    if x.isFinite then some (.double x) else none

def readExponent? (cs : Rest) : Option (Option Int × Rest) :=
  match cs with
  | 'e' :: rest | 'E' :: rest =>
    let (negative, rest) := match rest with
      | '-' :: r => (true, r)
      | '+' :: r => (false, r)
      | r => (false, r)
    let (ds, rest) := takeDigits rest
    (digits? ds).map fun n => (some (if negative then -n else n), rest)
  | _ => some (none, cs)

def readNumber? (cs : Rest) : Option (Json × Rest) := do
  let (negative, cs) := match cs with
    | '-' :: r => (true, r)
    | r => (false, r)
  let (whole, cs) := takeDigits cs
  guard (!whole.isEmpty && (whole.length == 1 || whole.head? != some '0'))
  let (fraction, cs) ← match cs with
    | '.' :: r => let (ds, r) := takeDigits r; if ds.isEmpty then none else some (ds, r)
    | r => some ([], r)
  let (exponent, cs) ← readExponent? cs
  let j ← number? negative whole fraction exponent
  return (j, cs)

/-- Four hexadecimal digits. -/
def readUnit? : Rest → Option (Nat × Rest)
  | a :: b :: c :: d :: rest => (hexNumber? [a, b, c, d]).map (·, rest)
  | _ => none

/-- A character after a backslash; two escaped surrogates make one character. -/
def readEscape? : Rest → Option (Char × Rest)
  | '"' :: r => some ('"', r)
  | '\\' :: r => some ('\\', r)
  | '/' :: r => some ('/', r)
  | 'b' :: r => some ('\x08', r)
  | 'f' :: r => some ('\x0c', r)
  | 'n' :: r => some ('\n', r)
  | 'r' :: r => some ('\r', r)
  | 't' :: r => some ('\t', r)
  | 'u' :: r => do
    let (n, r) ← readUnit? r
    if 0xD800 ≤ n ∧ n < 0xDC00 then
      match r with
      | '\\' :: 'u' :: r => do
        let (m, r) ← readUnit? r
        guard (0xDC00 ≤ m && m < 0xE000)
        return (Char.ofNat (0x10000 + (n - 0xD800) * 0x400 + (m - 0xDC00)), r)
      | _ => none
    else if 0xDC00 ≤ n ∧ n < 0xE000 then none
    else return (Char.ofNat n, r)
  | _ => none

/-- Text up to the closing quote; `fuel` bounds the number of characters. -/
def readText? : Nat → List Char → Rest → Option (String × Rest)
  | 0, _, _ => none
  | _ + 1, acc, '"' :: r => some (String.ofList acc.reverse, r)
  | fuel + 1, acc, '\\' :: r => do
    let (c, r) ← readEscape? r
    readText? fuel (c :: acc) r
  | fuel + 1, acc, c :: r => if c.toNat < 0x20 then none else readText? fuel (c :: acc) r
  | _ + 1, _, [] => none

def readWord? (word : List Char) (j : Json) (cs : Rest) : Option (Json × Rest) :=
  if word.isPrefixOf cs then some (j, cs.drop word.length) else none

mutual
/-- A document; `fuel` bounds the number of steps and the length of the text is enough. -/
def readValue? : Nat → Rest → Option (Json × Rest)
  | 0, _ => none
  | fuel + 1, cs =>
    match skipSpace cs with
    | 'n' :: r => readWord? "ull".toList .null r
    | 't' :: r => readWord? "rue".toList (.bool true) r
    | 'f' :: r => readWord? "alse".toList (.bool false) r
    | '"' :: r => (readText? (r.length + 1) [] r).map fun (s, r) => (.text s, r)
    | '[' :: r =>
      match skipSpace r with
      | ']' :: r => some (.list [], r)
      | r => (readItems? fuel [] r).map fun (items, r) => (.list items, r)
    | '\x7b' :: r =>
      match skipSpace r with
      | '\x7d' :: r => some (.object [], r)
      | r => (readFields? fuel [] r).map fun (fields, r) => (.object fields, r)
    | cs => readNumber? cs
def readItems? : Nat → List Json → Rest → Option (List Json × Rest)
  | 0, _, _ => none
  | fuel + 1, acc, cs => do
    let (j, cs) ← readValue? fuel cs
    match skipSpace cs with
    | ',' :: r => readItems? fuel (j :: acc) r
    | ']' :: r => return ((j :: acc).reverse, r)
    | _ => none
def readFields? : Nat → Fields Json → Rest → Option (Fields Json × Rest)
  | 0, _, _ => none
  | fuel + 1, acc, cs => do
    let '"' :: r := skipSpace cs | none
    let (name, r) ← readText? (r.length + 1) [] r
    let ':' :: r := skipSpace r | none
    let (j, r) ← readValue? fuel r
    let acc := acc.insert name j
    match skipSpace r with
    | ',' :: r => readFields? fuel acc r
    | '\x7d' :: r => return (acc, r)
    | _ => none
end

/-- The document that the whole text spells; the last of two fields of one name counts. -/
def read? (s : String) : Option Json :=
  let cs := s.toList
  match readValue? (2 * cs.length + 1) cs with
  | some (j, rest) => if (skipSpace rest).isEmpty then some j else none
  | none => none

end SqlRecords.Json
