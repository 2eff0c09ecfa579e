/-! The characters of Unicode's `White_Space`, and cutting text at them. -/
namespace SqlRecords.Text

/-- Whether a character has the property `White_Space`. -/
def isBlank (c : Char) : Bool :=
  let n := c.toNat
  (0x9 ≤ n && n ≤ 0xD) || n == 0x20 || n == 0x85 || n == 0xA0 || n == 0x1680
    || (0x2000 ≤ n && n ≤ 0x200A) || n == 0x2028 || n == 0x2029 || n == 0x202F || n == 0x205F
    || n == 0x3000

/-- Drops the characters that satisfy `p` at both ends. -/
def trimWhere (p : Char → Bool) (s : List Char) : List Char :=
  ((s.dropWhile p).reverse.dropWhile p).reverse

/-- The pieces between the characters that satisfy `p`, the empty ones too. -/
def splitWhere (p : Char → Bool) : List Char → List (List Char)
  | [] => [[]]
  | c :: rest =>
    match splitWhere p rest with
    | [] => [[c]]
    | piece :: pieces => if p c then [] :: piece :: pieces else (c :: piece) :: pieces

def trim (s : String) : String := String.ofList (trimWhere isBlank s.toList)

def isAllBlank (s : String) : Bool := s.toList.all isBlank

/-- The longest runs of characters that are not blank. -/
def words (s : String) : List String :=
  ((splitWhere isBlank s.toList).filter (!·.isEmpty)).map String.ofList

/-- The pieces between the occurrences of `mark`, at least one. -/
def splitAt (mark : Char) (s : String) : List String :=
  (splitWhere (· == mark) s.toList).map String.ofList

end SqlRecords.Text
