/-! Decimal numerals as settings and counts spell them. -/
namespace SqlRecords.Text

def digitValue? (c : Char) : Option Nat :=
  if '0' ≤ c ∧ c ≤ '9' then some (c.toNat - '0'.toNat) else none

/-- Value of a non-empty run of ASCII digits. -/
def digits? : List Char → Option Nat
  | [] => none
  | cs => cs.foldlM (fun n c => (digitValue? c).map (n * 10 + ·)) 0

/-- An unsigned decimal numeral of at most `top`; one `+` may stand in front. -/
def unsigned? (top : Nat) (s : String) : Option Nat :=
  let digits := match s.toList with
    | '+' :: rest => rest
    | cs => cs
  (digits? digits).filter (· ≤ top)

end SqlRecords.Text
