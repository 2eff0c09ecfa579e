import SqlRecords.Text.Hex
import SqlRecords.Text.Unprinted

/-! Descriptions of values on one line: `Name { field: value }`, lists in square brackets, and
text in double quotes, where what does not show is written by its code. -/
namespace SqlRecords.Text

def escapedChar (c : Char) : String :=
  match c with
  | '"' => "\\\""
  | '\\' => "\\\\"
  | '\n' => "\\n"
  | '\r' => "\\r"
  | '\t' => "\\t"
  | '\x00' => "\\0"
  | c =>
    if isUnprinted c then "\\u\x7b" ++ String.ofList (hexDigits 1 c.toNat) ++ "\x7d"
    else c.toString

def escaped (s : String) : String := "\"" ++ String.join (s.toList.map escapedChar) ++ "\""

/-- Descriptions of the items of a list. -/
def bracketed (items : List String) : String := "[" ++ ", ".intercalate items ++ "]"

/-- A list of texts. -/
def escapedList (items : List String) : String := bracketed (items.map escaped)

/-- A name with the descriptions of its fields. -/
def described (name : String) (fields : List (String × String)) : String :=
  name ++ " \x7b " ++ ", ".intercalate (fields.map fun (field, text) => field ++ ": " ++ text)
    ++ " \x7d"

end SqlRecords.Text
