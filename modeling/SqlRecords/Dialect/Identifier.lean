import SqlRecords.Dialect
import SqlRecords.Text.Blank
import SqlRecords.Text.Quoted

/-! Identifiers: which segments of a reference are quoted, and which text is left alone. -/
namespace SqlRecords.Dialect
open Text

/-- Words that are quoted wherever they stand as a segment of a reference. -/
def reservedWords : List String :=
  ["add", "all", "alter", "and", "any", "as", "asc", "between", "by", "case", "check", "column",
   "constraint", "create", "cross", "current_date", "current_time", "current_user", "database",
   "default", "delete", "desc", "distinct", "drop", "else", "end", "exists", "fetch", "file",
   "for", "foreign", "from", "full", "function", "grant", "group", "having", "identity", "if",
   "in", "index", "inner", "insert", "interval", "into", "is", "join", "key", "left", "like",
   "limit", "match", "natural", "not", "null", "offset", "on", "option", "or", "order", "outer",
   "percent", "primary", "procedure", "range", "rank", "read", "references", "right", "row",
   "rows", "schema", "select", "session_user", "set", "table", "then", "to", "top", "trigger",
   "union", "unique", "update", "user", "using", "values", "view", "when", "where", "with"]

/-- Text with the ASCII letters in lower case. -/
def lowerAscii (s : String) : String := String.ofList (s.toList.map Char.toLower)

/-- Whether a word is reserved, in any ASCII case. -/
def isReserved (word : String) : Bool := reservedWords.contains (lowerAscii word)

/-- A segment between quotes, with the closing quote doubled. -/
def quoteIdentifier (d : Dialect) (segment : String) : String :=
  quoted d.openingQuote d.closingQuote segment

/-- An ASCII word that does not start with a digit, or `*`. -/
def isPlainSegment (segment : List Char) : Bool :=
  segment == ['*'] ||
    (!segment.isEmpty && segment.all (fun c => c.isAlphanum || c == '_')
      && !(segment.head?.any Char.isDigit))

/-- Plain segments between points. -/
def isPlainReference (s : String) : Bool := (splitWhere (· == '.') s.toList).all isPlainSegment

def escapeSegment (d : Dialect) (segment : String) : String :=
  if segment != "*" && isReserved segment then d.quoteIdentifier segment else segment

/-- Quotes the reserved segments of a reference. -/
def escapeReference (d : Dialect) (reference : String) : String :=
  ".".intercalate ((splitAt '.' reference).map d.escapeSegment)

/-- Quotes the reserved segments of a plain reference, with or without an alias; any other text is
an expression and only trimmed. -/
def escapeIdentifier (d : Dialect) (field : String) : String :=
  match words field with
  | [reference] => if isPlainReference reference then d.escapeReference reference else trim field
  | [reference, keyword, label] =>
    if lowerAscii keyword == "as" && isPlainReference label && isPlainReference reference then
      d.escapeReference reference ++ " AS " ++ d.escapeReference label
    else trim field
  | _ => trim field

end SqlRecords.Dialect
