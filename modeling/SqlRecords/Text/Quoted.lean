/-! Text between quotes: the closing quote is written twice inside. -/
namespace SqlRecords.Text

/-- Writes every `mark` twice and all else once. -/
def double (mark : Char) : List Char → List Char
  | [] => []
  | c :: rest => if c = mark then mark :: mark :: double mark rest else c :: double mark rest

/-- `text` between `opening` and `closing`, with `closing` doubled inside. -/
def quoted (opening closing : Char) (text : String) : String :=
  String.ofList (opening :: (double closing text.toList ++ [closing]))

/-- `text` as a string literal in single quotes. -/
def singleQuoted (text : String) : String := quoted '\'' '\'' text

end SqlRecords.Text
