import SchemaWorkbench.Text.Casing
import SchemaWorkbench.Text.Whitespace

/-!
# Column types

The notation names types by words of its own; everything behind it uses canonical names. A word that
is not known stands for itself in capitals.

## Main definitions

* `typeWords`: the known words with the types that they stand for
* `resolve`: the canonical type of a word
* `baseType`: a type without its parameters
* `domainWords`: the words of the notation that are no canonical names themselves
-/

namespace SchemaWorkbench

/-- The known words with the canonical types that they stand for: first those of the notation, then
the canonical names. -/
def typeWords : List (String × String) :=
  [ ("entier", "INT"), ("texte", "VARCHAR(255)"), ("date", "DATETIME"),
    ("decimal", "DECIMAL(10,2)"), ("booleen", "BOOLEAN"), ("temps", "TIME"),
    ("timestamp", "TIMESTAMP"), ("long_texte", "TEXT"), ("date_seule", "DATE"),
    ("grand_entier", "BIGINT"), ("flottant", "FLOAT"), ("double", "DOUBLE"),
    ("INT", "INT"), ("VARCHAR", "VARCHAR(255)"), ("DATETIME", "DATETIME"),
    ("DECIMAL", "DECIMAL(10,2)"), ("BOOLEAN", "BOOLEAN"), ("TIME", "TIME"),
    ("TIMESTAMP", "TIMESTAMP"), ("TEXT", "TEXT"), ("DATE", "DATE"), ("BIGINT", "BIGINT"),
    ("FLOAT", "FLOAT"), ("DOUBLE", "DOUBLE") ]

/-- The canonical type of a word: that of the word as it is written, else that of its lowercase
form, else the word itself in capitals. -/
def resolve (word : String) : String :=
  match typeWords.lookup word with
  | some type => type
  | none =>
    match typeWords.lookup (Text.lowercase word) with
    | some type => type
    | none => Text.uppercase word

/-- The type before its first opening parenthesis, trimmed and in capitals. -/
def baseType (type : String) : String :=
  String.ofList (Text.upper (Text.trim (type.toList.takeWhile (· ≠ '('))))

/-- The words of the notation with the types that they stand for. -/
def domainWords : List (String × String) :=
  typeWords.filter fun entry => entry.1.toList.any Char.isLower

end SchemaWorkbench
