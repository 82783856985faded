import SchemaWorkbench.Text.Printable

/-!
# Quoted text

A text between double quotes in which quotes, backslashes and every character that is not printable
are written as escapes.

## Main definitions

* `quoteChar`: one character as it is written between the quotes
* `quoted`: a string with its quotes
-/

namespace SchemaWorkbench.Text

/-- The character as it is written between the quotes. -/
def quoteChar (c : Char) : List Char :=
  if c = '\x00' then ['\\', '0']
  else if c = '\t' then ['\\', 't']
  else if c = '\n' then ['\\', 'n']
  else if c = '\r' then ['\\', 'r']
  else if c = '"' then ['\\', '"']
  else if c = '\\' then ['\\', '\\']
  else if isPrintable c then [c]
  else ['\\', 'u', '{'] ++ Nat.toDigits 16 c.toNat ++ ['}']

/-- The string between double quotes. -/
def quoted (s : String) : String :=
  String.ofList ('"' :: s.toList.flatMap quoteChar ++ ['"'])

end SchemaWorkbench.Text
