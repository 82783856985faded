import SchemaWorkbench.Text.Digits

/-!
# TOML words

The parts of a TOML document that do not nest: blank space, keys, strings, numbers and times. Every
scanner takes its part from the front of a text and returns what follows, or nothing if the text
does not start with it.

## Main definitions

* `skipSpace`, `skipBlank`, `endLine?`: space, comments and line ends
* `key?`: a dotted key
* `text?`: a string in one of its four forms
* `number?`, `dateTime?`: a number, and a date or a time
-/

namespace SchemaWorkbench.Toml

open Text

/-- What is taken from the front of a text, with the rest. -/
abbrev Scan (α : Type) := List Char → Option (α × List Char)

/-! ## Space, comments and lines -/

/-- The character is a space or a tab. -/
def isSpace (c : Char) : Bool :=
  c == ' ' || c == '\t'

/-- The text without the space it starts with. -/
def skipSpace (cs : List Char) : List Char :=
  cs.dropWhile isSpace

/-- The character may stand in a comment, and in a string as it is. -/
def isPlain (c : Char) : Bool :=
  c == '\t' || (0x20 ≤ c.toNat && c.toNat ≤ 0x7E) || 0x80 ≤ c.toNat

/-- The text behind the line end it starts with. -/
def newline? : List Char → Option (List Char)
  | '\n' :: cs => some cs
  | '\r' :: '\n' :: cs => some cs
  | _ => none

/-- The text behind the comment it starts with, if any. -/
def skipComment : List Char → List Char
  | '#' :: cs => cs.dropWhile isPlain
  | cs => cs

/-- The text behind the rest of its line, which holds at most a comment. -/
def endLine? (cs : List Char) : Option (List Char) :=
  match skipComment (skipSpace cs) with
  | [] => some []
  | cs => newline? cs

/-- The text without the space, line ends and comments it starts with; `fuel` bounds the number of
lines. -/
def skipBlank : Nat → List Char → List Char
  | 0, cs => cs
  | fuel + 1, cs =>
    match newline? (skipComment (skipSpace cs)) with
    | some rest => skipBlank fuel rest
    | none => skipSpace cs

/-! ## Strings -/

/-- The scalar value that `n` hexadecimal digits stand for. -/
def scalar? (n : Nat) (cs : List Char) : Option (Char × List Char) :=
  let digits := cs.take n
  let value := valueOfDigits 16 digits
  if digits.length = n ∧ digits.all (hexValue? · |>.isSome) ∧ value.isValidChar then
    some (Char.ofNat value, cs.drop n)
  else
    none

/-- The character that an escape stands for, behind the backslash. -/
def escape? : Scan Char
  | 'b' :: cs => some ('\x08', cs)
  | 't' :: cs => some ('\t', cs)
  | 'n' :: cs => some ('\n', cs)
  | 'f' :: cs => some ('\x0c', cs)
  | 'r' :: cs => some ('\r', cs)
  | '"' :: cs => some ('"', cs)
  | '\\' :: cs => some ('\\', cs)
  | 'u' :: cs => scalar? 4 cs
  | 'U' :: cs => scalar? 8 cs
  | _ => none

/-- A string of one line with escapes, behind its opening quote. -/
def basicText? : Nat → Scan (List Char)
  | 0, _ => none
  | _ + 1, [] => none
  | _ + 1, '"' :: cs => some ([], cs)
  | fuel + 1, '\\' :: cs => do
    let (c, cs) ← escape? cs
    let (text, cs) ← basicText? fuel cs
    return (c :: text, cs)
  | fuel + 1, c :: cs =>
    if isPlain c then do
      let (text, cs) ← basicText? fuel cs
      return (c :: text, cs)
    else
      none

/-- A string of one line without escapes, behind its opening quote. -/
def literalText? (cs : List Char) : Option (List Char × List Char) :=
  let text := cs.takeWhile fun c => isPlain c && c != '\''
  match cs.drop text.length with
  | '\'' :: rest => some (text, rest)
  | _ => none

/-- The quotes that end a string over several lines: three, and up to two more that belong to the
string. -/
def closing? (quote : Char) (cs : List Char) : Option (List Char × List Char) :=
  let count := min 5 (cs.takeWhile (· == quote)).length
  if 3 ≤ count then some (List.replicate (count - 3) quote, cs.drop count) else none

/-- The text behind a line end that a backslash hides, with the blank space after it. -/
def hiddenLine? (fuel : Nat) (cs : List Char) : Option (List Char) :=
  (newline? (skipSpace cs)).map (skip fuel)
where
  /-- The text without the spaces and line ends it starts with. -/
  skip : Nat → List Char → List Char
    | 0, cs => cs
    | fuel + 1, cs =>
      match newline? (skipSpace cs) with
      | some rest => skip fuel rest
      | none => skipSpace cs

/-- The rest of a string over several lines, with escapes if the quote is double. -/
def longText? (quote : Char) : Nat → Scan (List Char)
  | 0, _ => none
  | fuel + 1, cs =>
    match closing? quote cs with
    | some (text, rest) => some (text, rest)
    | none =>
      match newline? cs, cs with
      | some rest, _ => do
        let (text, rest) ← longText? quote fuel rest
        return ('\n' :: text, rest)
      | none, '\\' :: rest =>
        if quote = '"' then
          match hiddenLine? fuel rest with
          | some rest => longText? quote fuel rest
          | none => do
            let (c, rest) ← escape? rest
            let (text, rest) ← longText? quote fuel rest
            return (c :: text, rest)
        else do
          let (text, rest) ← longText? quote fuel rest
          return ('\\' :: text, rest)
      | none, c :: rest =>
        if isPlain c then do
          let (text, rest) ← longText? quote fuel rest
          return (c :: text, rest)
        else
          none
      | none, [] => none

/-- The text behind a line end at its start, which does not count in a string over several
lines. -/
def dropFirstLineEnd (cs : List Char) : List Char :=
  (newline? cs).getD cs

/-- A string in one of its four forms. -/
def text? (cs : List Char) : Option (List Char × List Char) :=
  match cs with
  | '"' :: '"' :: '"' :: rest => longText? '"' (cs.length + 1) (dropFirstLineEnd rest)
  | '"' :: rest => basicText? (cs.length + 1) rest
  | '\'' :: '\'' :: '\'' :: rest => longText? '\'' (cs.length + 1) (dropFirstLineEnd rest)
  | '\'' :: rest => literalText? rest
  | _ => none

/-! ## Keys -/

/-- The character may stand in a key without quotes. -/
def isKeyChar (c : Char) : Bool :=
  c.isAlphanum || c == '_' || c == '-'

/-- One segment of a key. -/
def segment? (cs : List Char) : Option (String × List Char) :=
  match cs with
  | '"' :: rest => (basicText? (cs.length + 1) rest).map fun r => (String.ofList r.1, r.2)
  | '\'' :: rest => (literalText? rest).map fun r => (String.ofList r.1, r.2)
  | _ =>
    match cs.takeWhile isKeyChar with
    | [] => none
    | name => some (String.ofList name, cs.dropWhile isKeyChar)

/-- The segments of a key between dots, with space around each of them. -/
def segments? : Nat → Scan (List String)
  | 0, _ => none
  | fuel + 1, cs => do
    let (name, rest) ← segment? (skipSpace cs)
    match skipSpace rest with
    | '.' :: rest =>
      let (names, rest) ← segments? fuel rest
      return (name :: names, rest)
    | rest => return ([name], rest)

/-- The greatest depth of a document, exclusive. -/
def depthLimit : Nat := 80

/-- A key: the segments on the way and the last one. -/
def key? (cs : List Char) : Option ((List String × String) × List Char) := do
  let (names, rest) ← segments? (cs.length + 1) cs
  let last ← names.getLast?
  if names.length < depthLimit then some ((names.dropLast, last), rest) else none

/-! ## Numbers -/

/-- Digits with single underscores between them, behind the first digit. -/
def moreDigits? (isDigit : Char → Bool) : Scan (List Char)
  | [] => some ([], [])
  | '_' :: [] => none
  | '_' :: c :: cs => if isDigit c then (moreDigits? isDigit cs).map fun r => (c :: r.1, r.2) else none
  | c :: cs =>
    if isDigit c then (moreDigits? isDigit cs).map fun r => (c :: r.1, r.2) else some ([], c :: cs)

/-- Digits with single underscores between them. -/
def digits? (isDigit : Char → Bool) : Scan (List Char)
  | c :: cs => if isDigit c then (moreDigits? isDigit cs).map fun r => (c :: r.1, r.2) else none
  | [] => none

/-- An integer, or a number that is not one. -/
inductive Numeral where
  | integer (value : Int)
  | float

/-- The integer, if it fits 64 bits. -/
def fitting? (n : Int) : Option Numeral :=
  if -(Nat.pow 2 63 : Int) ≤ n ∧ n < Nat.pow 2 63 then some (.integer n) else none

/-- An integer in another base than ten, behind the letter that tells the base. -/
def basedInteger? (base : Nat) (isDigit : Char → Bool) : Scan Numeral := fun cs => do
  let (ds, rest) ← digits? isDigit cs
  let n ← fitting? (valueOfDigits base ds)
  return (n, rest)

/-- The number `significand * 10 ^ exponent` is beyond the doubles. -/
def overflows (significand : Nat) (exponent : Int) : Bool :=
  let magnitude := (Nat.toDigits 10 significand).length + exponent
  if significand = 0 ∨ magnitude < 300 then false
  else if 400 < magnitude then true
  else
    (Nat.pow 2 1024 - Nat.pow 2 970) * Nat.pow 10 (-exponent).toNat
      ≤ significand * Nat.pow 10 exponent.toNat

/-- The exponent of a number, if it has one, with the information that it does. -/
def exponent? : Scan (Option Int)
  | c :: cs =>
    if c = 'e' ∨ c = 'E' then do
      let (negative, cs) := match cs with
        | '+' :: cs => (false, cs)
        | '-' :: cs => (true, cs)
        | cs => (false, cs)
      let (ds, rest) ← digits? Char.isDigit cs
      let n : Int := valueOfDigits 10 ds
      return (some (if negative then -n else n), rest)
    else
      some (none, c :: cs)
  | [] => some (none, [])

/-- A number in base ten behind its sign. -/
def decimal? (negative : Bool) (cs : List Char) : Option (Numeral × List Char) := do
  let (whole, rest) ← match cs with
    | '0' :: rest => some (['0'], rest)
    | cs => digits? Char.isDigit cs
  let (fraction, rest) ← match rest with
    | '.' :: rest => (digits? Char.isDigit rest).map fun r => (some r.1, r.2)
    | rest => some (none, rest)
  let (exponent, rest) ← exponent? rest
  if fraction.isNone ∧ exponent.isNone then
    let n : Int := valueOfDigits 10 whole
    let numeral ← fitting? (if negative then -n else n)
    return (numeral, rest)
  else
    let fraction := fraction.getD []
    let shift := exponent.getD 0 - fraction.length
    if !negative && overflows (valueOfDigits 10 (whole ++ fraction)) shift then none
    else return (.float, rest)

/-- A number behind its sign. -/
def unsigned? (negative : Bool) : Scan Numeral
  | 'i' :: 'n' :: 'f' :: rest => some (.float, rest)
  | 'n' :: 'a' :: 'n' :: rest => some (.float, rest)
  | cs => decimal? negative cs

/-- A number. -/
def number? : Scan Numeral
  | '0' :: 'x' :: cs => basedInteger? 16 (hexValue? · |>.isSome) cs
  | '0' :: 'o' :: cs => basedInteger? 8 (fun c => '0' ≤ c && c ≤ '7') cs
  | '0' :: 'b' :: cs => basedInteger? 2 (fun c => c == '0' || c == '1') cs
  | '+' :: cs => unsigned? false cs
  | '-' :: cs => unsigned? true cs
  | cs => unsigned? false cs

/-! ## Dates and times -/

/-- A number of exactly `n` digits between two bounds. -/
def fixed? (n low high : Nat) (cs : List Char) : Option (Nat × List Char) :=
  let ds := cs.take n
  let value := valueOfDigits 10 ds
  if ds.length = n ∧ ds.all Char.isDigit ∧ low ≤ value ∧ value ≤ high then
    some (value, cs.drop n)
  else
    none

/-- The text behind a character. -/
def after? (c : Char) : List Char → Option (List Char)
  | d :: cs => if d = c then some cs else none
  | [] => none

/-- The number of days of a month. -/
def daysOfMonth (year month : Nat) : Nat :=
  if month = 2 then
    if year % 4 = 0 ∧ (year % 100 ≠ 0 ∨ year % 400 = 0) then 29 else 28
  else if month = 4 ∨ month = 6 ∨ month = 9 ∨ month = 11 then 30
  else 31

/-- The text behind a date. -/
def date? (cs : List Char) : Option (List Char) := do
  let (year, cs) ← fixed? 4 0 9999 cs
  let (month, cs) ← fixed? 2 1 12 (← after? '-' cs)
  let (_, cs) ← fixed? 2 1 (daysOfMonth year month) (← after? '-' cs)
  return cs

/-- The text behind a time of day. -/
def time? (cs : List Char) : Option (List Char) := do
  let (_, cs) ← fixed? 2 0 23 cs
  let (_, cs) ← fixed? 2 0 59 (← after? ':' cs)
  let (_, cs) ← fixed? 2 0 60 (← after? ':' cs)
  match cs with
  | '.' :: rest => if rest.takeWhile Char.isDigit = [] then none else rest.dropWhile Char.isDigit
  | cs => cs

/-- The text behind the offset of a time, if it has one. -/
def offset? : List Char → Option (List Char)
  | 'Z' :: cs => some cs
  | 'z' :: cs => some cs
  | '+' :: cs => difference cs
  | '-' :: cs => difference cs
  | cs => some cs
where
  /-- The text behind the hours and minutes of an offset. -/
  difference (cs : List Char) : Option (List Char) := do
    let (_, cs) ← fixed? 2 0 23 cs
    let (_, cs) ← fixed? 2 0 59 (← after? ':' cs)
    return cs

/-- The text behind a date, a time or both. -/
def dateTime? (cs : List Char) : Option (List Char) :=
  match date? cs with
  | none => time? cs
  | some rest =>
    match rest with
    | 'T' :: later => time? later >>= offset?
    | 't' :: later => time? later >>= offset?
    | ' ' :: later =>
      match time? later with
      | some rest => offset? rest
      | none => some rest
    | rest => some rest

end SchemaWorkbench.Toml
