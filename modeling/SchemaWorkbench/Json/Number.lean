import SchemaWorkbench.Decimal.Shortest
import SchemaWorkbench.Json.Basic
import SchemaWorkbench.Json.SyntaxError
import SchemaWorkbench.Text.Digits

/-!
# JSON numbers

A literal without fraction and exponent whose value fits a 64-bit word is an integer. Every other
literal is a double: the digits that fit a word, as a double, times a power of ten. Digits beyond
the word count only for the magnitude.

## Main definitions

* `Literal`: the parts of a number literal that matter for its value
* `Literal.scan`: reads a literal from the front of a text
* `Literal.number`: the number that a literal stands for
* `Number.text`: the text of a number
-/

namespace SchemaWorkbench.Json

open Text

/-- The greatest number of a 64-bit word. -/
def maxWord : Nat := Nat.pow 2 64 - 1

/-- The number `significand * 10 ^ exponent` with its sign. -/
structure Literal where
  negative : Bool
  significand : Nat
  exponent : Int
  /-- Neither a fraction nor an exponent is written, and no digit is left out. -/
  whole : Bool

namespace Literal

/-- The value of the digits after `acc`, as far as it fits a word, and how many digits that are. -/
def absorb (acc : Nat) : List Char → Nat × Nat
  | [] => (acc, 0)
  | c :: cs =>
    if 10 * acc + digitValue c ≤ maxWord then
      let (value, used) := absorb (10 * acc + digitValue c) cs
      (value, used + 1)
    else
      (acc, 0)

/-- The sign of an exponent, true if it is negative, and the text after it. -/
def exponentSign : List Char → Bool × List Char
  | '+' :: cs => (false, cs)
  | '-' :: cs => (true, cs)
  | cs => (false, cs)

/-- Reads the exponent of a literal, if the text starts with one. -/
def scanExponent (l : Literal) : List Char → Except SyntaxError (Literal × List Char)
  | c :: cs =>
    if c = 'e' ∨ c = 'E' then
      match (exponentSign cs).2.takeWhile Char.isDigit,
        (exponentSign cs).2.dropWhile Char.isDigit with
      | [], [] => .error .endInValue
      | [], _ :: _ => .error .invalidNumber
      | ds, rest =>
        let shift : Int := valueOfDigits 10 ds
        .ok ({ l with
          exponent := if (exponentSign cs).1 then l.exponent - shift else l.exponent + shift
          whole := false }, rest)
    else
      .ok (l, c :: cs)
  | [] => .ok (l, [])

/-- Reads the fraction and the exponent of a literal, if the text starts with them. -/
def scanFraction (l : Literal) : List Char → Except SyntaxError (Literal × List Char)
  | '.' :: cs =>
    match cs.takeWhile Char.isDigit, cs.dropWhile Char.isDigit with
    | [], [] => .error .endInValue
    | [], _ :: _ => .error .invalidNumber
    | ds, rest =>
      let (significand, used) := absorb l.significand ds
      scanExponent { l with significand, exponent := l.exponent - used, whole := false } rest
  | cs => scanExponent l cs

/-- Reads the digits of a literal, then its fraction and its exponent. -/
def scanDigits (negative : Bool) (cs : List Char) : Except SyntaxError (Literal × List Char) :=
  match cs.takeWhile Char.isDigit, cs.dropWhile Char.isDigit with
  | [], [] => .error .endInValue
  | [], _ :: _ => .error .invalidNumber
  | '0' :: _ :: _, _ => .error .invalidNumber
  | ds, rest =>
    let (significand, used) := absorb 0 ds
    scanFraction ⟨negative, significand, ds.length - used, ds.length = used⟩ rest

/-- Reads a literal from the front of a text. -/
def scan : List Char → Except SyntaxError (Literal × List Char)
  | '-' :: cs => scanDigits true cs
  | cs => scanDigits false cs

theorem length_dropWhile_le (p : Char → Bool) (cs : List Char) :
    (cs.dropWhile p).length ≤ cs.length :=
  (List.dropWhile_sublist p).length_le

theorem exponentSign_length (cs : List Char) : (exponentSign cs).2.length ≤ cs.length := by
  unfold exponentSign
  split <;> simp

theorem scanExponent_length {l l' : Literal} {cs rest : List Char}
    (h : scanExponent l cs = .ok (l', rest)) : rest.length ≤ cs.length := by
  unfold scanExponent at h
  split at h
  · rename_i c cs
    split at h
    · split at h
      · contradiction
      · contradiction
      · cases h
        refine Nat.le_trans (length_dropWhile_le _ _) ?_
        exact Nat.le_succ_of_le (exponentSign_length cs)
    · cases h
      simp
  · cases h
    simp

theorem scanFraction_length {l l' : Literal} {cs rest : List Char}
    (h : scanFraction l cs = .ok (l', rest)) : rest.length ≤ cs.length := by
  unfold scanFraction at h
  split at h
  · split at h
    · contradiction
    · contradiction
    · refine Nat.le_trans (scanExponent_length h) (Nat.le_trans (length_dropWhile_le _ _) ?_)
      simp
  · exact scanExponent_length h

theorem length_dropWhile_lt {p : Char → Bool} {cs : List Char} (h : cs.takeWhile p ≠ []) :
    (cs.dropWhile p).length < cs.length := by
  have := congrArg List.length (List.takeWhile_append_dropWhile (p := p) (l := cs))
  have := List.length_pos_iff.2 h
  simp only [List.length_append] at *
  omega

theorem scanDigits_length {b : Bool} {l : Literal} {cs rest : List Char}
    (h : scanDigits b cs = .ok (l, rest)) : rest.length < cs.length := by
  unfold scanDigits at h
  split at h
  · contradiction
  · contradiction
  · contradiction
  · refine Nat.lt_of_le_of_lt (scanFraction_length h) (length_dropWhile_lt ?_)
    intro hd
    cases hr : cs.dropWhile Char.isDigit <;> simp_all

/-- A literal is not empty. -/
theorem scan_length {l : Literal} {cs rest : List Char} (h : scan cs = .ok (l, rest)) :
    rest.length < cs.length := by
  unfold scan at h
  split at h
  · have := scanDigits_length h
    simp
    omega
  · exact scanDigits_length h

/-- The double `10 ^ n`. -/
def powerOfTen (n : Nat) : Float :=
  Float.ofScientific 1 false n

/-- The double `x * 10 ^ e`, unless it overflows; powers beyond `10 ^ 308` are taken in steps. -/
def scaled (x : Float) (e : Int) : Option Float :=
  if 0 ≤ e then
    if e ≤ 308 then
      let y := x * powerOfTen e.toNat
      if y.isInf then none else some y
    else if x == 0 then some x else none
  else if -308 ≤ e then
    some (x / powerOfTen (-e).toNat)
  else if x == 0 then
    some x
  else
    scaled (x / powerOfTen 308) (e + 308)
termination_by (-e).toNat
decreasing_by omega

/-- The number that a literal stands for; a negative integer below the words is a double, and so is
minus zero. -/
def number (l : Literal) : Except SyntaxError Number :=
  let magnitude := l.significand.toUInt64.toFloat
  if l.whole then
    if !l.negative then .ok (.int l.significand)
    else if l.significand = 0 ∨ Nat.pow 2 63 < l.significand then .ok (.double (-magnitude))
    else .ok (.int (-l.significand))
  else
    match scaled magnitude l.exponent with
    | some x => .ok (.double (if l.negative then -x else x))
    | none => .error .numberOutOfRange

end Literal

namespace Number

/-- The number is zero. -/
def isZero : Number → Bool
  | .int n => n == 0
  | .double x => x == 0

/-- The exponent of a decimal with its sign, which is written in either case. -/
def exponentText (n : Int) : List Char :=
  (if n < 0 then '-' else '+') :: Nat.toDigits 10 n.natAbs

/-- The layout of a decimal: positional with a point from `10 ^ -5` up to `10 ^ 16`, otherwise with
an exponent. -/
def layout (d : Decimal) : List Char :=
  let ds := Nat.toDigits 10 d.digits
  let point : Int := ds.length + d.exponent
  let zeros (n : Int) := List.replicate n.toNat '0'
  if 0 ≤ d.exponent ∧ point ≤ 16 then
    ds ++ zeros d.exponent ++ ['.', '0']
  else if 0 < point ∧ point ≤ 16 then
    ds.take point.toNat ++ '.' :: ds.drop point.toNat
  else if -5 < point ∧ point ≤ 0 then
    ['0', '.'] ++ zeros (-point) ++ ds
  else
    let rest := ds.drop 1
    ds.take 1 ++ (if rest = [] then [] else '.' :: rest) ++ 'e' :: exponentText (point - 1)

/-- The text of a finite double: the shortest decimal that reads back. -/
def doubleText (x : Float) : String :=
  let sign := if x.toBits >>> 63 = 1 then ['-'] else []
  String.ofList <|
    sign ++ if x == 0 then ['0', '.', '0'] else layout (Decimal.shortest x.abs)

/-- The text of a number. -/
def text : Number → String
  | .int n => toString n
  | .double x => doubleText x

end Number

end SchemaWorkbench.Json
