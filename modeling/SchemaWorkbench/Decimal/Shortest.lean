/-!
# Shortest decimals

The decimal of fewest digits among those that read back as a given double, and of these the nearest
to it.

A double stands for every real number that rounds to it: an interval around its value that holds its
ends exactly when its significand is even. A decimal of `n` digits is a point of a grid, and if some
point of the grid lies in the interval, then one of the two neighbours of the value does. So the
grids are tried from the coarsest to the finest, in exact arithmetic.

## Main definitions

* `Decimal`: a whole number of units of a power of ten
* `Span`: the value of a double with the interval of the numbers that round to it
* `Span.shortest`: the shortest decimal in the interval
* `shortest`: the shortest decimal of a positive double
-/

namespace SchemaWorkbench

/-- The number `digits * 10 ^ exponent`. -/
structure Decimal where
  digits : Nat
  exponent : Int

namespace Decimal

/-- A value with the interval of the numbers that round to it, as numerators over `unit`. -/
structure Span where
  low : Nat
  value : Nat
  high : Nat
  unit : Nat
  closed : Bool

/-- The decimal lies in the interval. -/
def Span.contains (s : Span) (d : Decimal) : Bool :=
  let scaled := if 0 ≤ d.exponent then d.digits * Nat.pow 10 d.exponent.toNat * s.unit
    else d.digits * s.unit
  let shift := if 0 ≤ d.exponent then 1 else Nat.pow 10 (-d.exponent).toNat
  if s.closed then s.low * shift ≤ scaled && scaled ≤ s.high * shift
  else s.low * shift < scaled && scaled < s.high * shift

/-- The least `k` with the value below `10 ^ k`, searched for between `-400` and `400`. -/
def Span.magnitude (s : Span) : Int :=
  if s.unit ≤ s.value then
    (Nat.toDigits 10 (s.value / s.unit)).length
  else
    1 - ((List.range 400).find? fun j => s.unit ≤ s.value * Nat.pow 10 j).getD 400

/-- The nearer to the value of its two neighbours among the multiples of `10 ^ exponent` that lie in
the interval; of two equally near ones the even multiple. -/
def Span.nearest? (s : Span) (exponent : Int) : Option Decimal :=
  let num := if 0 ≤ exponent then s.value else s.value * Nat.pow 10 (-exponent).toNat
  let den := if 0 ≤ exponent then s.unit * Nat.pow 10 exponent.toNat else s.unit
  let below : Decimal := ⟨num / den, exponent⟩
  let above : Decimal := ⟨num / den + 1, exponent⟩
  let rest := 2 * (num % den)
  let downFirst := rest < den || (rest == den && (num / den) % 2 == 0)
  match s.contains below, s.contains above with
  | true, true => some (if downFirst then below else above)
  | true, false => some below
  | false, true => some above
  | false, false => none

/-- The decimal without zeros at the end of its digits. -/
def normalize (d : Decimal) : Decimal :=
  if h : d.digits ≠ 0 ∧ d.digits % 10 = 0 then
    normalize ⟨d.digits / 10, d.exponent + 1⟩
  else
    d
termination_by d.digits
decreasing_by exact Nat.div_lt_self (Nat.pos_of_ne_zero h.1) (by decide)

/-- The shortest decimal in the interval. -/
def Span.shortest (s : Span) : Decimal :=
  let k := s.magnitude
  let candidates := (List.range 17).findSome? fun (n : Nat) => s.nearest? (k - (n + 1))
  (candidates.getD ⟨0, 0⟩).normalize

/-- The interval of a positive finite double, from the bits of its binary form. -/
def spanOfBits (bits : UInt64) : Span :=
  let biased := (bits >>> 52).toNat % 2048
  let fraction := bits.toNat % Nat.pow 2 52
  let significand := if biased = 0 then fraction else fraction + Nat.pow 2 52
  let exponent : Int := (if biased = 0 then 1 else biased) - 1077
  let lowGap := if fraction = 0 ∧ 1 < biased then 1 else 2
  let scale := Nat.pow 2 exponent.toNat
  { low := (4 * significand - lowGap) * scale
    value := 4 * significand * scale
    high := (4 * significand + 2) * scale
    unit := Nat.pow 2 (-exponent).toNat
    closed := significand % 2 = 0 }

/-- The shortest decimal that reads back as the positive finite double. -/
def shortest (x : Float) : Decimal :=
  (spanOfBits x.toBits).shortest

end Decimal

end SchemaWorkbench
