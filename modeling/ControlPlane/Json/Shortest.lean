import ControlPlane.Json.Magnitude

/-!
# The shortest text of a number

A number of the binary64 format is written with the fewest decimal digits that read back as it; of the
decimals with that many digits, the nearest one is taken. A point stands within or beside the digits
as long as it comes after the sixteenth digit at the latest and no more than four zeros follow it;
other numbers have one digit before the point and an exponent with its sign.

* `Magnitude.shortest`: the digits, and where the point stands.
* `Magnitude.text`: the text.
-/

namespace ControlPlane.Json.Magnitude

/-- How many digits stand before the point of a number; below zero, how many zeros come between the
point and the first digit. -/
def pointOf (a : Nat) : Int :=
  (Nat.toDigits 10 (Nat.pow 10 340 * a / one)).length - 340

/-- The decimal with `count` digits that reads back as `a` and is nearest to it, as a whole number of
units of its last place. What reads back lies between the midpoints to the numbers next to `a`, and
may be such a midpoint if the last binary digit of `a` is zero. -/
def decimal? (a : Nat) (point : Int) (count : Nat) : Option Nat :=
  let tens := Nat.pow 10 (count - point).toNat
  let unit := 4 * one * Nat.pow 10 (point - count).toNat
  let place := lastPlace a
  let narrow := 1 < place && a = place <<< 52
  let low := (4 * a - if narrow then place else 2 * place) * tens
  let high := (4 * a + 2 * place) * tens
  let readsBack (c : Nat) : Bool :=
    if a / place % 2 = 0 then low ≤ c * unit && c * unit ≤ high
    else low < c * unit && c * unit < high
  let c := nearest (4 * a * tens) unit
  let other := if c * unit ≤ 4 * a * tens then c + 1 else c - 1
  [c, other].find? readsBack

/-- The digits of the shortest decimal that reads back as a number, and how many of them stand before
the point. -/
def shortest (a : Nat) : List Char × Int :=
  let point := pointOf a
  let counts := (List.range 17).map (· + 1)
  match counts.findSome? fun count => (decimal? a point count).map (count, ·) with
  | none => ([], point)
  | some (count, c) =>
    let digits := Nat.toDigits 10 c
    ((digits.reverse.dropWhile (· = '0')).reverse, point + (digits.length - count))

/-- Digits with a point after the first `point` of them, or an exponent with its sign. -/
def layOut (digits : List Char) (point : Int) : List Char :=
  if 0 < point ∧ point ≤ 16 then
    let whole := digits.take point.toNat
    let fraction := digits.drop point.toNat
    whole ++ List.replicate (point.toNat - whole.length) '0' ++
      '.' :: (if fraction.isEmpty then ['0'] else fraction)
  else if -5 < point ∧ point ≤ 0 then
    '0' :: '.' :: List.replicate (-point).toNat '0' ++ digits
  else
    let fraction := digits.drop 1
    digits.take 1 ++ (if fraction.isEmpty then [] else '.' :: fraction) ++
      'e' :: (if 0 < point then ['+'] else []) ++ (point - 1).repr.toList

/-- The text of a number. -/
def text (a : Nat) : List Char :=
  if a = 0 then ['0', '.', '0']
  else layOut (shortest a).1 (shortest a).2

end ControlPlane.Json.Magnitude
