import ControlPlane.Text.Digits

/-!
# Numbers of the binary64 format

A number of the format, without its sign, is a whole number of steps of 2⁻¹⁰⁷⁴, which is the smallest
number that there is. Of its binary digits only the leading 53 may differ from zero, and a finite
number is below 2¹⁰²⁴.

The text of a number is read in two parts: a significand below 2⁶⁴, from as many of the leading digits
as fit, and a power of ten. Each of the two is rounded to the format, and so is their product or
quotient.

* `Magnitude.ofDigits?`: the number that digits spell, unless it is too large.
-/

namespace ControlPlane.Json.Magnitude

/-! ## Rounding -/

/-- The whole number nearest to `n / d`, a tie going to the even one. -/
def nearest (n d : Nat) : Nat :=
  let twice := 2 * (n % d)
  if d < twice || (twice = d && n / d % 2 = 1) then n / d + 1 else n / d

/-- How much the last of the leading 53 binary digits of `n` counts for. -/
def lastPlace (n : Nat) : Nat :=
  1 <<< (n.log2 + 1 - 53)

/-- `n / d` steps, rounded to the format. -/
def rounded (n d : Nat) : Nat :=
  let place := lastPlace (n / d)
  nearest n (d * place) * place

/-- One, in steps. -/
def one : Nat := 1 <<< 1074

/-- A number above all finite ones, in steps. -/
def limit : Nat := 1 <<< 2098

def ofNat (n : Nat) : Nat :=
  rounded (n * one) 1

def mul (a b : Nat) : Nat :=
  rounded (a * b) one

def div (a b : Nat) : Nat :=
  rounded (a * one) b

/-- A power of ten. -/
def tenTo (n : Nat) : Nat :=
  ofNat (Nat.pow 10 n)

/-! ## Reading -/

/-- Significands stay below this. -/
def significandLimit : Nat := 18446744073709551616

/-- Appends digits to a significand for as long as they fit; the digits that are left over. -/
def extend (significand : Nat) : List Char → Nat × List Char
  | [] => (significand, [])
  | c :: rest =>
    let next := significand * 10 + Text.digitValue c
    if next < significandLimit then extend next rest else (significand, c :: rest)

/-- The greatest power of ten that is finite. -/
def greatestPower : Int := 308

/-- A significand times a power of ten, unless it is too large. A power beyond the greatest one is
divided by in two goes; two divisions by the greatest leave nothing. -/
def scaled (significand : Nat) (power : Int) : Option Nat :=
  let a := ofNat significand
  if a = 0 then some 0
  else if greatestPower < power then none
  else if 0 ≤ power then
    let product := mul a (tenTo power.toNat)
    if product < limit then some product else none
  else if -greatestPower ≤ power then some (div a (tenTo (-power).toNat))
  else if -(2 * greatestPower) ≤ power then
    some (div (div a (tenTo greatestPower.toNat)) (tenTo (-power - greatestPower).toNat))
  else some 0

/-- The number with these digits before and after its point and this exponent, unless it is too
large. -/
def ofDigits? (whole fraction : List Char) (exponent : Int) : Option Nat :=
  let (significand, dropped) := extend 0 whole
  let (significand, cut) := extend significand fraction
  scaled significand (dropped.length - (fraction.length - cut.length) + exponent)

end ControlPlane.Json.Magnitude
