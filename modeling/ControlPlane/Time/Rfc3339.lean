import ControlPlane.Text.Digits
import ControlPlane.Text.Ranges
import ControlPlane.Time.Instant

/-!
# Instants as text

Instants are written in UTC as RFC 3339 gives them, with whole seconds or with microseconds, finer
digits being cut. They are read with any offset; blanks may stand between the parts, `T` may be a
small letter or a space, and a year outside four digits carries its sign.
-/

namespace ControlPlane

/-- How finely an instant is written. -/
inductive Precision where
  | seconds
  | micros

namespace Rfc3339

/-! ## Writing -/

/-- The decimal digits of `n`, filled up with zeros to `width`. -/
def padded (width n : Nat) : List Char :=
  let digits := Nat.toDigits 10 n
  List.replicate (width - digits.length) '0' ++ digits

/-- A year with four digits, and its sign where four do not do. -/
def yearText (year : Int) : List Char :=
  if 0 ≤ year ∧ year ≤ 9999 then padded 4 year.toNat
  else (if year < 0 then '-' else '+') :: padded 4 year.natAbs

/-- The text of an instant. -/
def text (precision : Precision) (t : Instant) : String :=
  let date := civilOfDay t.day
  let clock := t.secondOfDay.toNat
  let leap := if t.inLeapSecond then 1 else 0
  let fraction := match precision with
    | .seconds => []
    | .micros => '.' :: padded 6 (t.nano % nanosPerSecond / 1000)
  String.ofList <|
    yearText date.year ++ '-' :: padded 2 date.month ++ '-' :: padded 2 date.day ++
    'T' :: padded 2 (clock / 3600) ++ ':' :: padded 2 (clock / 60 % 60) ++
    ':' :: padded 2 (clock % 60 + leap) ++ fraction ++ ['Z']

/-! ## Reading -/

/-- A number of at most `width` digits, with blanks before it. -/
def number (width : Nat) (cs : List Char) : Option (Nat × List Char) :=
  let cs := Text.trimStart cs
  let digits := (cs.take width).takeWhile Char.isDigit
  if digits.isEmpty then none else some (Text.decimalValue digits, cs.drop digits.length)

/-- A year: four digits at most, or a sign and any number of digits. -/
def year (cs : List Char) : Option (Int × List Char) :=
  let signed (rest : List Char) : Option (Nat × List Char) :=
    let digits := rest.takeWhile Char.isDigit
    if digits.isEmpty then none else some (Text.decimalValue digits, rest.drop digits.length)
  match Text.trimStart cs with
  | '-' :: rest => (signed rest).map fun (n, rest) => (-(n : Int), rest)
  | '+' :: rest => (signed rest).map fun (n, rest) => ((n : Int), rest)
  | cs => (number 4 cs).map fun (n, rest) => ((n : Int), rest)

/-- The character `c`, with blanks before it. -/
def mark (c : Char) (cs : List Char) : Option (List Char) :=
  match Text.trimStart cs with
  | d :: rest => if d = c then some rest else none
  | [] => none

/-- A fraction of a second in nanoseconds; digits after the ninth are cut. -/
def fraction : List Char → Option (Nat × List Char)
  | '.' :: rest =>
    let digits := rest.takeWhile Char.isDigit
    let kept := digits.take 9
    if kept.isEmpty then none
    else some (Text.decimalValue kept * Nat.pow 10 (9 - kept.length), rest.drop digits.length)
  | rest => some (0, rest)

/-- Two digits. -/
def twoDigits : List Char → Option (Nat × List Char)
  | a :: b :: rest => if a.isDigit && b.isDigit then some (Text.decimalValue [a, b], rest) else none
  | _ => none

/-- An offset from UTC in seconds. -/
def offset (cs : List Char) : Option (Int × List Char) :=
  match cs with
  | 'Z' :: rest => some (0, rest)
  | 'z' :: rest => some (0, rest)
  | sign :: rest =>
    if (cs.take 3).map Char.toUpper = ['U', 'T', 'C'] then some (0, cs.drop 3)
    else if sign = '+' ∨ sign = '-' ∨ sign = '−' then do
      let (hours, rest) ← twoDigits rest
      let (minutes, rest) ←
        twoDigits (rest.dropWhile fun c => c = ':' || Text.whiteSpace.contains c)
      if minutes ≥ 60 ∨ hours ≥ 24 then none
      else
        let seconds : Int := hours * 3600 + minutes * 60
        return (if sign = '+' then seconds else -seconds, rest)
    else none
  | [] => none

/-- Whether the calendar reaches this year. -/
def yearInRange (year : Int) : Bool :=
  -262143 ≤ year && year ≤ 262142

/-- The instant that a text names. The calendar must reach its date at the offset as well as in UTC. -/
def parse? (s : String) : Option Instant := do
  let (y, cs) ← year s.toList
  let cs ← mark '-' cs
  let (mo, cs) ← number 2 cs
  let cs ← mark '-' cs
  let (d, cs) ← number 2 cs
  let date : CivilDate := ⟨y, mo, d⟩
  let cs ← match cs with
    | c :: rest => if c = 'T' ∨ c = 't' ∨ c = ' ' then some rest else none
    | [] => none
  let (h, cs) ← number 2 cs
  let cs ← mark ':' cs
  let (mi, cs) ← number 2 cs
  let cs ← mark ':' cs
  let (sec, cs) ← number 2 cs
  let (nano, cs) ← fraction cs
  let (east, cs) ← offset (Text.trimStart cs)
  if !date.isValid || !yearInRange y || h ≥ 24 || mi ≥ 60 || sec > 60 ||
      !(Text.trimStart cs).isEmpty then
    none
  else
    let clock : Int := h * 3600 + mi * 60 + min sec 59
    let leap := if sec = 60 then nanosPerSecond else 0
    let t : Instant := ⟨dayOfCivil date * 86400 + clock - east, nano + leap⟩
    if yearInRange (civilOfDay t.day).year then some t else none

end Rfc3339

end ControlPlane
