import ControlPlane.Json.Basic
import ControlPlane.Json.Shortest
import ControlPlane.Text.Digits

/-!
# Reading JSON text

`Json.parse` reads one value with nothing but blanks around it. Whole numbers from -2⁶³ up to 2⁶⁴ are
read exactly; any other number, a negative zero too, is rounded to the binary64 format and kept as the
shortest text that stands for it. What is spelled by the rules and stands for no value is read as
`unreadable`; `Json.read` refuses it.
-/

namespace ControlPlane.Json

/-- Why a text is not JSON. -/
inductive ParseError where
  | unexpectedEnd
  | unexpected (c : Char)
  | trailing (c : Char)
  | controlCharacter (c : Char)
  | badEscape
  | badNumber
  /-- A part of the text stands for no value. -/
  | unreadable
deriving DecidableEq

/-- The wording of an error. -/
def ParseError.message : ParseError → String
  | .unexpectedEnd => "the text ends inside a value"
  | .unexpected c => "unexpected character " ++ String.singleton c
  | .trailing c => "character after the value: " ++ String.singleton c
  | .controlCharacter _ => "control character in a string"
  | .badEscape => "invalid escape"
  | .badNumber => "invalid number"
  | .unreadable => "part of the text stands for no value"

/-- How deep lists and objects may nest. -/
def nestingLimit : Nat := 127

/-- What a step has read, and the characters after it. -/
abbrev Read (α : Type) := α × List Char

def isBlank (c : Char) : Bool :=
  c = ' ' || c = '\n' || c = '\t' || c = '\r'

def skipBlanks (cs : List Char) : List Char :=
  cs.dropWhile isBlank

/-- The number that four hexadecimal digits spell. -/
def hexQuad (a b c d : Char) : Option Nat := do
  return (((← Text.hexValue a) * 16 + (← Text.hexValue b)) * 16 + (← Text.hexValue c)) * 16 +
    (← Text.hexValue d)

/-- The code point of a one-letter escape. -/
def letterEscape : Char → Option Nat
  | '"' => some 0x22
  | '\\' => some 0x5C
  | '/' => some 0x2F
  | 'b' => some 0x08
  | 'f' => some 0x0C
  | 'n' => some 0x0A
  | 'r' => some 0x0D
  | 't' => some 0x09
  | _ => none

/-- The code points that a string spells up to its closing quote; an escape may spell half a
character. -/
def stringBody : List Char → Except ParseError (Read (List Nat))
  | [] => .error .unexpectedEnd
  | '"' :: rest => .ok ([], rest)
  | '\\' :: 'u' :: a :: b :: c :: d :: rest =>
    match hexQuad a b c d with
    | none => .error .badEscape
    | some n => do
      let (s, rest) ← stringBody rest
      return (n :: s, rest)
  | '\\' :: c :: rest =>
    match letterEscape c with
    | none => .error .badEscape
    | some n => do
      let (s, rest) ← stringBody rest
      return (n :: s, rest)
  | c :: rest =>
    if c = '\\' then .error .unexpectedEnd
    else if c.toNat < 32 then .error (.controlCharacter c)
    else do
      let (s, rest) ← stringBody rest
      return (c.toNat :: s, rest)

/-- Whether a code point is the first half of a character beyond U+FFFF. -/
def isFirstHalf (n : Nat) : Bool :=
  0xD800 ≤ n && n ≤ 0xDBFF

/-- Whether a code point is the second half of a character beyond U+FFFF. -/
def isSecondHalf (n : Nat) : Bool :=
  0xDC00 ≤ n && n ≤ 0xDFFF

/-- The characters that code points spell. Two halves make one character, and neither may stand
alone. -/
def joinHalves : List Nat → Option (List Char)
  | [] => some []
  | n :: rest =>
    if isSecondHalf n then none
    else if isFirstHalf n then
      match rest with
      | m :: rest =>
        if isSecondHalf m then
          (joinHalves rest).map (Char.ofNat (0x10000 + (n - 0xD800) * 0x400 + (m - 0xDC00)) :: ·)
        else none
      | [] => none
    else (joinHalves rest).map (Char.ofNat n :: ·)

/-- The text that code points spell. -/
def textOf? (points : List Nat) : Option String :=
  (joinHalves points).map String.ofList

/-- The object with these members, if all their names can be read. -/
def objectOf (members : List (Option String × Json)) : Json :=
  match members.mapM fun (name, v) => name.map (·, v) with
  | some members => .obj members
  | none => .unreadable

/-- A fraction, when the text goes on with one. -/
def fraction : List Char → Except ParseError (Read (List Char))
  | '.' :: rest =>
    let digits := rest.takeWhile Char.isDigit
    if digits.isEmpty then .error .badNumber
    else .ok ('.' :: digits, rest.dropWhile Char.isDigit)
  | rest => .ok ([], rest)

/-- An exponent, when the text goes on with one. -/
def exponent : List Char → Except ParseError (Read (List Char))
  | e :: rest =>
    if e = 'e' || e = 'E' then
      let sign := rest.takeWhile fun c => c = '+' || c = '-'
      let tail := rest.dropWhile fun c => c = '+' || c = '-'
      let digits := tail.takeWhile Char.isDigit
      if sign.length > 1 || digits.isEmpty then .error .badNumber
      else .ok (e :: sign ++ digits, tail.dropWhile Char.isDigit)
    else .ok ([], e :: rest)
  | [] => .ok ([], [])

/-- The power of ten that an exponent spells, zero when there is none. -/
def powerOf : List Char → Int
  | _ :: '-' :: digits => -Text.decimalValue digits
  | _ :: '+' :: digits => Text.decimalValue digits
  | _ :: digits => Text.decimalValue digits
  | [] => 0

/-- The whole number with a sign before its digits, if it is neither a negative zero nor out of the range
that is kept exactly. -/
def whole? (negative : Bool) (n : Nat) : Option Int :=
  if negative then
    if 0 < n && n ≤ 9223372036854775808 then some (-n) else none
  else if n < Magnitude.significandLimit then some n
  else none

/-- A number, from its sign on. -/
def number (cs : List Char) : Except ParseError (Read Json) := do
  let negative := cs.head? = some '-'
  let body := if negative then cs.tail else cs
  let whole := body.takeWhile Char.isDigit
  if whole.isEmpty || (whole.length > 1 && whole.head? = some '0') then
    throw .badNumber
  let (frac, rest) ← fraction (body.dropWhile Char.isDigit)
  let (exp, rest) ← exponent rest
  let exact := if frac.isEmpty && exp.isEmpty then whole? negative (Text.decimalValue whole) else none
  match exact with
  | some n => return (.int n, rest)
  | none =>
    let sign := if negative then ['-'] else []
    match Magnitude.ofDigits? whole (frac.drop 1) (powerOf exp) with
    | some a => return (.decimal (String.ofList (sign ++ Magnitude.text a)), rest)
    | none => return (.unreadable, rest)

/-- The rest of a word after its first letter. -/
def word (expected : List Char) (j : Json) (cs : List Char) : Except ParseError (Read Json) :=
  if expected.isPrefixOf cs then .ok (j, cs.drop expected.length)
  else match cs with
    | [] => .error .unexpectedEnd
    | c :: _ => .error (.unexpected c)

mutual

/-- A value, with blanks before it, in which lists and objects may nest `depth` deep. Every step takes
one unit of `fuel`. -/
def value (fuel depth : Nat) (cs : List Char) : Except ParseError (Read Json) :=
  match fuel with
  | 0 => .error .unexpectedEnd
  | fuel + 1 =>
    match skipBlanks cs with
    | [] => .error .unexpectedEnd
    | 'n' :: rest => word ['u', 'l', 'l'] .null rest
    | 't' :: rest => word ['r', 'u', 'e'] (.bool true) rest
    | 'f' :: rest => word ['a', 'l', 's', 'e'] (.bool false) rest
    | '"' :: rest => do
      let (points, rest) ← stringBody rest
      return ((textOf? points).elim .unreadable .str, rest)
    | '[' :: rest => do
      let (l, rest) ← items fuel (depth - 1) rest
      return (if depth = 0 then .unreadable else .arr l, rest)
    | '{' :: rest => do
      let (l, rest) ← members fuel (depth - 1) rest
      return (if depth = 0 then .unreadable else objectOf l, rest)
    | c :: rest =>
      if c = '-' || c.isDigit then number (c :: rest) else .error (.unexpected c)

/-- The items of a list and its closing bracket. -/
def items (fuel depth : Nat) (cs : List Char) : Except ParseError (Read (List Json)) :=
  match fuel with
  | 0 => .error .unexpectedEnd
  | fuel + 1 =>
    match skipBlanks cs with
    | ']' :: rest => .ok ([], rest)
    | cs => moreItems fuel depth cs

/-- One item of a list or more, and the closing bracket. -/
def moreItems (fuel depth : Nat) (cs : List Char) : Except ParseError (Read (List Json)) :=
  match fuel with
  | 0 => .error .unexpectedEnd
  | fuel + 1 => do
    let (j, rest) ← value fuel depth cs
    match skipBlanks rest with
    | [] => .error .unexpectedEnd
    | ']' :: rest => return ([j], rest)
    | ',' :: rest =>
      let (l, rest) ← moreItems fuel depth rest
      return (j :: l, rest)
    | c :: _ => .error (.unexpected c)

/-- The members of an object and its closing brace. -/
def members (fuel depth : Nat) (cs : List Char) :
    Except ParseError (Read (List (Option String × Json))) :=
  match fuel with
  | 0 => .error .unexpectedEnd
  | fuel + 1 =>
    match skipBlanks cs with
    | '}' :: rest => .ok ([], rest)
    | cs => moreMembers fuel depth cs

/-- One member of an object or more, and the closing brace. -/
def moreMembers (fuel depth : Nat) (cs : List Char) :
    Except ParseError (Read (List (Option String × Json))) :=
  match fuel with
  | 0 => .error .unexpectedEnd
  | fuel + 1 =>
    match skipBlanks cs with
    | [] => .error .unexpectedEnd
    | '"' :: rest => do
      let (points, rest) ← stringBody rest
      match skipBlanks rest with
      | [] => .error .unexpectedEnd
      | ':' :: rest =>
        let (j, rest) ← value fuel depth rest
        match skipBlanks rest with
        | [] => .error .unexpectedEnd
        | '}' :: rest => return ([(textOf? points, j)], rest)
        | ',' :: rest =>
          let (l, rest) ← moreMembers fuel depth rest
          return ((textOf? points, j) :: l, rest)
        | c :: _ => .error (.unexpected c)
      | c :: _ => .error (.unexpected c)
    | c :: _ => .error (.unexpected c)

end

/-- The value that a text spells. A value takes two units of fuel for each of its characters at
most. -/
def parse (text : String) : Except ParseError Json := do
  let cs := text.toList
  let (j, rest) ← value (2 * cs.length + 1) nestingLimit cs
  match skipBlanks rest with
  | [] => return j
  | c :: _ => throw (.trailing c)

/-- The value that a text spells, if every part of it stands for one. -/
def read (text : String) : Except ParseError Json := do
  let j ← parse text
  if j.isReadable then return j else throw .unreadable

end ControlPlane.Json
