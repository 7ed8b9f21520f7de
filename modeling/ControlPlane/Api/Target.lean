import ControlPlane.Text.Digits
import ControlPlane.Text.Utf8

/-!
# Targets of requests

The target of a request is written as one text: a path, and after a question mark a query of names
with values. In a query, letters, digits and four marks stand for themselves, a space is a plus, and
any other byte is spelled by two hexadecimal digits. The names in a path are written as they are: a
question mark in a name begins the query, a hash ends the target, and some characters make it
impossible.

* `Target.ofText?`: the target that a text stands for, and `Target.query` what it asks.
* `Target.withQuery`: a path with a query after it.
-/

namespace ControlPlane

/-- Where a request goes, and what it asks there. -/
structure Target where
  path : String
  queryText : String
deriving DecidableEq

namespace Target

/-! ## Writing -/

/-- A byte as a query spells it. -/
def spellByte (b : UInt8) : List Char :=
  let c := Char.ofNat b.toNat
  if c.isAlphanum || c = '*' || c = '-' || c = '.' || c = '_' then [c]
  else if c = ' ' then ['+']
  else ['%', (Text.hexDigit (b.toNat / 16)).toUpper, (Text.hexDigit (b.toNat % 16)).toUpper]

/-- A text as a query spells it. -/
def spell (s : String) : List Char :=
  s.toUTF8.toList.flatMap spellByte

/-- A path with a query after it. Every pair of the query follows an ampersand, the first one too, so
that it stands apart from what a question mark in a name has begun. -/
def withQuery (path : String) (query : List (String × String)) : String :=
  path ++ "?" ++ String.ofList (query.flatMap fun p => '&' :: spell p.1 ++ '=' :: spell p.2)

/-! ## Reading -/

/-- The bytes that a part of a query spells. -/
def bytesOf : List Char → List UInt8
  | [] => []
  | '+' :: rest => 32 :: bytesOf rest
  | '%' :: a :: b :: rest =>
    match Text.hexValue a, Text.hexValue b with
    | some m, some n => UInt8.ofNat (m * 16 + n) :: bytesOf rest
    | _, _ => 37 :: bytesOf (a :: b :: rest)
  | c :: rest => (String.singleton c).toUTF8.toList ++ bytesOf rest

/-- The text that a part of a query spells. -/
def unspell (cs : List Char) : String :=
  Text.ofBytes (bytesOf cs)

/-- The parts of a text between the marks in it. -/
def partsBetween (mark : Char) : List Char → List (List Char)
  | [] => [[]]
  | c :: rest =>
    if c = mark then [] :: partsBetween mark rest
    else
      match partsBetween mark rest with
      | part :: parts => (c :: part) :: parts
      | [] => [[c]]

/-- The name and the value that a part of a query binds, if it binds any. -/
def pair? (cs : List Char) : Option (String × String) :=
  if '=' ∈ cs then
    some (unspell (cs.takeWhile (· ≠ '=')), unspell ((cs.dropWhile (· ≠ '=')).drop 1))
  else none

/-- The names with values that a query binds. -/
def query (t : Target) : List (String × String) :=
  (partsBetween '&' t.queryText.toList).filterMap pair?

/-- Whether a character may stand in a path. -/
def mayStandInPath (c : Char) : Bool :=
  ' ' < c && c ≠ '\x7f' && c ≠ '<' && c ≠ '>' && c ≠ '`'

/-- Whether a character may stand in a query. -/
def mayStandInQuery (c : Char) : Bool :=
  ' ' < c && c ≠ '\x7f' && c ≠ '<' && c ≠ '>' && c ≠ '"'

/-- How many bytes a target may have. -/
def lengthLimit : Nat := 65534

/-- The target that a text stands for. -/
def ofText? (text : String) : Option Target :=
  let cs := text.toList.takeWhile (· ≠ '#')
  let path := cs.takeWhile (· ≠ '?')
  let query := (cs.dropWhile (· ≠ '?')).drop 1
  if text.utf8ByteSize ≤ lengthLimit && path.all mayStandInPath && query.all mayStandInQuery then
    some ⟨String.ofList path, String.ofList query⟩
  else none

end Target

end ControlPlane
