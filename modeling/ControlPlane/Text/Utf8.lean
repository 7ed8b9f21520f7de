/-!
# Text from bytes

Bytes are read as UTF-8. A byte that can neither begin a character nor go on with one is read as the
replacement character, and so is the longest part of the bytes that begins a character and is not gone
on with.
-/

namespace ControlPlane.Text

/-- What stands for bytes that make no character. -/
def replacement : Char := Char.ofNat 0xFFFD

/-- The beginning of a character: the bits read so far, how many bytes are still to come, and the
range of the next one. -/
structure Unfinished where
  bits : Nat
  awaited : Nat
  least : UInt8 := 0x80
  greatest : UInt8 := 0xBF

/-- The beginning of a character that a first byte makes, when others must follow it. The range of the
second byte keeps out what has a shorter form, what is half a character and what is beyond U+10FFFF. -/
def Unfinished.ofFirst? (b : UInt8) : Option Unfinished :=
  let n := b.toNat
  if 0xC2 ≤ n ∧ n ≤ 0xDF then some { bits := n - 0xC0, awaited := 1 }
  else if n = 0xE0 then some { bits := 0, awaited := 2, least := 0xA0 }
  else if n = 0xED then some { bits := n - 0xE0, awaited := 2, greatest := 0x9F }
  else if 0xE1 ≤ n ∧ n ≤ 0xEF then some { bits := n - 0xE0, awaited := 2 }
  else if n = 0xF0 then some { bits := 0, awaited := 3, least := 0x90 }
  else if 0xF1 ≤ n ∧ n ≤ 0xF3 then some { bits := n - 0xF0, awaited := 3 }
  else if n = 0xF4 then some { bits := 4, awaited := 3, greatest := 0x8F }
  else none

/-- The characters that a byte finishes between two characters, and what it begins. -/
def readFirst (b : UInt8) : List Char × Option Unfinished :=
  if b < 0x80 then ([Char.ofNat b.toNat], none)
  else
    match Unfinished.ofFirst? b with
    | some u => ([], some u)
    | none => ([replacement], none)

/-- The characters that a byte finishes after what has begun, and what it begins or goes on with. -/
def readByte (begun : Option Unfinished) (b : UInt8) : List Char × Option Unfinished :=
  match begun with
  | none => readFirst b
  | some u =>
    if u.least ≤ b ∧ b ≤ u.greatest then
      let bits := u.bits * 64 + (b.toNat - 0x80)
      if u.awaited ≤ 1 then ([Char.ofNat bits], none)
      else ([], some { bits, awaited := u.awaited - 1 })
    else
      let (cs, begun) := readFirst b
      (replacement :: cs, begun)

/-- The characters that bytes spell after what has begun. -/
def charsOfBytes (begun : Option Unfinished) : List UInt8 → List Char
  | [] => if begun.isSome then [replacement] else []
  | b :: rest =>
    let (cs, begun) := readByte begun b
    cs ++ charsOfBytes begun rest

/-- The text that bytes spell. -/
def ofBytes (bytes : List UInt8) : String :=
  String.ofList (charsOfBytes none bytes)

end ControlPlane.Text
