import ControlPlane.Text.CaseTable

/-!
# Lower-case text

`lowerCase` maps every character to its full lower-case form: one character by the table, two for
the dotted capital I, and for a capital sigma the final form at the end of a word and the medial
form elsewhere.
-/

namespace ControlPlane.Text

/-- The lower-case form of a character, whatever stands around it. -/
def lowerChar (c : Char) : List Char :=
  if c = 'İ' then ['i', '\u0307']
  else
    match lowerRuns.find? fun r =>
        r.first ≤ c.toNat && c.toNat ≤ r.last && (c.toNat - r.first) % r.stride = 0 with
    | some r => [Char.ofNat (c.toNat + r.distance).toNat]
    | none => [c]

/-- Whether the first character that is not case-ignorable is cased. -/
def reachesCased (cs : List Char) : Bool :=
  match (cs.dropWhile caseIgnorable.contains).head? with
  | some c => cased.contains c
  | none => false

/-- Lower-cases `rest`, given the characters before it, nearest first. -/
def lowerFrom (before : List Char) : List Char → List Char
  | [] => []
  | c :: rest =>
    let mapped :=
      if c = 'Σ' then
        if reachesCased before && !reachesCased rest then ['ς'] else ['σ']
      else lowerChar c
    mapped ++ lowerFrom (c :: before) rest

/-- The text in lower case. -/
def lowerCase (s : String) : String :=
  String.ofList (lowerFrom [] s.toList)

end ControlPlane.Text
