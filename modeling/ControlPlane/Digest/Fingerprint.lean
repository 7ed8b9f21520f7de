import ControlPlane.Digest.Sha256
import ControlPlane.Json.Form
import ControlPlane.Json.Printer

/-!
# Fingerprints

A fingerprint is sixteen hexadecimal digits: the first eight bytes of the SHA-256 digest of a value's
canonical text. It does not depend on the order of an object's members.
-/

namespace ControlPlane

/-- The text that stands for a value in its fingerprint, whatever the order of members. -/
def Json.canonicalText (j : Json) : String :=
  j.canonical.render

/-- The bytes that are digested. -/
def Json.canonicalBytes (j : Json) : List UInt8 :=
  j.canonicalText.toUTF8.toList

/-- Two hexadecimal digits for each byte. -/
def hexText (bytes : List UInt8) : String :=
  String.ofList <| bytes.flatMap fun b =>
    [Text.hexDigit (b.toNat / 16), Text.hexDigit (b.toNat % 16)]

theorem length_hexText (bytes : List UInt8) : (hexText bytes).length = 2 * bytes.length := by
  rw [hexText, String.length_ofList]
  induction bytes with
  | nil => rfl
  | cons b rest ih =>
    rw [List.flatMap_cons, List.length_append, ih, List.length_cons]
    simp only [List.length_cons, List.length_nil]
    omega

/-- The fingerprint of a JSON value. -/
def Json.fingerprint (j : Json) : String :=
  hexText ((Sha256.digest j.canonicalBytes).take 8)

/-- A fingerprint has sixteen digits, whatever the value is. -/
theorem Json.length_fingerprint (j : Json) : j.fingerprint.length = 16 := by
  rw [fingerprint, length_hexText, List.length_take, Sha256.length_digest]
  rfl

/-- The fingerprint of a value's JSON form. -/
def fingerprint {α : Type} [JsonForm α] (a : α) : String :=
  (encode a).fingerprint

end ControlPlane
