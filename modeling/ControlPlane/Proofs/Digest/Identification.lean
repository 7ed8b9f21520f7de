import ControlPlane.Proofs.Json.Rearrangement
import ControlPlane.Proofs.Schema.Sorted
import ControlPlane.Rollout.Plan

/-!
# What a fingerprint tells

The bytes that are digested identify a value up to the order of members, and an instance's template
altogether. A fingerprint keeps eight bytes of the digest, so it may miss a difference, and this is the
only way in which it does: an instance that was written from another template is taken for an up-to-date
one exactly when the two digests agree on the bytes that are kept (`canonicalBytes_identify`).
-/

namespace ControlPlane

/-! ## Hexadecimal text -/

theorem hexDigit_inj : ∀ m < 16, ∀ n < 16, Text.hexDigit m = Text.hexDigit n → m = n := by
  decide

/-- Two digits tell a byte. -/
theorem byte_eq_of_hexDigits {a b : UInt8}
    (hhigh : Text.hexDigit (a.toNat / 16) = Text.hexDigit (b.toNat / 16))
    (hlow : Text.hexDigit (a.toNat % 16) = Text.hexDigit (b.toNat % 16)) : a = b := by
  have ha := a.toNat_lt
  have hb := b.toNat_lt
  have hquot := hexDigit_inj _ (by omega) _ (by omega) hhigh
  have hrem := hexDigit_inj _ (by omega) _ (by omega) hlow
  exact UInt8.toNat_inj.1 (by omega)

/-- Bytes are told by their hexadecimal text. -/
theorem hexText_injective {xs ys : List UInt8} (h : hexText xs = hexText ys) : xs = ys := by
  have hdigits := String.ofList_injective h
  clear h
  induction xs generalizing ys with
  | nil =>
    cases ys with
    | nil => rfl
    | cons => cases hdigits
  | cons a xs ih =>
    cases ys with
    | nil => cases hdigits
    | cons b ys =>
      obtain ⟨hhigh, hrest⟩ := List.cons.inj hdigits
      obtain ⟨hlow, hrest⟩ := List.cons.inj hrest
      rw [byte_eq_of_hexDigits hhigh hlow, ih hrest]

/-! ## Collisions -/

/-- Bytes that differ, and whose digests agree on what a fingerprint keeps. -/
structure Collision (x y : List UInt8) : Prop where
  differ : x ≠ y
  agree : (Sha256.digest x).take 8 = (Sha256.digest y).take 8

/-- Two values have one fingerprint when the kept parts of their digests agree. -/
theorem fingerprint_eq_iff {v w : Json} :
    v.fingerprint = w.fingerprint ↔
      (Sha256.digest v.canonicalBytes).take 8 = (Sha256.digest w.canonicalBytes).take 8 :=
  ⟨hexText_injective, congrArg hexText⟩

/-- An instance is up to date when what it records is the fingerprint of the template. -/
theorem Deployment.isOutdated_eq_false_iff {d : Deployment} {i : Instance} {c : InstanceControl}
    (h : i.spec.control = some c) :
    d.isOutdated i = false ↔ c.templateHash = fingerprint d.spec.template := by
  rw [isOutdated, h, templateHash]
  exact bne_eq_false_iff_eq

/-! ## Identification -/

/-- The digested bytes of a type's forms tell its values apart. -/
theorem canonicalBytes_encode_inj {α : Type} [JsonForm α] [SortableForm α] {a b : α} :
    (encode a).canonicalBytes = (encode b).canonicalBytes ↔ a = b := by
  rw [Json.canonicalBytes_inj (isExact_encode a) (isExact_encode b)]
  exact ⟨canonical_encode_injective, fun h => h ▸ rfl⟩

/-- The bytes that are digested are the same for two values exactly when the values differ in the order
of members only, and for two templates exactly when they are equal. So an instance written from another
template than the deployment's passes for an up-to-date one only where two texts collide. -/
theorem canonicalBytes_identify :
    (∀ v w : Json, v.isExact = true → w.isExact = true → v.bindsOnce = true → w.bindsOnce = true →
      (v.canonicalBytes = w.canonicalBytes ↔ v.Rearranged w)) ∧
    (∀ t u : InstanceTemplate, (encode t).canonicalBytes = (encode u).canonicalBytes ↔ t = u) ∧
    ∀ (d : Deployment) (i : Instance) (c : InstanceControl) (t : InstanceTemplate),
      i.spec.control = some c → c.templateHash = fingerprint t → t ≠ d.spec.template →
        (d.isOutdated i = false ↔
          Collision (encode t).canonicalBytes (encode d.spec.template).canonicalBytes) := by
  refine ⟨fun v w hv hw hvo hwo => ?_, fun t u => canonicalBytes_encode_inj, ?_⟩
  · rw [Json.canonicalBytes_inj hv hw, Json.canonical_eq_iff hvo hwo]
  · intro d i c t hc hhash hne
    have hbytes : (encode t).canonicalBytes ≠ (encode d.spec.template).canonicalBytes :=
      fun h => hne (canonicalBytes_encode_inj.1 h)
    rw [Deployment.isOutdated_eq_false_iff hc, hhash]
    constructor
    · intro h
      exact ⟨hbytes, fingerprint_eq_iff.1 h⟩
    · intro h
      exact fingerprint_eq_iff.2 h.agree

/-- A template that runs one container. -/
def templateOf (image : String) : InstanceTemplate where
  spec := { runtime := { sandbox := some { containers := [{ name := "app", image }] } } }

/-- A deployment with such a template. -/
def deploymentOf (image : String) : Deployment where
  metadata := { name := some "web-us-dfw", ns := some "shop" }
  spec := {
    workload := ⟨"web", "w1"⟩
    placement := "us"
    cityCode := "DFW"
    template := templateOf image
    scale := { minReplicas := 1 } }

/-- An instance that was written from such a template. -/
def instanceOf (image : String) : Instance where
  metadata := { name := some "web-us-dfw-0", ns := some "shop" }
  spec := { control := some { templateHash := fingerprint (templateOf image) } }

/-- Two spellings of one object. -/
def twoSpellings : Json × Json :=
  (.obj [("a", .int (-1)), ("b", .obj [("x", .str "ä \"\\\n"), ("y", .arr [.null, .int 2])])],
    .obj [("b", .obj [("y", .arr [.null, .int 2]), ("x", .str "ä \"\\\n")]), ("a", .int (-1))])

theorem rearranged_twoSpellings : twoSpellings.1.Rearranged twoSpellings.2 := by
  have hitems : Json.Rearranged (.arr [.null, .int 2]) (.arr [.null, .int 2]) :=
    .arr (.cons .null (.cons (.int 2) .nil))
  have hinner : Json.Rearranged (.obj [("x", .str "ä \"\\\n"), ("y", .arr [.null, .int 2])])
      (.obj [("y", .arr [.null, .int 2]), ("x", .str "ä \"\\\n")]) :=
    .obj (.cons "x" (.str _) (.cons "y" hitems .nil)) (.swap ..)
  exact .obj (.cons "a" (.int (-1)) (.cons "b" hinner .nil)) (.swap ..)

/-- The two spellings are digested alike, and the texts of two images are not: the change from one to
the other goes unnoticed only if they collide. -/
theorem canonicalBytes_identify_images :
    twoSpellings.1.canonicalBytes = twoSpellings.2.canonicalBytes ∧
    (encode (templateOf "nginx:1.27")).canonicalBytes ≠ (encode (templateOf "nginx:1.28")).canonicalBytes ∧
    ((deploymentOf "nginx:1.28").isOutdated (instanceOf "nginx:1.27") = false ↔
      Collision (encode (templateOf "nginx:1.27")).canonicalBytes
        (encode (templateOf "nginx:1.28")).canonicalBytes) := by
  have hne : templateOf "nginx:1.27" ≠ templateOf "nginx:1.28" := by decide
  refine ⟨?_, ?_, ?_⟩
  · exact (canonicalBytes_identify.1 _ _ (by decide) (by decide) (by decide) (by decide)).2
      rearranged_twoSpellings
  · exact fun h => hne ((canonicalBytes_identify.2.1 _ _).1 h)
  · exact canonicalBytes_identify.2.2 (deploymentOf "nginx:1.28") (instanceOf "nginx:1.27") _ _ rfl
      rfl hne

end ControlPlane
