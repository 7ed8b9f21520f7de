import Mathlib.Data.List.Nodup
import ControlPlane.Placement.Desired

/-!
# Names of desired deployments

The name of a desired deployment joins the name of the workload, the placement and the city code in
small letters by hyphens, and each of the three may itself have hyphens. So a name tells where its
parts end only as far as their hyphens are known.

* `deploymentName_eq_iff`: two names are equal when the three texts of the one have the same parts
  between hyphens, taken one after another, as those of the other.
* `deploymentName_inj`: names whose texts have equally many hyphens are equal for equal texts only.
* `desired_name_eq_iff`: what this means for the deployments that workloads want.
* `desired_names_nodup`: when the deployments of one workload have different names.
-/

namespace ControlPlane

namespace Text

/-! ## Hyphens in texts -/

/-- How many hyphens a text has. -/
def hyphens (s : String) : Nat :=
  s.toList.count '-'

/-- The parts of a text between its hyphens. -/
def parts (s : String) : List (List Char) :=
  s.toList.splitOn '-'

theorem parts_join (s t : String) : parts (s ++ "-" ++ t) = parts s ++ parts t := by
  have hl : (s ++ "-" ++ t).toList = s.toList ++ '-' :: t.toList := by
    simp [String.toList_append]
  rw [parts, hl, List.splitOn, List.splitOnP_append_cons _ _ (by decide)]
  rfl

theorem parts_injective : Function.Injective parts := by
  intro s t h
  have hl := congrArg (List.intercalate ['-']) h
  rw [parts, parts, List.intercalate_splitOn, List.intercalate_splitOn] at hl
  exact String.toList_injective hl

theorem length_parts (s : String) : (parts s).length = hyphens s + 1 := by
  unfold parts hyphens
  induction s.toList with
  | nil => rfl
  | cons c rest ih =>
    rw [List.splitOn, List.splitOnP_cons_eq_if_modifyHead, List.count_cons]
    rw [List.splitOn] at ih
    split
    · rw [List.length_cons, ih]
    · rw [List.length_modifyHead, ih]

/-! ## Hyphens in small letters -/

theorem ofNat_ne_hyphen {n : Nat} (h : 45 < n) : Char.ofNat n ≠ '-' := by
  intro e
  have ht : (Char.ofNat n).toNat = 45 := congrArg Char.toNat e
  by_cases hv : n.isValidChar
  · have hn : Char.ofNat n = Char.ofNatAux n hv := dif_pos hv
    have : n = 45 := (congrArg Char.toNat hn).symm.trans ht
    omega
  · have hn : Char.ofNat n = Char.ofNat 0 := dif_neg hv
    exact absurd ((congrArg Char.toNat hn).symm.trans ht) (by decide)

/-- Only the hyphen itself becomes a hyphen. -/
theorem count_hyphen_lowerChar (c : Char) : (lowerChar c).count '-' = [c].count '-' := by
  -- the characters that change lie behind the hyphen, and so do those that they become
  have hruns : ∀ r ∈ lowerRuns, 45 < r.first ∧ 45 < r.first + r.distance := by
    decide +kernel
  unfold lowerChar
  split
  · next h => subst h; decide
  · split
    · next r hr =>
      obtain ⟨hfirst, hlast⟩ := hruns r (List.mem_of_find?_eq_some hr)
      have hin := List.find?_some hr
      simp only [Bool.and_eq_true, decide_eq_true_eq] at hin
      have hc : c ≠ '-' := by
        rintro rfl
        have : ('-' : Char).toNat = 45 := rfl
        omega
      have hne : Char.ofNat (c.toNat + r.distance).toNat ≠ '-' := ofNat_ne_hyphen (by omega)
      rw [List.count_singleton, List.count_singleton]
      simp [hc, hne]
    · rfl

theorem count_hyphen_lowerFrom (before cs : List Char) :
    (lowerFrom before cs).count '-' = cs.count '-' := by
  induction cs generalizing before with
  | nil => rfl
  | cons c rest ih =>
    have hrest : (c :: rest).count '-' = [c].count '-' + rest.count '-' :=
      show ([c] ++ rest).count '-' = _ from List.count_append
    rw [lowerFrom, List.count_append, ih, hrest, Nat.add_right_cancel_iff]
    split
    · next h =>
      subst h
      split <;> rfl
    · exact count_hyphen_lowerChar c

/-- Writing a text in small letters keeps its hyphens. -/
theorem hyphens_lowerCase (s : String) : hyphens (lowerCase s) = hyphens s := by
  rw [hyphens, lowerCase, String.toList_ofList, count_hyphen_lowerFrom, hyphens]

end Text

namespace Workload

open Text (hyphens parts lowerCase)

variable {w w' : Workload} {locations locations' : List Location} {wanted wanted' : List Deployment}
  {d d' : Deployment}

/-! ## Names of deployments -/

theorem parts_deploymentName (workload placement cityCode : String) :
    parts (deploymentName workload placement cityCode) =
      parts workload ++ parts placement ++ parts (lowerCase cityCode) := by
  rw [deploymentName, Text.parts_join, Text.parts_join]

theorem deploymentName_eq_iff {workload placement cityCode workload' placement' cityCode' : String} :
    deploymentName workload placement cityCode = deploymentName workload' placement' cityCode' ↔
      parts workload ++ parts placement ++ parts (lowerCase cityCode) =
        parts workload' ++ parts placement' ++ parts (lowerCase cityCode') := by
  rw [← parts_deploymentName, ← parts_deploymentName, Text.parts_injective.eq_iff]

/-- Where the hyphens in the names of the workloads and in the city codes are equally many, a name
tells what it was made of. -/
theorem deploymentName_inj {workload placement cityCode workload' placement' cityCode' : String}
    (hw : hyphens workload = hyphens workload') (hc : hyphens cityCode = hyphens cityCode') :
    deploymentName workload placement cityCode = deploymentName workload' placement' cityCode' ↔
      workload = workload' ∧ placement = placement' ∧ lowerCase cityCode = lowerCase cityCode' := by
  rw [deploymentName_eq_iff]
  constructor
  · intro h
    have hlast : (parts (lowerCase cityCode)).length = (parts (lowerCase cityCode')).length := by
      rw [Text.length_parts, Text.length_parts, Text.hyphens_lowerCase, Text.hyphens_lowerCase, hc]
    have hfirst : (parts workload).length = (parts workload').length := by
      rw [Text.length_parts, Text.length_parts, hw]
    obtain ⟨h, hcity⟩ := List.append_inj' h hlast
    obtain ⟨hworkload, hplacement⟩ := List.append_inj h hfirst
    exact ⟨Text.parts_injective hworkload, Text.parts_injective hplacement,
      Text.parts_injective hcity⟩
  · rintro ⟨rfl, rfl, h⟩
    rw [h]

/-- What a workload wants, entry by entry. -/
theorem desired_eq_ok (h : w.desired locations = .ok wanted) : ∃ uid owner,
    w.metadata.uid = some uid ∧ wanted = w.spec.placements.flatMap fun p =>
      (p.cityCodes.filter (servedCities locations).contains).map (w.deploymentFor uid owner p) := by
  unfold desired at h
  cases hu : w.metadata.uid with
  | none => simp [hu] at h
  | some uid =>
    cases ho : w.controllerReference? with
    | none => simp [hu, ho] at h
    | some owner =>
      simp only [hu, ho, Except.ok.injEq] at h
      exact ⟨uid, owner, rfl, h.symm⟩

/-- A workload that the server has given a name and a uid wants something. -/
theorem exists_desired {name uid : String} (hn : w.metadata.name = some name)
    (hu : w.metadata.uid = some uid) (locations : List Location) :
    ∃ wanted, w.desired locations = .ok wanted := by
  have ho : ∃ owner, w.controllerReference? = some owner := by
    simp [Resource.controllerReference?, Resource.ownerReference?, hn, hu]
  obtain ⟨owner, ho⟩ := ho
  rw [desired, hu, ho]
  exact ⟨_, rfl⟩

/-- A desired deployment is named after the workload, the placement and the city code that it
carries. -/
theorem name_of_mem_desired (h : w.desired locations = .ok wanted) (hd : d ∈ wanted) :
    d.name = deploymentName d.spec.workload.name d.spec.placement d.spec.cityCode := by
  obtain ⟨uid, owner, -, rfl⟩ := desired_eq_ok h
  obtain ⟨p, -, hd⟩ := List.mem_flatMap.1 hd
  obtain ⟨city, -, rfl⟩ := List.mem_map.1 hd
  rfl

/-- Two desired deployments have the same name exactly when the parts between the hyphens of their
workloads' names, placements and city codes in small letters agree, taken one after another. Where
the names of the workloads have equally many hyphens, and so have the city codes, this says that
workload and placement are the same and the city codes differ at most in capital letters. -/
theorem desired_name_eq_iff (h : w.desired locations = .ok wanted)
    (h' : w'.desired locations' = .ok wanted') (hd : d ∈ wanted) (hd' : d' ∈ wanted') :
    (d.name = d'.name ↔
      parts d.spec.workload.name ++ parts d.spec.placement ++ parts (lowerCase d.spec.cityCode) =
        parts d'.spec.workload.name ++ parts d'.spec.placement ++
          parts (lowerCase d'.spec.cityCode)) ∧
      (hyphens d.spec.workload.name = hyphens d'.spec.workload.name →
        hyphens d.spec.cityCode = hyphens d'.spec.cityCode →
        (d.name = d'.name ↔ d.spec.workload.name = d'.spec.workload.name ∧
          d.spec.placement = d'.spec.placement ∧
          lowerCase d.spec.cityCode = lowerCase d'.spec.cityCode)) := by
  rw [name_of_mem_desired h hd, name_of_mem_desired h' hd']
  exact ⟨deploymentName_eq_iff, deploymentName_inj⟩

/-- The deployments of one workload have different names when its placements have different names,
its city codes equally many hyphens, and the city codes of a placement differ in more than capital
letters. -/
theorem desired_names_nodup {n : Nat} (h : w.desired locations = .ok wanted)
    (hp : (w.spec.placements.map (·.name)).Nodup)
    (hn : ∀ p ∈ w.spec.placements, ∀ city ∈ p.cityCodes, hyphens city = n)
    (hc : ∀ p ∈ w.spec.placements, (p.cityCodes.map lowerCase).Nodup) :
    (wanted.map (·.name)).Nodup := by
  obtain ⟨uid, owner, -, rfl⟩ := desired_eq_ok h
  have inj {p q : Placement} (hp : p ∈ w.spec.placements) (hq : q ∈ w.spec.placements)
      {a b : String} (ha : a ∈ p.cityCodes) (hb : b ∈ q.cityCodes)
      (e : deploymentName w.name p.name a = deploymentName w.name q.name b) :
      p.name = q.name ∧ lowerCase a = lowerCase b :=
    ((deploymentName_inj rfl ((hn p hp a ha).trans (hn q hq b hb).symm)).1 e).2
  rw [List.Nodup, List.pairwise_map, List.pairwise_flatMap]
  constructor
  · -- the entries of one placement
    intro p hp
    have hcities := List.pairwise_map.1 (hc p hp)
    refine List.pairwise_map.2 ((hcities.filter _).imp_of_mem fun ha hb hne e => hne ?_)
    exact (inj hp hp (List.mem_of_mem_filter ha) (List.mem_of_mem_filter hb) e).2
  · -- the entries of two placements
    refine (List.pairwise_map.1 hp).imp_of_mem fun hp hq hne x hx y hy e => hne ?_
    obtain ⟨a, ha, rfl⟩ := List.mem_map.1 hx
    obtain ⟨b, hb, rfl⟩ := List.mem_map.1 hy
    exact (inj hp hq (List.mem_of_mem_filter ha) (List.mem_of_mem_filter hb) e).1

/-- A workload that names one city in capital and in small letters, and whose two placements split
one text in different places. -/
def webEast : Workload where
  metadata := { name := some "web", ns := some "shop", uid := some "w1" }
  spec := { placements := [
    { name := "us-east", cityCodes := ["DFW", "dfw"], scale := { minReplicas := 1 } },
    { name := "us", cityCodes := ["east-dfw"], scale := { minReplicas := 1 } }] }

/-- Locations that serve each of its city codes. -/
def eastLocations : List Location :=
  ["DFW", "dfw", "east-dfw"].map fun city =>
    { metadata := {}, spec := { topology := Dict.set .empty Location.cityCodeKey city } }

/-- Three entries of one workload, whose placements have different names and whose placements name no
city code twice, and one name for all three. -/
theorem desired_names_collide :
    (webEast.spec.placements.map (·.name)).Nodup ∧
      (∀ p ∈ webEast.spec.placements, p.cityCodes.Nodup) ∧
      ∃ wanted, webEast.desired eastLocations = .ok wanted ∧
        (wanted.map fun d => (d.spec.placement, d.spec.cityCode)) =
          [("us-east", "DFW"), ("us-east", "dfw"), ("us", "east-dfw")] ∧
        wanted.map (·.name) = ["web-us-east-dfw", "web-us-east-dfw", "web-us-east-dfw"] :=
  ⟨by decide, by decide, _, rfl, rfl, rfl⟩

/-- The names agree as the texts do, between different placements and within one. -/
theorem desired_name_eq_web : ∃ d d' d'', webEast.desired eastLocations = .ok [d, d', d''] ∧
    (d.spec.placement, d.spec.cityCode) = ("us-east", "DFW") ∧
    (d'.spec.placement, d'.spec.cityCode) = ("us-east", "dfw") ∧
    (d''.spec.placement, d''.spec.cityCode) = ("us", "east-dfw") ∧
    d.name = d''.name ∧ d.name = d'.name := by
  have h : webEast.desired eastLocations = .ok [_, _, _] := rfl
  refine ⟨_, _, _, h, rfl, rfl, rfl, ?_, ?_⟩
  · exact (desired_name_eq_iff h h (by simp) (by simp)).1.2 (by decide)
  · exact ((desired_name_eq_iff h h (by simp) (by simp)).2 rfl (by decide)).2
      ⟨rfl, rfl, by decide⟩

end Workload

end ControlPlane
