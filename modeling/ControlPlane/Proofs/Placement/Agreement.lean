import ControlPlane.Placement.Selection
import ControlPlane.Proofs.Workload.Names

/-!
# Expansion and scheduling agree

A workload is expanded by looking its city codes up among those that the locations serve, and a
deployment is scheduled by a search through the locations for its city code. The two never disagree on
a text: an entry of the workload is wanted exactly when the deployment made from it finds a location
(`desired_eq_filter`).

* `select_eq_selected_iff_first`: what is selected is the first location that serves the city code.
* `exists_select_iff`: a location is selected exactly when the city code is among those served.
* `desired_congr`: locations that serve the same city codes make a workload want the same.
-/

namespace ControlPlane

/-- Some of the locations serves the city code. -/
def Serve (locations : List Location) (cityCode : String) : Prop :=
  ∃ l ∈ locations, l.cityCode = some cityCode

/-- The first of the locations that serves the city code. -/
def ServesFirst (locations : List Location) (cityCode : String) (l : Location) : Prop :=
  l.cityCode = some cityCode ∧
    ∃ before after, locations = before ++ l :: after ∧ ∀ x ∈ before, x.cityCode ≠ some cityCode

/-- Whether a location was selected. -/
def Selection.isSelected : Selection → Bool
  | .selected _ => true
  | _ => false

variable {locations locations' : List Location}

/-! ## The search for a location -/

namespace Deployment

variable {d : Deployment} {l : Location}

theorem select_eq_selected_iff : d.select locations = .selected l ↔
    locations.find? (fun l => l.cityCode == some d.spec.cityCode) = some l := by
  rw [select]
  split
  · next h => simp [List.isEmpty_iff.1 h]
  · cases hf : locations.find? (fun l => l.cityCode == some d.spec.cityCode) <;> simp

theorem select_eq_selected_iff_first :
    d.select locations = .selected l ↔ ServesFirst locations d.spec.cityCode l := by
  rw [select_eq_selected_iff, List.find?_eq_some_iff_append]
  simp [ServesFirst]

theorem isSelected_select_iff :
    (d.select locations).isSelected = true ↔ ∃ l, d.select locations = .selected l := by
  cases d.select locations <;> simp [Selection.isSelected]

/-- A location is selected exactly when there is one that serves. -/
theorem exists_select_iff :
    (∃ l, d.select locations = .selected l) ↔ Serve locations d.spec.cityCode := by
  simp only [select_eq_selected_iff, ← Option.isSome_iff_exists, List.find?_isSome, beq_iff_eq]
  rfl

/-- Where no location serves, the scheduler says that there are none or that none will do. -/
theorem select_of_not_serve (h : ¬ Serve locations d.spec.cityCode) :
    d.select locations = .noLocations ∨ d.select locations = .noCandidates := by
  cases hs : d.select locations with
  | noLocations => exact .inl rfl
  | noCandidates => exact .inr rfl
  | selected l => exact absurd (exists_select_iff.1 ⟨l, hs⟩) h

end Deployment

/-! ## The entries that are wanted -/

namespace Workload

variable {w : Workload} {wanted : List Deployment}

theorem mem_servedCities {cityCode : String} :
    cityCode ∈ servedCities locations ↔ Serve locations cityCode :=
  List.mem_filterMap

/-- An entry counts as served exactly when its deployment finds a location. -/
theorem contains_servedCities (uid : String) (owner : OwnerReference) (p : Placement)
    (cityCode : String) : (servedCities locations).contains cityCode =
      ((w.deploymentFor uid owner p cityCode).select locations).isSelected := by
  rw [Bool.eq_iff_iff, List.contains_iff_mem, mem_servedCities, Deployment.isSelected_select_iff,
    Deployment.exists_select_iff]
  rfl

/-- What a workload wants are the deployments of all its entries, less those that find no location. -/
theorem desired_eq_filter (h : w.desired locations = .ok wanted) : ∃ uid owner,
    w.metadata.uid = some uid ∧ wanted = (w.spec.placements.flatMap fun p =>
      p.cityCodes.map (w.deploymentFor uid owner p)).filter
        fun d => (d.select locations).isSelected := by
  obtain ⟨uid, owner, huid, rfl⟩ := desired_eq_ok h
  refine ⟨uid, owner, huid, ?_⟩
  rw [List.filter_flatMap]
  refine congrArg (List.flatMap · _) (funext fun p => ?_)
  rw [List.filter_map]
  refine congrArg (List.map _) (List.filter_congr fun cityCode _ => ?_)
  exact contains_servedCities uid owner p cityCode

/-- Only the set of the city codes that are served matters. -/
theorem desired_congr (h : ∀ cityCode, Serve locations' cityCode ↔ Serve locations cityCode) :
    w.desired locations' = w.desired locations := by
  have hserved : (servedCities locations').contains = (servedCities locations).contains := by
    funext cityCode
    rw [Bool.eq_iff_iff, List.contains_iff_mem, List.contains_iff_mem, mem_servedCities,
      mem_servedCities, h]
  simp only [desired, hserved]

/-- Expansion and scheduling agree: a deployment that a workload wants finds a location, the first one
that serves its city code. The entries that are left out are just those whose deployments find none, and
no deployment with the city code of one that is left out finds any. The order of the locations and
their number do not matter to what is wanted, as long as the same city codes are served. -/
theorem desired_agrees (h : w.desired locations = .ok wanted) :
    (∀ d ∈ wanted, ∃ l, d.select locations = .selected l ∧
      ServesFirst locations d.spec.cityCode l) ∧
    (∃ uid owner, w.metadata.uid = some uid ∧ wanted = (w.spec.placements.flatMap fun p =>
      p.cityCodes.map (w.deploymentFor uid owner p)).filter
        fun d => (d.select locations).isSelected) ∧
    (∀ p ∈ w.spec.placements, ∀ cityCode ∈ p.cityCodes,
      (∀ d ∈ wanted, d.spec.placement = p.name → d.spec.cityCode ≠ cityCode) →
      ∀ d : Deployment, d.spec.cityCode = cityCode →
        d.select locations = .noLocations ∨ d.select locations = .noCandidates) ∧
    ∀ locations', (∀ cityCode, Serve locations' cityCode ↔ Serve locations cityCode) →
      w.desired locations' = .ok wanted := by
  obtain ⟨uid, owner, huid, hwanted⟩ := desired_eq_filter h
  refine ⟨fun d hd => ?_, ⟨uid, owner, huid, hwanted⟩, fun p hp cityCode hcity hleft d hd => ?_,
    fun locations' hsame => (desired_congr hsame).trans h⟩
  · rw [hwanted] at hd
    obtain ⟨l, hl⟩ := Deployment.isSelected_select_iff.1 (List.mem_filter.1 hd).2
    exact ⟨l, hl, Deployment.select_eq_selected_iff_first.1 hl⟩
  · refine Deployment.select_of_not_serve fun hserve => ?_
    rw [hd] at hserve
    -- the deployment of this very entry would be wanted
    have hentry : w.deploymentFor uid owner p cityCode ∈ wanted := by
      rw [hwanted, List.mem_filter, List.mem_flatMap]
      exact ⟨⟨p, hp, List.mem_map_of_mem hcity⟩,
        Deployment.isSelected_select_iff.2 (Deployment.exists_select_iff.2 hserve)⟩
    exact hleft _ hentry rfl rfl

/-- A workload for Dallas, once in capital letters and once in small ones, and for Los Angeles. -/
def coasts : Workload where
  metadata := { name := some "web", ns := some "shop", uid := some "w1" }
  spec := { placements := [
    { name := "us", cityCodes := ["DFW", "dfw", "LAX"], scale := { minReplicas := 1 } }] }

/-- A location of that name in a city. -/
def locationIn (name cityCode : String) : Location where
  metadata := { name := some name, ns := some "infra" }
  spec := { topology := Dict.set .empty Location.cityCodeKey cityCode }

/-- Of a location without a city code and two in Dallas, the first in Dallas is selected; the small
letters and Los Angeles are left out, and the order of the locations makes no difference. -/
theorem desired_agrees_coasts :
    let nowhere : Location := { metadata := { name := some "nowhere" }, spec := {} }
    let locations := [nowhere, locationIn "dfw-1" "DFW", locationIn "dfw-2" "DFW"]
    ∃ d, coasts.desired locations = .ok [d] ∧ d.name = "web-us-dfw" ∧
      d.select locations = .selected (locationIn "dfw-1" "DFW") ∧
      (∀ d : Deployment, d.spec.cityCode = "dfw" →
        d.select locations = .noLocations ∨ d.select locations = .noCandidates) ∧
      coasts.desired [locationIn "dfw-2" "DFW"] = .ok [d] := by
  intro nowhere locations
  have h : coasts.desired locations = .ok [_] := rfl
  obtain ⟨-, -, hleft, hsame⟩ := desired_agrees h
  refine ⟨_, h, rfl, rfl, hleft _ (List.mem_singleton_self _) "dfw" (by simp) (by decide),
    hsame _ fun cityCode => ?_⟩
  have hcity : ∀ name, (locationIn name "DFW").cityCode = some "DFW" := fun _ => rfl
  have hnowhere : nowhere.cityCode = none := rfl
  simp [Serve, locations, hcity, hnowhere]

end Workload

end ControlPlane
