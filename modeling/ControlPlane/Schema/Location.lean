import ControlPlane.Meta.Condition
import ControlPlane.Meta.Resource
import ControlPlane.Schema.Reference

/-!
# Locations

A location is a place instances can run in, described by topology attributes, of which the city code
is the one that placements ask for.
-/

namespace ControlPlane

/-- The status of the kinds that report conditions only. -/
structure ConditionsStatus where
  conditions : ConditionSet := .empty
deriving DecidableEq

instance : JsonForm ConditionsStatus where
  encode s := .obj <| Members.always "conditions" s.conditions
  decode j := do
    let m ← j.record? ["conditions"]
    return { conditions := ← m.withDefault "conditions" .empty }

/-- A zone of a public cloud. -/
structure GcpProvider where
  projectId : String
  region : String
  zone : String
deriving DecidableEq

instance : JsonForm GcpProvider where
  encode p := .obj <|
    Members.always "projectId" p.projectId ++
    Members.always "region" p.region ++
    Members.always "zone" p.zone
  decode j := do
    let m ← j.record? ["projectId", "region", "zone"]
    return {
      projectId := ← m.required "projectId"
      region := ← m.required "region"
      zone := ← m.required "zone" }

/-- Where the instances of a location are run. -/
structure LocationProvider where
  cluster : Option ClusterReference := none
  gcp : Option GcpProvider := none
deriving DecidableEq

instance : JsonForm LocationProvider where
  encode p := .obj <|
    Members.optional "cluster" p.cluster ++
    Members.optional "gcp" p.gcp
  decode j := do
    let m ← j.record? ["cluster", "gcp"]
    return { cluster := ← m.maybe "cluster", gcp := ← m.maybe "gcp" }

/-- What is known of a location. -/
structure LocationSpec where
  locationClassName : String := ""
  topology : Dict String := .empty
  provider : LocationProvider := {}
deriving DecidableEq

instance : JsonForm LocationSpec where
  encode s := .obj <|
    Members.always "locationClassName" s.locationClassName ++
    Members.always "topology" s.topology ++
    Members.always "provider" s.provider
  decode j := do
    let m ← j.record? ["locationClassName", "topology", "provider"]
    return {
      locationClassName := ← m.withDefault "locationClassName" ""
      topology := ← m.withDefault "topology" .empty
      provider := ← m.withDefault "provider" {} }

/-- A place instances can run in. -/
abbrev Location := Resource LocationSpec ConditionsStatus

instance : OfKind Location := ⟨.location⟩

namespace Location

/-- The topology attribute that holds the city code. -/
def cityCodeKey : String := "topology.datum.net/city-code"

/-- The city code of a location. -/
def cityCode (l : Location) : Option String :=
  l.spec.topology.value? cityCodeKey

/-- A reference to the location. -/
def reference (l : Location) : LocationReference :=
  { name := l.name, ns := l.namespaceName }

end Location

end ControlPlane
