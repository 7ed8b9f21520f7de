import ControlPlane.Json.Form

/-!
# References between resources
-/

namespace ControlPlane

/-- A network; without a namespace, one in the namespace of the object that refers to it. -/
structure NetworkReference where
  name : String
  ns : Option String := none
deriving DecidableEq

instance : JsonForm NetworkReference where
  encode r := .obj <|
    Members.always "name" r.name ++
    Members.optional "namespace" r.ns
  decode j := do
    let m ← j.record? ["name", "namespace"]
    return { name := ← m.required "name", ns := ← m.maybe "namespace" }

/-- A location. -/
structure LocationReference where
  name : String
  ns : String
deriving DecidableEq

instance : JsonForm LocationReference where
  encode r := .obj <|
    Members.always "name" r.name ++
    Members.always "namespace" r.ns
  decode j := do
    let m ← j.record? ["name", "namespace"]
    return { name := ← m.required "name", ns := ← m.required "namespace" }

/-- `namespace/name`. -/
def LocationReference.key (r : LocationReference) : String :=
  r.ns ++ "/" ++ r.name

/-- An execution cluster, by the name it is engaged under. -/
structure ClusterReference where
  name : String
deriving DecidableEq

instance : JsonForm ClusterReference where
  encode r := .obj <| Members.always "name" r.name
  decode j := do
    let m ← j.record? ["name"]
    return { name := ← m.required "name" }

/-- A network context, possibly in another namespace. -/
structure ContextReference where
  name : String
  ns : String
deriving DecidableEq

instance : JsonForm ContextReference where
  encode r := .obj <|
    Members.always "name" r.name ++
    Members.always "namespace" r.ns
  decode j := do
    let m ← j.record? ["name", "namespace"]
    return { name := ← m.required "name", ns := ← m.required "namespace" }

/-- An object of a known kind in the namespace of the object that refers to it. -/
structure LocalReference where
  name : String
deriving DecidableEq

instance : JsonForm LocalReference where
  encode r := .obj <| Members.always "name" r.name
  decode j := do
    let m ← j.record? ["name"]
    return { name := ← m.required "name" }

/-- A workload, by name and uid. -/
structure WorkloadReference where
  name : String
  uid : String
deriving DecidableEq

instance : JsonForm WorkloadReference where
  encode r := .obj <|
    Members.always "name" r.name ++
    Members.always "uid" r.uid
  decode j := do
    let m ← j.record? ["name", "uid"]
    return { name := ← m.required "name", uid := ← m.required "uid" }

end ControlPlane
