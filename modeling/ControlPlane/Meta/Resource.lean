import ControlPlane.Meta.Kind
import ControlPlane.Meta.ObjectMeta

/-!
# Resources

A resource is metadata, a specification that its writers ask for, and a status that its controllers
report. Its kind is known from its type.
-/

namespace ControlPlane

/-- An object of a kind with the given specification and status. -/
structure Resource (Spec Status : Type) where
  metadata : ObjectMeta
  spec : Spec
  status : Option Status := none
deriving DecidableEq

/-- Types of resources, each of one kind. -/
class OfKind (α : Type) where
  kind : Kind

/-- The kind of a type of resources. -/
def kindOf (α : Type) [OfKind α] : Kind :=
  OfKind.kind α

namespace Resource

variable {Spec Status : Type}

/-- The name, or the prefix the server is to make a name from. -/
def name (r : Resource Spec Status) : String :=
  (r.metadata.name <|> r.metadata.generateName).getD ""

/-- The name under which the object is stored, empty while it has none. -/
def storedName (r : Resource Spec Status) : String :=
  r.metadata.name.getD ""

/-- The namespace, empty when there is none. -/
def namespaceName (r : Resource Spec Status) : String :=
  r.metadata.ns.getD ""

/-- `namespace/name`. -/
def key (r : Resource Spec Status) : String :=
  r.namespaceName ++ "/" ++ r.name

/-- Whether the object waits for its finalizers to be removed. -/
def isDeleting (r : Resource Spec Status) : Bool :=
  r.metadata.deletionTimestamp.isSome

/-- The finalizers, none when the list is absent. -/
def finalizers (r : Resource Spec Status) : List String :=
  r.metadata.finalizers.getD []

/-- The value of a label. -/
def label? (r : Resource Spec Status) (name : String) : Option String :=
  r.metadata.labels.bind (·.value? name)

variable [OfKind (Resource Spec Status)]

/-- A reference to the object as an owner, when it has a name and a uid. -/
def ownerReference? (r : Resource Spec Status) : Option OwnerReference := do
  let kind := kindOf (Resource Spec Status)
  return {
    apiVersion := kind.apiVersion
    kind := kind.name
    name := ← r.metadata.name
    uid := ← r.metadata.uid }

/-- A reference to the object as the owner that controls another. -/
def controllerReference? (r : Resource Spec Status) : Option OwnerReference :=
  r.ownerReference?.map fun o => { o with controller := some true }

end Resource

/-- The members of a resource; a list must name all three. -/
def resourceMembers? : Json → Option Members
  | .obj members => some members
  | .arr [metadata, spec, status] =>
    some [("metadata", metadata), ("spec", spec), ("status", status)]
  | _ => none

instance {Spec Status : Type} [JsonForm Spec] [JsonForm Status]
    [OfKind (Resource Spec Status)] : JsonForm (Resource Spec Status) where
  encode r := .obj <|
    Members.always "apiVersion" (kindOf (Resource Spec Status)).apiVersion ++
    Members.always "kind" (kindOf (Resource Spec Status)).name ++
    Members.always "metadata" r.metadata ++
    Members.always "spec" r.spec ++
    Members.optional "status" r.status
  decode j := do
    let m ← resourceMembers? j
    return {
      metadata := ← m.required "metadata"
      spec := ← m.required "spec"
      status := ← m.maybe "status" }

end ControlPlane
