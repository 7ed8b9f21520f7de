import ControlPlane.Json.Form
import ControlPlane.Json.Printer
import ControlPlane.Time.Rfc3339

/-!
# Metadata of objects

The part that all objects share: names, labels, owners, finalizers and the marks the server sets,
among them who manages which fields. Every field is optional.
-/

namespace ControlPlane

instance : JsonForm Instant where
  encode t := .str (Rfc3339.text .seconds t)
  decode
    | .str s => Rfc3339.parse? s
    | _ => none

/-- An instant that is written with microseconds. -/
structure MicroTime where
  instant : Instant
deriving DecidableEq

instance : JsonForm MicroTime where
  encode t := .str (Rfc3339.text .micros t.instant)
  decode
    | .str s => (Rfc3339.parse? s).map MicroTime.mk
    | _ => none

/-- A reference from an object to one that owns it. -/
structure OwnerReference where
  apiVersion : String := ""
  kind : String := ""
  name : String := ""
  uid : String := ""
  controller : Option Bool := none
  blockOwnerDeletion : Option Bool := none
deriving DecidableEq

instance : JsonForm OwnerReference where
  encode o := .obj <|
    Members.always "apiVersion" o.apiVersion ++
    Members.optional "blockOwnerDeletion" o.blockOwnerDeletion ++
    Members.optional "controller" o.controller ++
    Members.always "kind" o.kind ++
    Members.always "name" o.name ++
    Members.always "uid" o.uid
  decode j := do
    let m ← j.object?
    return {
      apiVersion := ← m.lenientOr "apiVersion" ""
      kind := ← m.lenientOr "kind" ""
      name := ← m.lenientOr "name" ""
      uid := ← m.lenientOr "uid" ""
      controller := ← m.lenient "controller"
      blockOwnerDeletion := ← m.lenient "blockOwnerDeletion" }

/-- The fields that a manager has set. The server describes them by a value that is handed on as it
is, with its members sorted. -/
structure ManagedFields where
  description : Json
  isReadable : description.isReadable = true
  canonical : description.canonical = description
deriving DecidableEq

instance : JsonForm ManagedFields where
  encode f := f.description
  decode j :=
    if h : j.isReadable = true then
      some ⟨j.canonical, j.isReadable_canonical h, j.canonical_canonical⟩
    else none

/-- Any description is read back, so long as its place in a record does not take it for an absent one. -/
theorem ManagedFields.decode_encode (f : ManagedFields) : decode (encode f) = some f := by
  obtain ⟨j, h, hj⟩ := f
  simp [encode, decode, h, hj]

/-- A manager of some fields of an object. -/
structure FieldManager where
  apiVersion : Option String := none
  fieldsType : Option String := none
  fields : Option ManagedFields := none
  manager : Option String := none
  operation : Option String := none
  subresource : Option String := none
  time : Option Instant := none
deriving DecidableEq

instance : JsonForm FieldManager where
  encode f := .obj <|
    Members.optional "apiVersion" f.apiVersion ++
    Members.optional "fieldsType" f.fieldsType ++
    Members.optional "fieldsV1" f.fields ++
    Members.optional "manager" f.manager ++
    Members.optional "operation" f.operation ++
    Members.optional "subresource" f.subresource ++
    Members.optional "time" f.time
  decode j := do
    let m ← j.object?
    return {
      apiVersion := ← m.lenient "apiVersion"
      fieldsType := ← m.lenient "fieldsType"
      fields := ← m.lenient "fieldsV1"
      manager := ← m.lenient "manager"
      operation := ← m.lenient "operation"
      subresource := ← m.lenient "subresource"
      time := ← m.lenient "time" }

/-- The metadata of an object. -/
structure ObjectMeta where
  annotations : Option (Dict String) := none
  creationTimestamp : Option Instant := none
  deletionGracePeriodSeconds : Option Int64 := none
  deletionTimestamp : Option Instant := none
  finalizers : Option (List String) := none
  generateName : Option String := none
  generation : Option Int64 := none
  labels : Option (Dict String) := none
  managedFields : Option (List FieldManager) := none
  name : Option String := none
  ns : Option String := none
  ownerReferences : Option (List OwnerReference) := none
  resourceVersion : Option String := none
  selfLink : Option String := none
  uid : Option String := none
deriving DecidableEq, Inhabited

instance : JsonForm ObjectMeta where
  encode o := .obj <|
    Members.optional "annotations" o.annotations ++
    Members.optional "creationTimestamp" o.creationTimestamp ++
    Members.optional "deletionGracePeriodSeconds" o.deletionGracePeriodSeconds ++
    Members.optional "deletionTimestamp" o.deletionTimestamp ++
    Members.optional "finalizers" o.finalizers ++
    Members.optional "generateName" o.generateName ++
    Members.optional "generation" o.generation ++
    Members.optional "labels" o.labels ++
    Members.optional "managedFields" o.managedFields ++
    Members.optional "name" o.name ++
    Members.optional "namespace" o.ns ++
    Members.optional "ownerReferences" o.ownerReferences ++
    Members.optional "resourceVersion" o.resourceVersion ++
    Members.optional "selfLink" o.selfLink ++
    Members.optional "uid" o.uid
  decode j := do
    let m ← j.object?
    return {
      annotations := ← m.lenient "annotations"
      creationTimestamp := ← m.lenient "creationTimestamp"
      deletionGracePeriodSeconds := ← m.lenient "deletionGracePeriodSeconds"
      deletionTimestamp := ← m.lenient "deletionTimestamp"
      finalizers := ← m.lenient "finalizers"
      generateName := ← m.lenient "generateName"
      generation := ← m.lenient "generation"
      labels := ← m.lenient "labels"
      managedFields := ← m.lenient "managedFields"
      name := ← m.lenient "name"
      ns := ← m.lenient "namespace"
      ownerReferences := ← m.lenient "ownerReferences"
      resourceVersion := ← m.lenient "resourceVersion"
      selfLink := ← m.lenient "selfLink"
      uid := ← m.lenient "uid" }

end ControlPlane
