import ControlPlane.Json.Form

/-!
# Records of the platform

The parts of a container's description that the orchestrator passes on as they are: quantities,
ports, environment variables and the volume sources of the platform.
-/

namespace ControlPlane

/-- An amount of a resource, as written. -/
structure Quantity where
  text : String
deriving DecidableEq

instance : JsonForm Quantity where
  encode q := .str q.text
  decode j := (decode j).map Quantity.mk

/-- A port by number or by name. -/
inductive IntOrString where
  | int (n : Int32)
  | str (s : String)
deriving DecidableEq

instance : JsonForm IntOrString where
  encode
    | .int n => encode n
    | .str s => encode s
  decode
    | .str s => some (.str s)
    | j => (decode j).map .int

/-- A key of a secret or of a configuration map. -/
structure KeySelector where
  key : String := ""
  name : String := ""
  isOptional : Option Bool := none
deriving DecidableEq

instance : JsonForm KeySelector where
  encode s := .obj <|
    Members.always "key" s.key ++
    Members.always "name" s.name ++
    Members.optional "optional" s.isOptional
  decode j := do
    let m ← j.object?
    return {
      key := ← m.lenientOr "key" ""
      name := ← m.lenientOr "name" ""
      isOptional := ← m.lenient "optional" }

/-- A field of the object itself. -/
structure FieldSelector where
  apiVersion : Option String := none
  fieldPath : String := ""
deriving DecidableEq

instance : JsonForm FieldSelector where
  encode s := .obj <|
    Members.optional "apiVersion" s.apiVersion ++
    Members.always "fieldPath" s.fieldPath
  decode j := do
    let m ← j.object?
    return {
      apiVersion := ← m.lenient "apiVersion"
      fieldPath := ← m.lenientOr "fieldPath" "" }

/-- A resource limit or request of a container. -/
structure ResourceSelector where
  containerName : Option String := none
  divisor : Option Quantity := none
  resource : String := ""
deriving DecidableEq

instance : JsonForm ResourceSelector where
  encode s := .obj <|
    Members.optional "containerName" s.containerName ++
    Members.optional "divisor" s.divisor ++
    Members.always "resource" s.resource
  decode j := do
    let m ← j.object?
    return {
      containerName := ← m.lenient "containerName"
      divisor := ← m.lenient "divisor"
      resource := ← m.lenientOr "resource" "" }

/-- Where the value of an environment variable comes from. -/
structure EnvSource where
  configMapKey : Option KeySelector := none
  field : Option FieldSelector := none
  resourceField : Option ResourceSelector := none
  secretKey : Option KeySelector := none
deriving DecidableEq

instance : JsonForm EnvSource where
  encode s := .obj <|
    Members.optional "configMapKeyRef" s.configMapKey ++
    Members.optional "fieldRef" s.field ++
    Members.optional "resourceFieldRef" s.resourceField ++
    Members.optional "secretKeyRef" s.secretKey
  decode j := do
    let m ← j.object?
    return {
      configMapKey := ← m.lenient "configMapKeyRef"
      field := ← m.lenient "fieldRef"
      resourceField := ← m.lenient "resourceFieldRef"
      secretKey := ← m.lenient "secretKeyRef" }

/-- An environment variable. -/
structure EnvVar where
  name : String := ""
  value : Option String := none
  source : Option EnvSource := none
deriving DecidableEq

instance : JsonForm EnvVar where
  encode v := .obj <|
    Members.always "name" v.name ++
    Members.optional "value" v.value ++
    Members.optional "valueFrom" v.source
  decode j := do
    let m ← j.object?
    return {
      name := ← m.lenientOr "name" ""
      value := ← m.lenient "value"
      source := ← m.lenient "valueFrom" }

/-- The path a key of a volume is put at. -/
structure KeyPath where
  key : String := ""
  mode : Option Int32 := none
  path : String := ""
deriving DecidableEq

instance : JsonForm KeyPath where
  encode k := .obj <|
    Members.always "key" k.key ++
    Members.optional "mode" k.mode ++
    Members.always "path" k.path
  decode j := do
    let m ← j.object?
    return {
      key := ← m.lenientOr "key" ""
      mode := ← m.lenient "mode"
      path := ← m.lenientOr "path" "" }

/-- A volume filled from a configuration map. -/
structure ConfigMapVolume where
  defaultMode : Option Int32 := none
  items : Option (List KeyPath) := none
  name : String := ""
  isOptional : Option Bool := none
deriving DecidableEq

instance : JsonForm ConfigMapVolume where
  encode v := .obj <|
    Members.optional "defaultMode" v.defaultMode ++
    Members.optional "items" v.items ++
    Members.always "name" v.name ++
    Members.optional "optional" v.isOptional
  decode j := do
    let m ← j.object?
    return {
      defaultMode := ← m.lenient "defaultMode"
      items := ← m.lenient "items"
      name := ← m.lenientOr "name" ""
      isOptional := ← m.lenient "optional" }

/-- A volume filled from a secret. -/
structure SecretVolume where
  defaultMode : Option Int32 := none
  items : Option (List KeyPath) := none
  isOptional : Option Bool := none
  secretName : Option String := none
deriving DecidableEq

instance : JsonForm SecretVolume where
  encode v := .obj <|
    Members.optional "defaultMode" v.defaultMode ++
    Members.optional "items" v.items ++
    Members.optional "optional" v.isOptional ++
    Members.optional "secretName" v.secretName
  decode j := do
    let m ← j.object?
    return {
      defaultMode := ← m.lenient "defaultMode"
      items := ← m.lenient "items"
      isOptional := ← m.lenient "optional"
      secretName := ← m.lenient "secretName" }

end ControlPlane
