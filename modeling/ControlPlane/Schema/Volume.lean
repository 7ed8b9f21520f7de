import ControlPlane.Schema.Platform

/-!
# Volumes and the metadata of templates
-/

namespace ControlPlane

/-- The labels and annotations that a template gives. -/
structure TemplateMetadata where
  labels : Dict String := .empty
  annotations : Dict String := .empty
deriving DecidableEq

instance : JsonForm TemplateMetadata where
  encode t := .obj <|
    Members.unlessEmptyDict "labels" t.labels ++
    Members.unlessEmptyDict "annotations" t.annotations
  decode j := do
    let m ← j.record? ["labels", "annotations"]
    return {
      labels := ← m.withDefault "labels" .empty
      annotations := ← m.withDefault "annotations" .empty }

/-- What a new disk is filled with. -/
structure DiskPopulator where
  image : Option String := none
  filesystem : Option String := none
deriving DecidableEq

instance : JsonForm DiskPopulator where
  encode p := .obj <|
    Members.optional "image" p.image ++
    Members.optional "filesystem" p.filesystem
  decode j := do
    let m ← j.record? ["image", "filesystem"]
    return { image := ← m.maybe "image", filesystem := ← m.maybe "filesystem" }

/-- A disk to be made. -/
structure DiskSpec where
  type : String
  requests : Dict Quantity := .empty
  populator : Option DiskPopulator := none
deriving DecidableEq

instance : JsonForm DiskSpec where
  encode d := .obj <|
    Members.always "type" d.type ++
    Members.unlessEmptyDict "requests" d.requests ++
    Members.optional "populator" d.populator
  decode j := do
    let m ← j.record? ["type", "requests", "populator"]
    return {
      type := ← m.required "type"
      requests := ← m.withDefault "requests" .empty
      populator := ← m.maybe "populator" }

/-- A disk to be made, and the metadata it gets. -/
structure DiskTemplate where
  metadata : TemplateMetadata := {}
  spec : DiskSpec
deriving DecidableEq

instance : JsonForm DiskTemplate where
  encode d := .obj <|
    Members.always "metadata" d.metadata ++
    Members.always "spec" d.spec
  decode j := do
    let m ← j.record? ["metadata", "spec"]
    return { metadata := ← m.withDefault "metadata" {}, spec := ← m.required "spec" }

/-- A volume on a disk of its own. -/
structure DiskVolume where
  deviceName : Option String := none
  template : Option DiskTemplate := none
deriving DecidableEq

instance : JsonForm DiskVolume where
  encode d := .obj <|
    Members.optional "deviceName" d.deviceName ++
    Members.optional "template" d.template
  decode j := do
    let m ← j.record? ["deviceName", "template"]
    return { deviceName := ← m.maybe "deviceName", template := ← m.maybe "template" }

/-- A named volume and its source; exactly one source is meant to be set. As the source is told by the
other members, all of them must be readable. -/
structure Volume where
  name : String
  disk : Option DiskVolume := none
  configMap : Option ConfigMapVolume := none
  secret : Option SecretVolume := none
deriving DecidableEq

instance : JsonForm Volume where
  encode v := .obj <|
    Members.always "name" v.name ++
    Members.optional "disk" v.disk ++
    Members.optional "configMap" v.configMap ++
    Members.optional "secret" v.secret
  decode j := do
    let m ← j.object?
    guard j.isReadable
    return {
      name := ← m.required "name"
      disk := ← m.maybe "disk"
      configMap := ← m.maybe "configMap"
      secret := ← m.maybe "secret" }

/-- A volume attached to a container or a virtual machine. -/
structure VolumeAttachment where
  name : String
  mountPath : Option String := none
deriving DecidableEq

instance : JsonForm VolumeAttachment where
  encode a := .obj <|
    Members.always "name" a.name ++
    Members.optional "mountPath" a.mountPath
  decode j := do
    let m ← j.record? ["name", "mountPath"]
    return { name := ← m.required "name", mountPath := ← m.maybe "mountPath" }

end ControlPlane
