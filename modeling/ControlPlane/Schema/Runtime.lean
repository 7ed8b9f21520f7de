import ControlPlane.Schema.Reference
import ControlPlane.Schema.Volume

/-!
# What an instance runs

An instance runs as a sandbox of containers or as a virtual machine.
-/

namespace ControlPlane

/-- A port with a name. -/
structure NamedPort where
  name : String
  port : Int32
  protocol : Option String := none
deriving DecidableEq

instance : JsonForm NamedPort where
  encode p := .obj <|
    Members.always "name" p.name ++
    Members.always "port" p.port ++
    Members.optional "protocol" p.protocol
  decode j := do
    let m ← j.record? ["name", "port", "protocol"]
    return {
      name := ← m.required "name"
      port := ← m.required "port"
      protocol := ← m.maybe "protocol" }

/-- The resources that a container asks for and may use. -/
structure ContainerResources where
  limits : Dict Quantity := .empty
  requests : Dict Quantity := .empty
deriving DecidableEq

instance : JsonForm ContainerResources where
  encode r := .obj <|
    Members.unlessEmptyDict "limits" r.limits ++
    Members.unlessEmptyDict "requests" r.requests
  decode j := do
    let m ← j.record? ["limits", "requests"]
    return {
      limits := ← m.withDefault "limits" .empty
      requests := ← m.withDefault "requests" .empty }

/-- A container of a sandbox. -/
structure Container where
  name : String
  image : String
  env : List EnvVar := []
  resources : Option ContainerResources := none
  volumeAttachments : List VolumeAttachment := []
  ports : List NamedPort := []
deriving DecidableEq

instance : JsonForm Container where
  encode c := .obj <|
    Members.always "name" c.name ++
    Members.always "image" c.image ++
    Members.unlessEmpty "env" c.env ++
    Members.optional "resources" c.resources ++
    Members.unlessEmpty "volumeAttachments" c.volumeAttachments ++
    Members.unlessEmpty "ports" c.ports
  decode j := do
    let m ← j.record? ["name", "image", "env", "resources", "volumeAttachments", "ports"]
    return {
      name := ← m.required "name"
      image := ← m.required "image"
      env := ← m.withDefault "env" []
      resources := ← m.maybe "resources"
      volumeAttachments := ← m.withDefault "volumeAttachments" []
      ports := ← m.withDefault "ports" [] }

/-- A sandbox of containers. -/
structure Sandbox where
  containers : List Container := []
  imagePullSecrets : List LocalReference := []
deriving DecidableEq

instance : JsonForm Sandbox where
  encode s := .obj <|
    Members.always "containers" s.containers ++
    Members.unlessEmpty "imagePullSecrets" s.imagePullSecrets
  decode j := do
    let m ← j.record? ["containers", "imagePullSecrets"]
    return {
      containers := ← m.withDefault "containers" []
      imagePullSecrets := ← m.withDefault "imagePullSecrets" [] }

/-- A virtual machine. -/
structure VirtualMachine where
  volumeAttachments : List VolumeAttachment := []
  ports : List NamedPort := []
deriving DecidableEq

instance : JsonForm VirtualMachine where
  encode v := .obj <|
    Members.unlessEmpty "volumeAttachments" v.volumeAttachments ++
    Members.unlessEmpty "ports" v.ports
  decode j := do
    let m ← j.record? ["volumeAttachments", "ports"]
    return {
      volumeAttachments := ← m.withDefault "volumeAttachments" []
      ports := ← m.withDefault "ports" [] }

/-- The machine type of an instance and what it asks for beyond it. -/
structure RuntimeResources where
  instanceType : String := ""
  requests : Dict Quantity := .empty
deriving DecidableEq

instance : JsonForm RuntimeResources where
  encode r := .obj <|
    Members.always "instanceType" r.instanceType ++
    Members.unlessEmptyDict "requests" r.requests
  decode j := do
    let m ← j.record? ["instanceType", "requests"]
    return {
      instanceType := ← m.withDefault "instanceType" ""
      requests := ← m.withDefault "requests" .empty }

/-- What an instance runs, and on how much. -/
structure Runtime where
  resources : RuntimeResources := {}
  sandbox : Option Sandbox := none
  virtualMachine : Option VirtualMachine := none
deriving DecidableEq

instance : JsonForm Runtime where
  encode r := .obj <|
    Members.always "resources" r.resources ++
    Members.optional "sandbox" r.sandbox ++
    Members.optional "virtualMachine" r.virtualMachine
  decode j := do
    let m ← j.record? ["resources", "sandbox", "virtualMachine"]
    return {
      resources := ← m.withDefault "resources" {}
      sandbox := ← m.maybe "sandbox"
      virtualMachine := ← m.maybe "virtualMachine" }

/-! ## Network interfaces -/

/-- A block of addresses, with exceptions. -/
structure IpBlock where
  cidr : String
  except : List String := []
deriving DecidableEq

instance : JsonForm IpBlock where
  encode b := .obj <|
    Members.always "cidr" b.cidr ++
    Members.unlessEmpty "except" b.except
  decode j := do
    let m ← j.record? ["cidr", "except"]
    return { cidr := ← m.required "cidr", except := ← m.withDefault "except" [] }

/-- Who a rule lets in. -/
structure PolicyPeer where
  ipBlock : Option IpBlock := none
deriving DecidableEq

instance : JsonForm PolicyPeer where
  encode p := .obj <| Members.optional "ipBlock" p.ipBlock
  decode j := do
    let m ← j.record? ["ipBlock"]
    return { ipBlock := ← m.maybe "ipBlock" }

/-- The ports that a rule opens. -/
structure PolicyPort where
  protocol : Option String := none
  port : Option IntOrString := none
  endPort : Option Int32 := none
deriving DecidableEq

instance : JsonForm PolicyPort where
  encode p := .obj <|
    Members.optional "protocol" p.protocol ++
    Members.optional "port" p.port ++
    Members.optional "endPort" p.endPort
  decode j := do
    let m ← j.record? ["protocol", "port", "endPort"]
    return {
      protocol := ← m.maybe "protocol"
      port := ← m.maybe "port"
      endPort := ← m.maybe "endPort" }

/-- A rule that lets traffic in. -/
structure IngressRule where
  ports : List PolicyPort := []
  peers : List PolicyPeer := []
deriving DecidableEq

instance : JsonForm IngressRule where
  encode r := .obj <|
    Members.unlessEmpty "ports" r.ports ++
    Members.unlessEmpty "from" r.peers
  decode j := do
    let m ← j.record? ["ports", "from"]
    return {
      ports := ← m.withDefault "ports" []
      peers := ← m.withDefault "from" [] }

/-- What traffic an interface lets in. -/
structure InterfacePolicy where
  ingress : List IngressRule := []
deriving DecidableEq

instance : JsonForm InterfacePolicy where
  encode p := .obj <| Members.unlessEmpty "ingress" p.ingress
  decode j := do
    let m ← j.record? ["ingress"]
    return { ingress := ← m.withDefault "ingress" [] }

/-- A network interface of an instance. -/
structure NetworkInterface where
  network : NetworkReference
  policy : Option InterfacePolicy := none
deriving DecidableEq

instance : JsonForm NetworkInterface where
  encode i := .obj <|
    Members.always "network" i.network ++
    Members.optional "networkPolicy" i.policy
  decode j := do
    let m ← j.record? ["network", "networkPolicy"]
    return { network := ← m.required "network", policy := ← m.maybe "networkPolicy" }

end ControlPlane
