import ControlPlane.Digest.Fingerprint
import ControlPlane.Error
import ControlPlane.Rollout.Slot

/-!
# Instances made from a template

`Deployment.newInstance` is the instance created for a slot and `Deployment.renewedInstance` an
existing one brought up to the template. Both carry the same labels, annotations and specification;
the second keeps its location, its gates and the rest of its metadata.
-/

namespace ControlPlane.Deployment

/-- The fingerprint of the deployment's template. -/
def templateHash (d : Deployment) : String :=
  fingerprint d.spec.template

/-- The labels of the instance in a slot: the template's, and over them the slot and the uids of
the workload and the deployment. -/
def instanceLabels (d : Deployment) (slot : Nat) : Dict String :=
  d.spec.template.metadata.labels
    |>.set slotLabel (Nat.repr slot)
    |>.set Workload.uidLabel d.spec.workload.uid
    |>.set uidLabel (d.metadata.uid.getD "")

/-- The annotations of an instance, absent when the template has none. -/
def instanceAnnotations (d : Deployment) : Option (Dict String) :=
  let annotations := d.spec.template.metadata.annotations
  if annotations.isEmpty then none else some annotations

/-- The specification of an instance at a location with the given gates. -/
def instanceSpec (d : Deployment) (location : Option LocationReference)
    (gates : List SchedulingGate) : InstanceSpec :=
  { d.spec.template.spec with
    location
    control := some { templateHash := d.templateHash, gates } }

/-- The instance created for a slot, which waits for the network. -/
def newInstance (d : Deployment) (slot : Nat) (owner : OwnerReference) : Instance where
  metadata := {
    name := some (d.slotName slot)
    ns := d.metadata.ns
    labels := some (d.instanceLabels slot)
    annotations := d.instanceAnnotations
    ownerReferences := some [owner] }
  spec := d.instanceSpec d.location [⟨SchedulingGate.network⟩]

/-- The instance in a slot brought up to the template. -/
def renewedInstance (d : Deployment) (slot : Nat) (current : Instance) : Instance :=
  { current with
    metadata := { current.metadata with
      labels := some (d.instanceLabels slot)
      annotations := d.instanceAnnotations }
    spec := d.instanceSpec current.spec.location current.gates }

/-- The reference by which the deployment owns what it creates. -/
def requireOwner (d : Deployment) : Except Error OwnerReference :=
  match d.controllerReference? with
  | some owner => .ok owner
  | none => .error (.cannotOwn "deployment" d.name)

end ControlPlane.Deployment
