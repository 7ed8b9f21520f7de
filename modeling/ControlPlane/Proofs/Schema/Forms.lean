import Mathlib.Data.Option.Basic
import ControlPlane.Proofs.Schema.Records
import ControlPlane.Schema.Any

/-!
# Forms that lose nothing

The parts of resources that have no times in them are read back from their JSON forms as they were: a
missing member, a default and an empty collection are never mistaken for one another. A record's proof
opens its form; that each member is read as it was written, and under no other's name, is left to the
lemmas of `Members`.

A volume takes more. It is told by the members next to its name, so its decoder looks at all of them
before it reads any, and everything that a volume holds must be written readably.
-/

namespace ControlPlane

/-! ## Records of the platform -/

instance : LawfulJsonForm Quantity where
  decode_encode _ := rfl
  encode_ne_null _ := nofun

instance : LawfulJsonForm IntOrString where
  decode_encode
    | .int n => by
      change (decode (encode n)).map IntOrString.int = _
      rw [decode_encode, Option.map_some]
    | .str _ => rfl
  encode_ne_null
    | .int _ => nofun
    | .str _ => nofun

instance : LawfulJsonForm KeySelector where
  decode_encode _ := by
    unfold instJsonFormKeySelector
    dsimp only [bind, Option.bind]
    simp
  encode_ne_null _ := nofun

instance : LawfulJsonForm FieldSelector where
  decode_encode _ := by
    unfold instJsonFormFieldSelector
    dsimp only [bind, Option.bind]
    simp
  encode_ne_null _ := nofun

instance : LawfulJsonForm ResourceSelector where
  decode_encode _ := by
    unfold instJsonFormResourceSelector
    dsimp only [bind, Option.bind]
    simp
  encode_ne_null _ := nofun

instance : LawfulJsonForm EnvSource where
  decode_encode _ := by
    unfold instJsonFormEnvSource
    dsimp only [bind, Option.bind]
    simp
  encode_ne_null _ := nofun

instance : LawfulJsonForm EnvVar where
  decode_encode _ := by
    unfold instJsonFormEnvVar
    dsimp only [bind, Option.bind]
    simp
  encode_ne_null _ := nofun

instance : LawfulJsonForm KeyPath where
  decode_encode _ := by
    unfold instJsonFormKeyPath
    dsimp only [bind, Option.bind]
    simp
  encode_ne_null _ := nofun

instance : LawfulJsonForm ConfigMapVolume where
  decode_encode _ := by
    unfold instJsonFormConfigMapVolume
    dsimp only [bind, Option.bind]
    simp
  encode_ne_null _ := nofun

instance : LawfulJsonForm SecretVolume where
  decode_encode _ := by
    unfold instJsonFormSecretVolume
    dsimp only [bind, Option.bind]
    simp
  encode_ne_null _ := nofun

/-! ## References -/

instance : LawfulJsonForm NetworkReference where
  decode_encode _ := by
    unfold instJsonFormNetworkReference
    dsimp only [bind, Option.bind]
    simp
  encode_ne_null _ := nofun

instance : LawfulJsonForm LocationReference where
  decode_encode _ := by
    unfold instJsonFormLocationReference
    dsimp only [bind, Option.bind]
    simp
  encode_ne_null _ := nofun

instance : LawfulJsonForm ClusterReference where
  decode_encode _ := by
    unfold instJsonFormClusterReference
    dsimp only [bind, Option.bind]
    simp
  encode_ne_null _ := nofun

instance : LawfulJsonForm ContextReference where
  decode_encode _ := by
    unfold instJsonFormContextReference
    dsimp only [bind, Option.bind]
    simp
  encode_ne_null _ := nofun

instance : LawfulJsonForm LocalReference where
  decode_encode _ := by
    unfold instJsonFormLocalReference
    dsimp only [bind, Option.bind]
    simp
  encode_ne_null _ := nofun

instance : LawfulJsonForm WorkloadReference where
  decode_encode _ := by
    unfold instJsonFormWorkloadReference
    dsimp only [bind, Option.bind]
    simp
  encode_ne_null _ := nofun

instance : LawfulJsonForm OwnerReference where
  decode_encode _ := by
    unfold instJsonFormOwnerReference
    dsimp only [bind, Option.bind]
    simp
  encode_ne_null _ := nofun

/-! ## Volumes -/

instance : LawfulJsonForm TemplateMetadata where
  decode_encode _ := by
    unfold instJsonFormTemplateMetadata
    dsimp only [bind, Option.bind]
    simp
  encode_ne_null _ := nofun

instance : LawfulJsonForm DiskPopulator where
  decode_encode _ := by
    unfold instJsonFormDiskPopulator
    dsimp only [bind, Option.bind]
    simp
  encode_ne_null _ := nofun

instance : LawfulJsonForm DiskSpec where
  decode_encode _ := by
    unfold instJsonFormDiskSpec
    dsimp only [bind, Option.bind]
    simp
  encode_ne_null _ := nofun

instance : LawfulJsonForm DiskTemplate where
  decode_encode _ := by
    unfold instJsonFormDiskTemplate
    dsimp only [bind, Option.bind]
    simp
  encode_ne_null _ := nofun

instance : LawfulJsonForm DiskVolume where
  decode_encode _ := by
    unfold instJsonFormDiskVolume
    dsimp only [bind, Option.bind]
    simp
  encode_ne_null _ := nofun

instance : ReadableForm Quantity := ⟨fun _ => rfl⟩

instance : ReadableForm KeyPath where
  isReadable_encode _ := by
    unfold instJsonFormKeyPath
    simp

instance : ReadableForm ConfigMapVolume where
  isReadable_encode _ := by
    unfold instJsonFormConfigMapVolume
    simp

instance : ReadableForm SecretVolume where
  isReadable_encode _ := by
    unfold instJsonFormSecretVolume
    simp

instance : ReadableForm TemplateMetadata where
  isReadable_encode _ := by
    unfold instJsonFormTemplateMetadata
    simp

instance : ReadableForm DiskPopulator where
  isReadable_encode _ := by
    unfold instJsonFormDiskPopulator
    simp

instance : ReadableForm DiskSpec where
  isReadable_encode _ := by
    unfold instJsonFormDiskSpec
    simp

instance : ReadableForm DiskTemplate where
  isReadable_encode _ := by
    unfold instJsonFormDiskTemplate
    simp

instance : ReadableForm DiskVolume where
  isReadable_encode _ := by
    unfold instJsonFormDiskVolume
    simp

instance : ReadableForm Volume where
  isReadable_encode _ := by
    unfold instJsonFormVolume
    simp

instance : LawfulJsonForm Volume where
  decode_encode v := by
    have hread : guard ((encode v).isReadable = true) = some () :=
      (Option.guard_eq_some' ()).2 (isReadable_encode v)
    unfold instJsonFormVolume at hread ⊢
    dsimp only [bind, Option.bind] at hread ⊢
    rw [hread]
    simp
  encode_ne_null _ := nofun

instance : LawfulJsonForm VolumeAttachment where
  decode_encode _ := by
    unfold instJsonFormVolumeAttachment
    dsimp only [bind, Option.bind]
    simp
  encode_ne_null _ := nofun

/-! ## What an instance runs -/

instance : LawfulJsonForm NamedPort where
  decode_encode _ := by
    unfold instJsonFormNamedPort
    dsimp only [bind, Option.bind]
    simp
  encode_ne_null _ := nofun

instance : LawfulJsonForm ContainerResources where
  decode_encode _ := by
    unfold instJsonFormContainerResources
    dsimp only [bind, Option.bind]
    simp
  encode_ne_null _ := nofun

instance : LawfulJsonForm Container where
  decode_encode _ := by
    unfold instJsonFormContainer
    dsimp only [bind, Option.bind]
    simp
  encode_ne_null _ := nofun

instance : LawfulJsonForm Sandbox where
  decode_encode _ := by
    unfold instJsonFormSandbox
    dsimp only [bind, Option.bind]
    simp
  encode_ne_null _ := nofun

instance : LawfulJsonForm VirtualMachine where
  decode_encode _ := by
    unfold instJsonFormVirtualMachine
    dsimp only [bind, Option.bind]
    simp
  encode_ne_null _ := nofun

instance : LawfulJsonForm RuntimeResources where
  decode_encode _ := by
    unfold instJsonFormRuntimeResources
    dsimp only [bind, Option.bind]
    simp
  encode_ne_null _ := nofun

instance : LawfulJsonForm Runtime where
  decode_encode _ := by
    unfold instJsonFormRuntime
    dsimp only [bind, Option.bind]
    simp
  encode_ne_null _ := nofun

/-! ## Network interfaces -/

instance : LawfulJsonForm IpBlock where
  decode_encode _ := by
    unfold instJsonFormIpBlock
    dsimp only [bind, Option.bind]
    simp
  encode_ne_null _ := nofun

instance : LawfulJsonForm PolicyPeer where
  decode_encode _ := by
    unfold instJsonFormPolicyPeer
    dsimp only [bind, Option.bind]
    simp
  encode_ne_null _ := nofun

instance : LawfulJsonForm PolicyPort where
  decode_encode _ := by
    unfold instJsonFormPolicyPort
    dsimp only [bind, Option.bind]
    simp
  encode_ne_null _ := nofun

instance : LawfulJsonForm IngressRule where
  decode_encode _ := by
    unfold instJsonFormIngressRule
    dsimp only [bind, Option.bind]
    simp
  encode_ne_null _ := nofun

instance : LawfulJsonForm InterfacePolicy where
  decode_encode _ := by
    unfold instJsonFormInterfacePolicy
    dsimp only [bind, Option.bind]
    simp
  encode_ne_null _ := nofun

instance : LawfulJsonForm NetworkInterface where
  decode_encode _ := by
    unfold instJsonFormNetworkInterface
    dsimp only [bind, Option.bind]
    simp
  encode_ne_null _ := nofun

/-! ## Instances -/

instance : LawfulJsonForm SchedulingGate where
  decode_encode _ := by
    unfold instJsonFormSchedulingGate
    dsimp only [bind, Option.bind]
    simp
  encode_ne_null _ := nofun

instance : LawfulJsonForm InstanceControl where
  decode_encode _ := by
    unfold instJsonFormInstanceControl
    dsimp only [bind, Option.bind]
    simp
  encode_ne_null _ := nofun

instance : LawfulJsonForm InstanceSpec where
  decode_encode _ := by
    unfold instJsonFormInstanceSpec
    dsimp only [bind, Option.bind]
    simp
  encode_ne_null _ := nofun

instance : LawfulJsonForm InstanceTemplate where
  decode_encode _ := by
    unfold instJsonFormInstanceTemplate
    dsimp only [bind, Option.bind]
    simp
  encode_ne_null _ := nofun

instance : LawfulJsonForm InterfaceAssignments where
  decode_encode _ := by
    unfold instJsonFormInterfaceAssignments
    dsimp only [bind, Option.bind]
    simp
  encode_ne_null _ := nofun

instance : LawfulJsonForm InterfaceStatus where
  decode_encode _ := by
    unfold instJsonFormInterfaceStatus
    dsimp only [bind, Option.bind]
    simp
  encode_ne_null _ := nofun

instance : LawfulJsonForm ControlStatus where
  decode_encode _ := by
    unfold instJsonFormControlStatus
    dsimp only [bind, Option.bind]
    simp
  encode_ne_null _ := nofun

/-! ## Locations and networks -/

instance : LawfulJsonForm GcpProvider where
  decode_encode _ := by
    unfold instJsonFormGcpProvider
    dsimp only [bind, Option.bind]
    simp
  encode_ne_null _ := nofun

instance : LawfulJsonForm LocationProvider where
  decode_encode _ := by
    unfold instJsonFormLocationProvider
    dsimp only [bind, Option.bind]
    simp
  encode_ne_null _ := nofun

instance : LawfulJsonForm LocationSpec where
  decode_encode _ := by
    unfold instJsonFormLocationSpec
    dsimp only [bind, Option.bind]
    simp
  encode_ne_null _ := nofun

instance : LawfulJsonForm IpFamily where
  decode_encode f := by cases f <;> rfl
  encode_ne_null f := by cases f <;> nofun

instance : LawfulJsonForm NetworkIpam where
  decode_encode _ := by
    unfold instJsonFormNetworkIpam
    dsimp only [bind, Option.bind]
    simp
  encode_ne_null _ := nofun

instance : LawfulJsonForm NetworkSpec where
  decode_encode _ := by
    unfold instJsonFormNetworkSpec
    dsimp only [bind, Option.bind]
    simp
  encode_ne_null _ := nofun

instance : LawfulJsonForm NetworkPlace where
  decode_encode _ := by
    unfold instJsonFormNetworkPlace
    dsimp only [bind, Option.bind]
    simp
  encode_ne_null _ := nofun

instance : LawfulJsonForm SubnetClaimSpec where
  decode_encode _ := by
    unfold instJsonFormSubnetClaimSpec
    dsimp only [bind, Option.bind]
    simp
  encode_ne_null _ := nofun

instance : LawfulJsonForm SubnetSpec where
  decode_encode _ := by
    unfold instJsonFormSubnetSpec
    dsimp only [bind, Option.bind]
    simp
  encode_ne_null _ := nofun

/-! ## Workloads and deployments -/

instance : LawfulJsonForm MetricTarget where
  decode_encode _ := by
    unfold instJsonFormMetricTarget
    dsimp only [bind, Option.bind]
    simp
  encode_ne_null _ := nofun

instance : LawfulJsonForm ResourceMetric where
  decode_encode _ := by
    unfold instJsonFormResourceMetric
    dsimp only [bind, Option.bind]
    simp
  encode_ne_null _ := nofun

instance : LawfulJsonForm Metric where
  decode_encode _ := by
    unfold instJsonFormMetric
    dsimp only [bind, Option.bind]
    simp
  encode_ne_null _ := nofun

instance : LawfulJsonForm ManagementPolicy where
  decode_encode p := by cases p; rfl
  encode_ne_null p := by cases p; nofun

instance : LawfulJsonForm ScaleSettings where
  decode_encode _ := by
    unfold instJsonFormScaleSettings
    dsimp only [bind, Option.bind]
    simp
  encode_ne_null _ := nofun

instance : LawfulJsonForm Placement where
  decode_encode _ := by
    unfold instJsonFormPlacement
    dsimp only [bind, Option.bind]
    simp
  encode_ne_null _ := nofun

instance : LawfulJsonForm GatewayListener where
  decode_encode _ := by
    unfold instJsonFormGatewayListener
    dsimp only [bind, Option.bind]
    simp
  encode_ne_null _ := nofun

instance : LawfulJsonForm GatewaySpec where
  decode_encode _ := by
    unfold instJsonFormGatewaySpec
    dsimp only [bind, Option.bind]
    simp
  encode_ne_null _ := nofun

instance : LawfulJsonForm GatewayTemplate where
  decode_encode _ := by
    unfold instJsonFormGatewayTemplate
    dsimp only [bind, Option.bind]
    simp
  encode_ne_null _ := nofun

instance : LawfulJsonForm BackendReference where
  decode_encode _ := by
    unfold instJsonFormBackendReference
    dsimp only [bind, Option.bind]
    simp
  encode_ne_null _ := nofun

instance : LawfulJsonForm RouteRule where
  decode_encode _ := by
    unfold instJsonFormRouteRule
    dsimp only [bind, Option.bind]
    simp
  encode_ne_null _ := nofun

instance : LawfulJsonForm TcpRoute where
  decode_encode _ := by
    unfold instJsonFormTcpRoute
    dsimp only [bind, Option.bind]
    simp
  encode_ne_null _ := nofun

instance : LawfulJsonForm Gateway where
  decode_encode _ := by
    unfold instJsonFormGateway
    dsimp only [bind, Option.bind]
    simp
  encode_ne_null _ := nofun

instance : LawfulJsonForm GatewayAddress where
  decode_encode _ := by
    unfold instJsonFormGatewayAddress
    dsimp only [bind, Option.bind]
    simp
  encode_ne_null _ := nofun

instance : LawfulJsonForm WorkloadSpec where
  decode_encode _ := by
    unfold instJsonFormWorkloadSpec
    dsimp only [bind, Option.bind]
    simp
  encode_ne_null _ := nofun

instance : LawfulJsonForm DeploymentSpec where
  decode_encode _ := by
    unfold instJsonFormDeploymentSpec
    dsimp only [bind, Option.bind]
    simp
  encode_ne_null _ := nofun

end ControlPlane
