import ControlPlane.Proofs.Json.Readability
import ControlPlane.Proofs.Schema.Forms

/-!
# Forms that survive sorting

The order in which a record writes its members carries nothing: the value is read back from its form
after the members of every object in it have been sorted. Hence the sorted form of a value is the form
of no other value of its type. This is shown of an instance's template and of all that is in it.

* `Json.valuesOf_canonicalMembers`: what a name is bound to after sorting.
* `SortableForm`, `canonical_encode_injective`: types whose values are read back from sorted forms.
-/

namespace ControlPlane

namespace Json

/-- What is left of the values of a name when an object is sorted: the last of them, sorted. -/
def sortedValues (values : List Json) : List Json :=
  (values.getLast?.map canonical).toList

@[simp] theorem valuesOf_canonicalMembers (name : String) (m : Members) :
    valuesOf name (Keyed.ofList Prod.fst (canonicalMembers m)).toList =
      sortedValues (valuesOf name m) := by
  have hfilter : (canonicalMembers m).filter (·.1 == name) =
      (m.filter (·.1 == name)).map fun e => (e.1, e.2.canonical) := by
    rw [canonicalMembers_eq_map, List.filter_map]
    rfl
  rw [valuesOf, Keyed.filter_key, Keyed.get?_ofList, hfilter, List.getLast?_map, sortedValues,
    valuesOf, List.getLast?_map]
  cases (m.filter (·.1 == name)).getLast? <;> rfl

@[simp] theorem canonical_obj (m : Members) :
    (Json.obj m).canonical = .obj (Keyed.ofList Prod.fst (canonicalMembers m)).toList := by
  rw [canonical]

end Json

/-- Types whose values are written without fractions, and read back from their forms when the members of
every object have been sorted. -/
class SortableForm (α : Type) [JsonForm α] : Prop extends PresentForm α where
  isExact_encode (a : α) : (encode a).isExact = true
  decode_canonical (a : α) : decode (encode a).canonical = some a

export SortableForm (isExact_encode decode_canonical)

attribute [simp] isExact_encode decode_canonical

/-- The sorted form of a value is the form of no other. -/
theorem canonical_encode_injective {α : Type} [JsonForm α] [SortableForm α] {a b : α}
    (h : (encode a).canonical = (encode b).canonical) : a = b := by
  have hread : decode (encode a).canonical = some b := h ▸ decode_canonical b
  exact Option.some.inj ((decode_canonical a).symm.trans hread)

/-! ## Scalars, lists and dictionaries -/

instance : SortableForm String where
  isExact_encode _ := rfl
  decode_canonical _ := rfl

instance : SortableForm Bool where
  isExact_encode _ := rfl
  decode_canonical _ := rfl

instance : SortableForm Int32 where
  isExact_encode _ := rfl
  decode_canonical n := decode_encode n

/-- A dictionary is written in the order of its keys. -/
theorem toList_canonicalMembers_encode {α : Type} [JsonForm α] (d : Dict α) :
    (Keyed.ofList Prod.fst (Json.canonicalMembers (d.toList.map fun e => (e.1, encode e.2)))).toList =
      d.toList.map fun e => (e.1, (encode e.2).canonical) := by
  have hmap : Json.canonicalMembers (d.toList.map fun e => (e.1, encode e.2)) =
      d.toList.map fun e => (e.1, (encode e.2).canonical) := by
    rw [Json.canonicalMembers_eq_map, List.map_map]
    rfl
  let sorted : Dict Json :=
    ⟨d.toList.map fun e => (e.1, (encode e.2).canonical), List.pairwise_map.2 d.ascending⟩
  rw [hmap]
  exact congrArg Keyed.toList (Keyed.ofList_toList sorted)

section

variable {α : Type} [JsonForm α] [SortableForm α]

instance : SortableForm (List α) where
  isExact_encode l := by
    change Json.itemsExact (l.map encode) = true
    induction l with
    | nil => rfl
    | cons a rest ih => simp [Json.itemsExact, ih]
  decode_canonical l := by
    change decodeItems (Json.canonicalItems (l.map encode)) = some l
    induction l with
    | nil => rfl
    | cons a rest ih => simp [Json.canonicalItems, decodeItems, ih]
  encode_ne_null _ := nofun

instance : SortableForm (Dict α) where
  isExact_encode d := by
    change Json.membersExact (d.toList.map fun e => (e.1, encode e.2)) = true
    induction d.toList with
    | nil => rfl
    | cons e rest ih => simp [Json.membersExact, ih]
  decode_canonical d := by
    have hmembers (l : List (String × α)) :
        decodeMembers (l.map fun e => (e.1, (encode e.2).canonical)) = some l := by
      induction l with
      | nil => rfl
      | cons e rest ih => simp [decodeMembers, ih]
    change (decodeMembers (Keyed.ofList Prod.fst (Json.canonicalMembers
      (d.toList.map fun e => (e.1, encode e.2)))).toList).map (Keyed.ofList Prod.fst) = some d
    rw [toList_canonicalMembers_encode, hmembers, Option.map_some, Keyed.ofList_toList]
  encode_ne_null _ := nofun

/-! ## Members -/

@[simp] theorem Json.isExact_obj (m : Members) : (Json.obj m).isExact = membersExact m := by
  rw [isExact]

@[simp] theorem Json.membersExact_append (m n : Members) :
    membersExact (m ++ n) = (membersExact m && membersExact n) := by
  induction m with
  | nil => simp [membersExact]
  | cons e rest ih => simp [membersExact, ih, Bool.and_assoc]

namespace Members

@[simp] theorem membersExact_always (name : String) (a : α) :
    Json.membersExact (always name a) = true := by
  simp [always, Json.membersExact]

@[simp] theorem membersExact_optional (name : String) (o : Option α) :
    Json.membersExact (optional name o) = true := by
  cases o <;> simp [optional, Json.membersExact]

@[simp] theorem membersExact_unlessEmpty (name : String) (l : List α) :
    Json.membersExact (unlessEmpty name l) = true := by
  cases l <;> simp [unlessEmpty, Json.membersExact]

@[simp] theorem membersExact_unlessEmptyDict (name : String) (d : Dict α) :
    Json.membersExact (unlessEmptyDict name d) = true := by
  unfold unlessEmptyDict
  split <;> simp [Json.membersExact]

@[simp] theorem onlyOf_sortedValues (a : α) : onlyOf (Json.sortedValues [encode a]) = some a :=
  decode_canonical a

@[simp] theorem lastOf_sortedValues (a : α) :
    lastOf (Json.sortedValues [encode a]) = some (some a) := by
  change decodeUnlessNull (encode a).canonical = _
  rw [decodeUnlessNull_of_ne_null (Json.canonical_ne_null (encode_ne_null a)), decode_canonical,
    Option.map_some]

@[simp] theorem lastOf_sortedValues_optional (o : Option α) :
    lastOf (Json.sortedValues (o.map encode).toList) = some o := by
  cases o with
  | none => rfl
  | some a => exact lastOf_sortedValues a

@[simp] theorem maybeOf_sortedValues_optional (o : Option α) :
    maybeOf (Json.sortedValues (o.map encode).toList) = some o := by
  rw [Json.sortedValues, maybeOf_toList]
  exact lastOf_sortedValues_optional o

@[simp] theorem defaultOf_sortedValues (default a : α) :
    defaultOf default (Json.sortedValues [encode a]) = some a :=
  decode_canonical a

@[simp] theorem defaultOf_sortedValues_unlessEmpty (l : List α) :
    defaultOf [] (Json.sortedValues (if l = [] then [] else [encode l])) = some l := by
  split
  · next h => rw [h]; rfl
  · exact defaultOf_sortedValues [] l

@[simp] theorem defaultOf_sortedValues_unlessEmptyDict (d : Dict α) :
    defaultOf .empty (Json.sortedValues (if d.isEmpty then [] else [encode d])) = some d := by
  split
  · next h =>
    have hd : d = .empty := Keyed.ext (List.isEmpty_iff.1 h)
    rw [hd]
    rfl
  · exact defaultOf_sortedValues .empty d

end Members

end

/-! ## Records of the platform -/

instance : SortableForm Quantity where
  isExact_encode _ := rfl
  decode_canonical _ := rfl

instance : SortableForm IntOrString where
  isExact_encode
    | .int _ => rfl
    | .str _ => rfl
  decode_canonical
    | .int n => decode_encode (IntOrString.int n)
    | .str _ => rfl

instance : SortableForm KeySelector where
  isExact_encode _ := by
    unfold instJsonFormKeySelector
    simp
  decode_canonical _ := by
    unfold instJsonFormKeySelector
    dsimp only [bind, Option.bind]
    simp

instance : SortableForm FieldSelector where
  isExact_encode _ := by
    unfold instJsonFormFieldSelector
    simp
  decode_canonical _ := by
    unfold instJsonFormFieldSelector
    dsimp only [bind, Option.bind]
    simp

instance : SortableForm ResourceSelector where
  isExact_encode _ := by
    unfold instJsonFormResourceSelector
    simp
  decode_canonical _ := by
    unfold instJsonFormResourceSelector
    dsimp only [bind, Option.bind]
    simp

instance : SortableForm EnvSource where
  isExact_encode _ := by
    unfold instJsonFormEnvSource
    simp
  decode_canonical _ := by
    unfold instJsonFormEnvSource
    dsimp only [bind, Option.bind]
    simp

instance : SortableForm EnvVar where
  isExact_encode _ := by
    unfold instJsonFormEnvVar
    simp
  decode_canonical _ := by
    unfold instJsonFormEnvVar
    dsimp only [bind, Option.bind]
    simp

instance : SortableForm KeyPath where
  isExact_encode _ := by
    unfold instJsonFormKeyPath
    simp
  decode_canonical _ := by
    unfold instJsonFormKeyPath
    dsimp only [bind, Option.bind]
    simp

instance : SortableForm ConfigMapVolume where
  isExact_encode _ := by
    unfold instJsonFormConfigMapVolume
    simp
  decode_canonical _ := by
    unfold instJsonFormConfigMapVolume
    dsimp only [bind, Option.bind]
    simp

instance : SortableForm SecretVolume where
  isExact_encode _ := by
    unfold instJsonFormSecretVolume
    simp
  decode_canonical _ := by
    unfold instJsonFormSecretVolume
    dsimp only [bind, Option.bind]
    simp

/-! ## References and volumes -/

instance : SortableForm NetworkReference where
  isExact_encode _ := by
    unfold instJsonFormNetworkReference
    simp
  decode_canonical _ := by
    unfold instJsonFormNetworkReference
    dsimp only [bind, Option.bind]
    simp

instance : SortableForm LocationReference where
  isExact_encode _ := by
    unfold instJsonFormLocationReference
    simp
  decode_canonical _ := by
    unfold instJsonFormLocationReference
    dsimp only [bind, Option.bind]
    simp

instance : SortableForm LocalReference where
  isExact_encode _ := by
    unfold instJsonFormLocalReference
    simp
  decode_canonical _ := by
    unfold instJsonFormLocalReference
    dsimp only [bind, Option.bind]
    simp

instance : SortableForm TemplateMetadata where
  isExact_encode _ := by
    unfold instJsonFormTemplateMetadata
    simp
  decode_canonical _ := by
    unfold instJsonFormTemplateMetadata
    dsimp only [bind, Option.bind]
    simp

instance : SortableForm DiskPopulator where
  isExact_encode _ := by
    unfold instJsonFormDiskPopulator
    simp
  decode_canonical _ := by
    unfold instJsonFormDiskPopulator
    dsimp only [bind, Option.bind]
    simp

instance : SortableForm DiskSpec where
  isExact_encode _ := by
    unfold instJsonFormDiskSpec
    simp
  decode_canonical _ := by
    unfold instJsonFormDiskSpec
    dsimp only [bind, Option.bind]
    simp

instance : SortableForm DiskTemplate where
  isExact_encode _ := by
    unfold instJsonFormDiskTemplate
    simp
  decode_canonical _ := by
    unfold instJsonFormDiskTemplate
    dsimp only [bind, Option.bind]
    simp

instance : SortableForm DiskVolume where
  isExact_encode _ := by
    unfold instJsonFormDiskVolume
    simp
  decode_canonical _ := by
    unfold instJsonFormDiskVolume
    dsimp only [bind, Option.bind]
    simp

instance : SortableForm Volume where
  isExact_encode _ := by
    unfold instJsonFormVolume
    simp
  decode_canonical v := by
    -- the decoder looks at every part before it reads any
    have hread : guard ((encode v).canonical.isReadable = true) = some () :=
      (Option.guard_eq_some' ()).2 (Json.isReadable_canonical _ (isReadable_encode v))
    unfold instJsonFormVolume at hread ⊢
    dsimp only [bind, Option.bind] at hread ⊢
    rw [hread]
    simp

instance : SortableForm VolumeAttachment where
  isExact_encode _ := by
    unfold instJsonFormVolumeAttachment
    simp
  decode_canonical _ := by
    unfold instJsonFormVolumeAttachment
    dsimp only [bind, Option.bind]
    simp

/-! ## What an instance runs -/

instance : SortableForm NamedPort where
  isExact_encode _ := by
    unfold instJsonFormNamedPort
    simp
  decode_canonical _ := by
    unfold instJsonFormNamedPort
    dsimp only [bind, Option.bind]
    simp

instance : SortableForm ContainerResources where
  isExact_encode _ := by
    unfold instJsonFormContainerResources
    simp
  decode_canonical _ := by
    unfold instJsonFormContainerResources
    dsimp only [bind, Option.bind]
    simp

instance : SortableForm Container where
  isExact_encode _ := by
    unfold instJsonFormContainer
    simp
  decode_canonical _ := by
    unfold instJsonFormContainer
    dsimp only [bind, Option.bind]
    simp

instance : SortableForm Sandbox where
  isExact_encode _ := by
    unfold instJsonFormSandbox
    simp
  decode_canonical _ := by
    unfold instJsonFormSandbox
    dsimp only [bind, Option.bind]
    simp

instance : SortableForm VirtualMachine where
  isExact_encode _ := by
    unfold instJsonFormVirtualMachine
    simp
  decode_canonical _ := by
    unfold instJsonFormVirtualMachine
    dsimp only [bind, Option.bind]
    simp

instance : SortableForm RuntimeResources where
  isExact_encode _ := by
    unfold instJsonFormRuntimeResources
    simp
  decode_canonical _ := by
    unfold instJsonFormRuntimeResources
    dsimp only [bind, Option.bind]
    simp

instance : SortableForm Runtime where
  isExact_encode _ := by
    unfold instJsonFormRuntime
    simp
  decode_canonical _ := by
    unfold instJsonFormRuntime
    dsimp only [bind, Option.bind]
    simp

/-! ## Network interfaces -/

instance : SortableForm IpBlock where
  isExact_encode _ := by
    unfold instJsonFormIpBlock
    simp
  decode_canonical _ := by
    unfold instJsonFormIpBlock
    dsimp only [bind, Option.bind]
    simp

instance : SortableForm PolicyPeer where
  isExact_encode _ := by
    unfold instJsonFormPolicyPeer
    simp
  decode_canonical _ := by
    unfold instJsonFormPolicyPeer
    dsimp only [bind, Option.bind]
    simp

instance : SortableForm PolicyPort where
  isExact_encode _ := by
    unfold instJsonFormPolicyPort
    simp
  decode_canonical _ := by
    unfold instJsonFormPolicyPort
    dsimp only [bind, Option.bind]
    simp

instance : SortableForm IngressRule where
  isExact_encode _ := by
    unfold instJsonFormIngressRule
    simp
  decode_canonical _ := by
    unfold instJsonFormIngressRule
    dsimp only [bind, Option.bind]
    simp

instance : SortableForm InterfacePolicy where
  isExact_encode _ := by
    unfold instJsonFormInterfacePolicy
    simp
  decode_canonical _ := by
    unfold instJsonFormInterfacePolicy
    dsimp only [bind, Option.bind]
    simp

instance : SortableForm NetworkInterface where
  isExact_encode _ := by
    unfold instJsonFormNetworkInterface
    simp
  decode_canonical _ := by
    unfold instJsonFormNetworkInterface
    dsimp only [bind, Option.bind]
    simp

/-! ## Templates -/

instance : SortableForm SchedulingGate where
  isExact_encode _ := by
    unfold instJsonFormSchedulingGate
    simp
  decode_canonical _ := by
    unfold instJsonFormSchedulingGate
    dsimp only [bind, Option.bind]
    simp

instance : SortableForm InstanceControl where
  isExact_encode _ := by
    unfold instJsonFormInstanceControl
    simp
  decode_canonical _ := by
    unfold instJsonFormInstanceControl
    dsimp only [bind, Option.bind]
    simp

instance : SortableForm InstanceSpec where
  isExact_encode _ := by
    unfold instJsonFormInstanceSpec
    simp
  decode_canonical _ := by
    unfold instJsonFormInstanceSpec
    dsimp only [bind, Option.bind]
    simp

instance : SortableForm InstanceTemplate where
  isExact_encode _ := by
    unfold instJsonFormInstanceTemplate
    simp
  decode_canonical _ := by
    unfold instJsonFormInstanceTemplate
    dsimp only [bind, Option.bind]
    simp

end ControlPlane
