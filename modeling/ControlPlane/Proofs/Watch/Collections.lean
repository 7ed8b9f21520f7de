import ControlPlane.Watch
import Mathlib.Data.List.TakeWhile

/-!
# Collections that are what they are asked for

The path of a collection is written with the name of its namespace as it is. If that is a name that a
namespace can have, the path leads back to the collection (`Collection.ofPath?_path`), and a watcher
sees the collection and the changes to it (`Collection.view?_of_name`).
-/

namespace ControlPlane

/-- Whether a character may stand in the name of a namespace. -/
def mayStandInNamespace (c : Char) : Bool :=
  c.isLower || c.isDigit || c = '-'

/-- Whether a text is the name of a namespace, as far as its characters and its length go. -/
def isNamespaceName (s : String) : Bool :=
  s.utf8ByteSize ≤ 63 && s.toList.all mayStandInNamespace

namespace Target

/-- Whether a character may stand in a path, and stands for itself there. -/
def isPlain (c : Char) : Bool :=
  mayStandInPath c && c ≠ '#' && c ≠ '?'

theorem isPlain_of_namespace {c : Char} (h : mayStandInNamespace c = true) : isPlain c = true := by
  have hspace : ' ' < c := by
    simp only [mayStandInNamespace, Bool.or_eq_true, decide_eq_true_eq] at h
    obtain (h | h) | rfl := h
    · have hlow : 'a'.val ≤ c.val := of_decide_eq_true (Bool.and_eq_true_iff.1 h).1
      exact Char.lt_def.2 (UInt32.lt_of_lt_of_le (by decide) hlow)
    · have hlow : '0'.val ≤ c.val := of_decide_eq_true (Bool.and_eq_true_iff.1 h).1
      exact Char.lt_def.2 (UInt32.lt_of_lt_of_le (by decide) hlow)
    · decide
  have hother : ∀ x, mayStandInNamespace x = false → c ≠ x := by
    rintro x hx rfl
    cases h.symm.trans hx
  simp only [isPlain, mayStandInPath, hspace, decide_true, Bool.true_and, Bool.and_eq_true,
    decide_eq_true_eq]
  refine ⟨⟨⟨⟨⟨hother _ ?_, hother _ ?_⟩, hother _ ?_⟩, hother _ ?_⟩, hother _ ?_⟩, hother _ ?_⟩ <;> rfl

theorem partsBetween_of_not_mem {mark : Char} {l : List Char} (h : mark ∉ l) :
    partsBetween mark l = [l] := by
  induction l with
  | nil => rfl
  | cons c rest ih =>
    rw [List.mem_cons, not_or] at h
    rw [partsBetween, if_neg (Ne.symm h.1), ih h.2]

theorem partsBetween_append {mark : Char} {l : List Char} (rest : List Char) (h : mark ∉ l) :
    partsBetween mark (l ++ mark :: rest) = l :: partsBetween mark rest := by
  induction l with
  | nil => simp [partsBetween]
  | cons c l ih =>
    rw [List.mem_cons, not_or] at h
    rw [List.cons_append, partsBetween, if_neg (Ne.symm h.1), ih h.2]

/-- A plain path is read back, and so is what follows the question mark. -/
theorem ofText?_append {path query : String} (hp : path.toList.all isPlain = true)
    (hq : query.toList.all (fun c => mayStandInQuery c && c ≠ '#') = true)
    (hlen : path.utf8ByteSize + 1 + query.utf8ByteSize ≤ lengthLimit) :
    ofText? (path ++ "?" ++ query) = some ⟨path, query⟩ := by
  have hp' : ∀ c ∈ path.toList, mayStandInPath c = true ∧ c ≠ '#' ∧ c ≠ '?' := by
    simpa [isPlain, and_assoc] using hp
  have hq' : ∀ c ∈ query.toList, mayStandInQuery c = true ∧ c ≠ '#' := by simpa using hq
  have hall : ∀ c ∈ path.toList ++ '?' :: query.toList, decide (c ≠ '#') = true := by
    intro c hc
    rcases List.mem_append.1 hc with hc | hc
    · exact decide_eq_true (hp' c hc).2.1
    · rcases List.mem_cons.1 hc with rfl | hc
      · decide
      · exact decide_eq_true (hq' c hc).2
  have hmark : ∀ c ∈ path.toList, decide (c ≠ '?') = true := fun c hc =>
    decide_eq_true (hp' c hc).2.2
  have htext : (path ++ "?" ++ query).toList = path.toList ++ '?' :: query.toList := by simp
  have hsize : (path ++ "?" ++ query).utf8ByteSize ≤ lengthLimit := by
    rw [String.utf8ByteSize_append, String.utf8ByteSize_append]
    exact hlen
  have hpath : (path.toList ++ '?' :: query.toList).takeWhile (· ≠ '?') = path.toList := by
    rw [List.takeWhile_append_of_pos hmark]
    simp
  have hquery : ((path.toList ++ '?' :: query.toList).dropWhile (· ≠ '?')).drop 1 =
      query.toList := by
    rw [List.dropWhile_append_of_pos hmark]
    simp
  unfold ofText?
  rw [htext, List.takeWhile_eq_self_iff.2 hall]
  simp only [hpath, hquery, String.ofList_toList]
  rw [if_pos]
  simp only [hsize, decide_true, Bool.true_and, Bool.and_eq_true, List.all_eq_true]
  exact ⟨fun c hc => (hp' c hc).1, fun c hc => (hq' c hc).1⟩

theorem withQuery_limit (path : String) :
    withQuery path [("limit", "500")] = path ++ "?" ++ "&limit=500" :=
  congrArg (path ++ "?" ++ ·) (by decide +kernel)

theorem withQuery_watch (path : String) :
    withQuery path [("watch", "true")] = path ++ "?" ++ "&watch=true" :=
  congrArg (path ++ "?" ++ ·) (by decide +kernel)

end Target

/-- There are two API groups. -/
theorem Kind.group_cases (k : Kind) :
    k.group = "compute.datumapis.com" ∨ k.group = "networking.datumapis.com" := by
  cases k <;> first | exact .inl rfl | exact .inr rfl

namespace Collection

theorem path_toList (k : Kind) (ns : String) : (path ⟨k, some ns⟩).toList =
    ("/apis/" ++ k.apiVersion ++ "/namespaces/").toList ++ (ns.toList ++ '/' :: k.plural.toList) := by
  simp [path]

theorem path_plain {c : Collection} (h : c.ns.all isNamespaceName = true) :
    c.path.toList.all Target.isPlain = true ∧ c.path.utf8ByteSize ≤ 200 := by
  obtain ⟨k, _ | ns⟩ := c
  · cases k <;> decide +kernel
  · simp only [Option.all_some, isNamespaceName, Bool.and_eq_true, decide_eq_true_eq] at h
    obtain ⟨hlen, hchars⟩ := h
    have hfolder : ("/apis/" ++ k.apiVersion ++ "/namespaces/").toList.all Target.isPlain = true ∧
        ("/apis/" ++ k.apiVersion ++ "/namespaces/").utf8ByteSize ≤ 100 := by
      rw [Kind.apiVersion]
      rcases k.group_cases with hk | hk <;> rw [hk] <;> decide +kernel
    have hkind : ('/' :: k.plural.toList).all Target.isPlain = true ∧
        k.plural.utf8ByteSize ≤ 30 := by
      cases k <;> decide +kernel
    constructor
    · rw [path_toList, List.all_append, List.all_append, hfolder.1, hkind.1, Bool.true_and,
        Bool.and_true]
      exact List.all_eq_true.2 fun c hc => Target.isPlain_of_namespace (List.all_eq_true.1 hchars c hc)
    · have hslash : "/".utf8ByteSize = 1 := by decide +kernel
      simp only [path, Option.elim_some, String.utf8ByteSize_append] at hfolder ⊢
      omega

/-- The parts of a path between its slashes. -/
theorem parts_path {k : Kind} {ns : String} (h : '/' ∉ ns.toList) :
    (Target.partsBetween '/' (path ⟨k, some ns⟩).toList).map String.ofList =
      ["", "apis", k.group, Kind.version, "namespaces", ns, k.plural] := by
  have hparts : (path ⟨k, some ns⟩).toList =
      [] ++ '/' :: ("apis".toList ++ '/' :: (k.group.toList ++ '/' :: (Kind.version.toList ++ '/' ::
        ("namespaces".toList ++ '/' :: (ns.toList ++ '/' :: k.plural.toList))))) := by
    simp [path, Kind.apiVersion]
  have hgroup : '/' ∉ k.group.toList := by
    rcases k.group_cases with hk | hk <;> rw [hk] <;> decide +kernel
  have hplural : '/' ∉ k.plural.toList := by cases k <;> decide +kernel
  rw [hparts, Target.partsBetween_append _ List.not_mem_nil,
    Target.partsBetween_append _ (by decide +kernel), Target.partsBetween_append _ hgroup,
    Target.partsBetween_append _ (by decide +kernel),
    Target.partsBetween_append _ (by decide +kernel), Target.partsBetween_append _ h,
    Target.partsBetween_of_not_mem hplural]
  simp

theorem ofPath?_path {c : Collection} (h : c.ns.all isNamespaceName = true) :
    ofPath? c.path = some c := by
  obtain ⟨k, _ | ns⟩ := c
  · cases k <;> decide +kernel
  · simp only [Option.all_some, isNamespaceName, Bool.and_eq_true] at h
    have hns : '/' ∉ ns.toList := fun hm => absurd (List.all_eq_true.1 h.2 _ hm) (by decide)
    have hgroup : k.group ≠ "namespaces" := by
      rcases k.group_cases with hk | hk <;> rw [hk] <;> decide
    have hkind : Kind.ofPlural? k.plural = some k := by cases k <;> decide +kernel
    simp [ofPath?, parts_path hns, hkind, hgroup, Kind.version]

/-- A watcher of a collection sees the collection it asks for. -/
theorem view?_of_name {c : Collection} (h : c.ns.all isNamespaceName = true) :
    c.view? = some ⟨c, true⟩ := by
  obtain ⟨hp, hs⟩ := path_plain h
  have hl : Target.ofText? (Target.withQuery c.path [("limit", "500")]) =
      some ⟨c.path, "&limit=500"⟩ := by
    rw [Target.withQuery_limit]
    exact Target.ofText?_append hp (by decide +kernel) (by
      rw [show "&limit=500".utf8ByteSize = 10 by decide +kernel, Target.lengthLimit]
      omega)
  have hw : Target.ofText? (Target.withQuery c.path [("watch", "true")]) =
      some ⟨c.path, "&watch=true"⟩ := by
    rw [Target.withQuery_watch]
    exact Target.ofText?_append hp (by decide +kernel) (by
      rw [show "&watch=true".utf8ByteSize = 11 by decide +kernel, Target.lengthLimit]
      omega)
  have hlisting : Target.asksForChanges ⟨c.path, "&limit=500"⟩ = false :=
    (by decide +kernel : Target.occurs "watch=true".toList "&limit=500".toList = false)
  have hchanges : Target.asksForChanges ⟨c.path, "&watch=true"⟩ = true :=
    (by decide +kernel : Target.occurs "watch=true".toList "&watch=true".toList = true)
  simp [view?, hl, hw, ofPath?_path h, hlisting, hchanges]

end Collection

end ControlPlane
