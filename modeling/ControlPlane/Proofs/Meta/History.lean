import ControlPlane.Proofs.Rest.Observation

/-!
# What a condition remembers

Observations are filed one after the other (`fileAll`). What the set said of a type at first, and
what was observed of it since, are the entries of that type (`entries`). They end with a run of
entries that all have one status, and the condition on file is made up of both ends of that run:
everything is taken from the last entry, except for the time of the last transition, which is taken
from the entry the run began with (`Recorded`, kept by `Recorded.file`).

* `steadyFrom_append_singleton`: how one more entry goes on with the run, or begins another.
* `set_snd_iff`: filing an observation tells whether the set is another one afterwards.
* `fileAll_remembers`: what is on file after any observations, type by type.
-/

namespace ControlPlane

namespace ConditionSet

/-- Files observations one after the other. -/
def fileAll (s : ConditionSet) (observations : List Condition) : ConditionSet :=
  observations.foldl (fun s c => (s.set c).1) s

/-- What was said of a type: by the set at first, then by the observations. -/
def entries (s : ConditionSet) (observations : List Condition) (type : String) : List Condition :=
  (s.get? type).toList ++ observations.filter (·.type == type)

/-- From `e` on, which comes after `before`, the entries have one status. -/
def SteadyFrom (entries before : List Condition) (e : Condition) : Prop :=
  ∃ after, entries = before ++ e :: after ∧ ∀ x ∈ after, x.status = e.status

/-- `e` is the earliest entry from which on the entries have one status. -/
def RunBegins (entries : List Condition) (e : Condition) : Prop :=
  ∃ before, SteadyFrom entries before e ∧
    ∀ earlier x, SteadyFrom entries earlier x → before.length ≤ earlier.length

/-- What is on file of a type that has these entries. -/
def Recorded (entries : List Condition) : Option Condition → Prop
  | none => entries = []
  | some c => ∃ last first, entries.getLast? = some last ∧ RunBegins entries first ∧
      c = { last with lastTransitionTime := first.lastTransitionTime }

/-! ## Runs of one status -/

section Runs

variable {l before : List Condition} {c e last : Condition}

theorem steadyFrom_append_singleton :
    SteadyFrom (l ++ [c]) before e ↔
      before = l ∧ e = c ∨ SteadyFrom l before e ∧ c.status = e.status := by
  constructor
  · rintro ⟨after, h, hsteady⟩
    rcases List.eq_nil_or_concat after with rfl | ⟨init, x, rfl⟩
    · obtain ⟨rfl, hc⟩ := List.append_inj' h rfl
      exact .inl ⟨rfl, (List.head_eq_of_cons_eq hc).symm⟩
    · rw [List.concat_eq_append] at h hsteady
      rw [← List.cons_append, ← List.append_assoc] at h
      obtain ⟨rfl, hc⟩ := List.append_inj' h rfl
      obtain rfl := List.head_eq_of_cons_eq hc
      exact .inr ⟨⟨init, rfl, fun y hy => hsteady y (List.mem_append_left _ hy)⟩,
        hsteady c (List.mem_append_right _ List.mem_cons_self)⟩
  · rintro (⟨rfl, rfl⟩ | ⟨⟨after, rfl, hsteady⟩, hc⟩)
    · exact ⟨[], rfl, fun x hx => absurd hx List.not_mem_nil⟩
    · refine ⟨after ++ [c], by rw [List.append_assoc, List.cons_append], fun x hx => ?_⟩
      rcases List.mem_append.1 hx with hx | hx
      · exact hsteady x hx
      · rw [List.mem_singleton.1 hx, hc]

/-- A run reaches up to the last entry. -/
theorem SteadyFrom.status_getLast? (h : SteadyFrom l before e) (hlast : l.getLast? = some last) :
    last.status = e.status := by
  obtain ⟨after, rfl, hsteady⟩ := h
  rw [List.getLast?_append_of_ne_nil _ (List.cons_ne_nil _ _)] at hlast
  rcases List.mem_cons.1 (List.mem_of_getLast? hlast) with rfl | hmem
  · rfl
  · exact hsteady last hmem

theorem SteadyFrom.length_lt (h : SteadyFrom l before e) : before.length < l.length := by
  obtain ⟨after, rfl, -⟩ := h
  rw [List.length_append, List.length_cons]
  omega

theorem runBegins_singleton (c : Condition) : RunBegins [c] c :=
  ⟨[], ⟨[], rfl, fun _ hx => absurd hx List.not_mem_nil⟩, fun _ _ _ => Nat.zero_le _⟩

/-- An entry with the status of the one before goes on with its run. -/
theorem RunBegins.continued (h : RunBegins l e) (hlast : l.getLast? = some last)
    (hstatus : last.status = c.status) : RunBegins (l ++ [c]) e := by
  obtain ⟨before, hsteady, hfirst⟩ := h
  have hc : c.status = e.status := hstatus.symm.trans (hsteady.status_getLast? hlast)
  refine ⟨before, steadyFrom_append_singleton.2 (.inr ⟨hsteady, hc⟩), fun earlier x hx => ?_⟩
  rcases steadyFrom_append_singleton.1 hx with ⟨rfl, -⟩ | ⟨hx, -⟩
  · exact hsteady.length_lt.le
  · exact hfirst earlier x hx

/-- An entry with another status than the one before begins a run. -/
theorem runBegins_of_status_ne (hlast : l.getLast? = some last) (hstatus : last.status ≠ c.status) :
    RunBegins (l ++ [c]) c := by
  refine ⟨l, steadyFrom_append_singleton.2 (.inl ⟨rfl, rfl⟩), fun earlier x hx => ?_⟩
  rcases steadyFrom_append_singleton.1 hx with ⟨rfl, -⟩ | ⟨hx, hc⟩
  · exact le_rfl
  · exact absurd ((hx.status_getLast? hlast).trans hc.symm) hstatus

end Runs

/-! ## One observation -/

section File

variable {s : ConditionSet} {c : Condition} {l : List Condition}

theorem get?_set_self (s : ConditionSet) (c : Condition) :
    (s.set c).1.get? c.type = some (s.filed c) := by
  obtain ⟨t, ht⟩ := s.filed_eq c
  rw [set_fst, Keyed.get?_insert, if_pos (by rw [ht])]

/-- What is on file then reads as the observation, up to the time of the transition. -/
theorem exists_get?_set (s : ConditionSet) (c : Condition) :
    ∃ t, (s.set c).1.get? c.type = some { c with lastTransitionTime := t } := by
  obtain ⟨t, ht⟩ := s.filed_eq c
  exact ⟨t, (get?_set_self s c).trans (congrArg some ht)⟩

/-- Filing one more observation of a type keeps what is on file of it in step with its entries. -/
theorem Recorded.file (h : Recorded l (s.get? c.type)) :
    Recorded (l ++ [c]) ((s.set c).1.get? c.type) := by
  rw [get?_set_self]
  unfold filed
  cases hs : s.get? c.type with
  | none =>
    rw [hs] at h
    obtain rfl : l = [] := h
    exact ⟨c, c, rfl, runBegins_singleton c, rfl⟩
  | some old =>
    rw [hs] at h
    obtain ⟨last, first, hlast, hrun, rfl⟩ := h
    dsimp only
    by_cases hstatus : last.status = c.status
    · rw [if_neg (not_not_intro hstatus)]
      exact ⟨c, first, List.getLast?_concat, hrun.continued hlast hstatus, rfl⟩
    · rw [if_pos hstatus]
      exact ⟨c, c, List.getLast?_concat, runBegins_of_status_ne hlast hstatus, rfl⟩

/-- Filing an observation tells whether the set is another one afterwards. -/
theorem set_snd_iff (s : ConditionSet) (c : Condition) : (s.set c).2 = true ↔ (s.set c).1 ≠ s := by
  have hset : (s.set c).1 = s ↔ s.get? c.type = some (s.filed c) := by
    refine ⟨fun h => by rw [← h, get?_set_self, h], fun h => ?_⟩
    obtain ⟨hmem, -⟩ := Keyed.get?_eq_some_iff.1 h
    rw [set_fst]
    exact Keyed.insert_of_mem hmem
  rw [ne_eq, hset]
  unfold set filed
  cases hs : s.get? c.type with
  | none => simp
  | some old =>
    have htype : old.type = c.type := (Keyed.get?_eq_some_iff.1 hs).2
    by_cases hstatus : old.status = c.status
    · obtain ⟨type, status, reason, message, time, generation⟩ := old
      obtain ⟨type', status', reason', message', time', generation'⟩ := c
      obtain rfl : type = type' := htype
      obtain rfl : status = status' := hstatus
      simp [or_assoc, imp_iff_not_or]
    · have hne : old ≠ c := fun e => hstatus (congrArg Condition.status e)
      simp [hstatus, hne]

end File

/-! ## Any observations -/

variable {s : ConditionSet} {observations : List Condition} {type : String}

theorem fileAll_append_singleton (s : ConditionSet) (observations : List Condition)
    (c : Condition) : s.fileAll (observations ++ [c]) = ((s.fileAll observations).set c).1 := by
  rw [fileAll, List.foldl_append]
  rfl

theorem entries_append_singleton (s : ConditionSet) (observations : List Condition)
    (c : Condition) (type : String) : s.entries (observations ++ [c]) type =
      if c.type = type then s.entries observations type ++ [c] else s.entries observations type := by
  unfold entries
  rw [List.filter_append, ← List.append_assoc]
  split
  · next h => rw [List.filter_singleton, h, beq_self_eq_true]; rfl
  · next h => rw [List.filter_singleton, beq_eq_false_iff_ne.2 h]; exact List.append_nil _

/-- What is on file of a type is told by its entries, whatever else was observed in between. -/
theorem recorded_fileAll (s : ConditionSet) (observations : List Condition) (type : String) :
    Recorded (s.entries observations type) ((s.fileAll observations).get? type) := by
  induction observations using List.reverseRecOn with
  | nil =>
    rw [entries, List.filter_nil, List.append_nil]
    change Recorded _ (s.get? type)
    cases s.get? type with
    | none => rfl
    | some c => exact ⟨c, c, rfl, runBegins_singleton c, rfl⟩
  | append_singleton observations c ih =>
    rw [fileAll_append_singleton, entries_append_singleton]
    split
    · next h =>
      subst h
      exact ih.file
    · next h =>
      rwa [get?_set_of_ne h]

/-- After any observations: of a type that was observed the last observation is on file, with the
transition time of the entry that the last run of one status began with; a type that was not
observed stands as before; of each type no more is on file than what is found under it; and each
observation was told to be news exactly if it made the set another one. -/
theorem fileAll_remembers (s : ConditionSet) (observations : List Condition) :
    (∀ type last, (observations.filter (·.type == type)).getLast? = some last →
      ∃ first, RunBegins (s.entries observations type) first ∧
        (s.fileAll observations).get? type =
          some { last with lastTransitionTime := first.lastTransitionTime }) ∧
    (∀ type, (∀ c ∈ observations, c.type ≠ type) →
      (s.fileAll observations).get? type = s.get? type) ∧
    (∀ type, (s.fileAll observations).toList.filter (·.type == type) =
      ((s.fileAll observations).get? type).toList) ∧
    (∀ before c after, observations = before ++ c :: after →
      (((s.fileAll before).set c).2 = true ↔
        s.fileAll (before ++ [c]) ≠ s.fileAll before)) := by
  refine ⟨fun type last hlast => ?_, fun type hother => ?_, fun type => ?_,
    fun before c _ _ => ?_⟩
  · have hentries : (s.entries observations type).getLast? = some last := by
      rw [entries, List.getLast?_append, hlast]
      rfl
    have hrecorded := recorded_fileAll s observations type
    cases hget : (s.fileAll observations).get? type with
    | none =>
      rw [hget] at hrecorded
      rw [(hrecorded : s.entries observations type = [])] at hentries
      cases hentries
    | some c =>
      rw [hget] at hrecorded
      obtain ⟨last', first, hlast', hrun, rfl⟩ := hrecorded
      obtain rfl : last = last' := Option.some.inj (hentries.symm.trans hlast')
      exact ⟨first, hrun, rfl⟩
  · induction observations using List.reverseRecOn with
    | nil => rfl
    | append_singleton observations c ih =>
      rw [fileAll_append_singleton, get?_set_of_ne (hother c List.mem_concat_self),
        ih fun x hx => hother x (List.mem_append_left _ hx)]
  · exact Keyed.filter_key _ type
  · rw [fileAll_append_singleton]
    exact set_snd_iff _ c

/-- A condition that held at first, was lost, and was then confirmed twice, with another type observed
in between: what is on file says what was said last, since the time when it was lost. -/
theorem fileAll_remembers_flapping :
    let at_ (type status reason : String) (second : Int) : Condition :=
      { type, status, reason, message := "", lastTransitionTime := ⟨second, 0⟩ }
    let s := Keyed.ofList Condition.type [at_ "Available" "True" "Up" 1, at_ "Ready" "True" "Up" 1]
    let observations := [at_ "Available" "True" "Up" 2, at_ "Running" "True" "Started" 3,
      at_ "Available" "False" "Lost" 4, at_ "Running" "False" "Stopped" 5,
      at_ "Available" "False" "Searching" 6, at_ "Available" "False" "Searching" 7]
    (∃ first, RunBegins (entries s observations "Available") first ∧
      (fileAll s observations).get? "Available" =
        some { at_ "Available" "False" "Searching" 7 with
          lastTransitionTime := first.lastTransitionTime }) ∧
    (fileAll s observations).get? "Available" = some (at_ "Available" "False" "Searching" 4) ∧
    (fileAll s observations).get? "Ready" = s.get? "Ready" ∧
    fileAll s observations = fileAll s (observations.take 5) := by
  intro at_ s observations
  have hnews := (fileAll_remembers s observations).2.2.2 (observations.take 5)
    (at_ "Available" "False" "Searching" 7) [] rfl
  exact ⟨(fileAll_remembers s observations).1 "Available" _ (by decide +kernel), by decide +kernel,
    (fileAll_remembers s observations).2.1 "Ready" (by decide +kernel),
    not_not.1 fun hne => absurd (hnews.2 hne) (by decide +kernel)⟩

end ConditionSet

end ControlPlane
