/-!
# Collections with one entry per key

`Keyed key` holds entries in strictly ascending order of `key`, so that a collection is determined
by its entries alone: the order in which they were inserted leaves no trace. Text is ordered by
code points, which is the order of its UTF-8 bytes. `Dict` is the case of pairs filed under their
first component.

* `get?_insert`: inserting replaces the entry of that key and no other.
* `ofList_toList`: a collection is rebuilt from its entries.
* `mem_insert`, `mem_erase`, `get?_eq_some_iff`: the entries of a collection, and looking one up.
-/

namespace ControlPlane

/-- Entries in strictly ascending order of `key`. -/
structure Keyed {α : Type} (key : α → String) where
  toList : List α
  ascending : toList.Pairwise (key · < key ·)
deriving DecidableEq

namespace Keyed

variable {α : Type} {key : α → String}

/-- No entries. -/
def empty : Keyed key := ⟨[], .nil⟩

instance : Inhabited (Keyed key) := ⟨empty⟩

/-- Puts `a` before the first entry with a larger key, in place of an entry with the same key. -/
def place (key : α → String) (a : α) : List α → List α
  | [] => [a]
  | b :: rest =>
    if key a < key b then a :: b :: rest
    else if key b < key a then b :: place key a rest
    else a :: rest

theorem mem_of_mem_place {a x : α} {l : List α} (h : x ∈ place key a l) : x = a ∨ x ∈ l := by
  induction l with
  | nil => simpa [place] using h
  | cons b rest ih =>
    simp only [place] at h
    split at h
    · simpa using h
    · split at h
      · rcases List.mem_cons.1 h with rfl | h
        · simp
        · rcases ih h with h | h <;> simp [h]
      · rcases List.mem_cons.1 h with h | h <;> simp [h]

theorem pairwise_place {l : List α} (a : α) (h : l.Pairwise (key · < key ·)) :
    (place key a l).Pairwise (key · < key ·) := by
  induction l with
  | nil => simp [place]
  | cons b rest ih =>
    obtain ⟨hb, hr⟩ := List.pairwise_cons.1 h
    simp only [place]
    split
    · next hab =>
      refine List.pairwise_cons.2 ⟨fun x hx => ?_, h⟩
      rcases List.mem_cons.1 hx with rfl | hx
      · exact hab
      · exact String.lt_trans hab (hb x hx)
    · next hab =>
      split
      · next hba =>
        refine List.pairwise_cons.2 ⟨fun x hx => ?_, ih hr⟩
        rcases mem_of_mem_place hx with rfl | hx
        · exact hba
        · exact hb x hx
      · next hba =>
        have hk : key a = key b :=
          String.le_antisymm (String.not_lt.1 hba) (String.not_lt.1 hab)
        exact List.pairwise_cons.2 ⟨fun x hx => hk ▸ hb x hx, hr⟩

/-- Files `a` under its key, in place of the entry that was there. -/
def insert (c : Keyed key) (a : α) : Keyed key :=
  ⟨place key a c.toList, pairwise_place a c.ascending⟩

/-- The entry filed under `k`. -/
def get? (c : Keyed key) (k : String) : Option α :=
  c.toList.find? (key · == k)

/-- Whether an entry is filed under `k`. -/
def contains (c : Keyed key) (k : String) : Bool :=
  c.toList.any (key · == k)

/-- The collection without the entry filed under `k`. -/
def erase (c : Keyed key) (k : String) : Keyed key :=
  ⟨c.toList.filter (key · != k), c.ascending.filter _⟩

/-- The entries of a list; of several with one key the last counts. -/
def ofList (key : α → String) (l : List α) : Keyed key :=
  l.foldl insert empty

/-- Whether there is no entry. -/
def isEmpty (c : Keyed key) : Bool :=
  c.toList.isEmpty

/-- The number of entries. -/
def size (c : Keyed key) : Nat :=
  c.toList.length

/-- The keys, ascending. -/
def keys (c : Keyed key) : List String :=
  c.toList.map key

theorem ext {c d : Keyed key} (h : c.toList = d.toList) : c = d := by
  cases c; cases d; cases h; rfl

theorem nodup_toList (c : Keyed key) : c.toList.Nodup := by
  refine c.ascending.imp ?_
  rintro a b h rfl
  exact String.lt_irrefl _ h

instance : Membership α (Keyed key) := ⟨fun c a => a ∈ c.toList⟩

theorem mem_toList {c : Keyed key} {a : α} : a ∈ c.toList ↔ a ∈ c := Iff.rfl

/-- Collections with the same entries are one collection. -/
theorem ext_mem {c d : Keyed key} (h : ∀ a, a ∈ c ↔ a ∈ d) : c = d := by
  have hperm : c.toList.Perm d.toList :=
    (List.perm_ext_iff_of_nodup c.nodup_toList d.nodup_toList).2 h
  refine ext (hperm.eq_of_pairwise (fun a b _ _ hab hba => ?_) c.ascending d.ascending)
  exact absurd hba (String.lt_asymm hab)

/-- Entries with one key are one entry. -/
theorem eq_of_key_eq {c : Keyed key} {a b : α} (ha : a ∈ c) (hb : b ∈ c) (h : key a = key b) :
    a = b := by
  obtain ⟨l, hl⟩ := c
  change a ∈ l at ha; change b ∈ l at hb
  induction l with
  | nil => simp at ha
  | cons x rest ih =>
    obtain ⟨hx, hr⟩ := List.pairwise_cons.1 hl
    rcases List.mem_cons.1 ha with ha' | ha' <;> rcases List.mem_cons.1 hb with hb' | hb'
    · rw [ha', hb']
    · exact absurd (hx b hb') (by rw [← ha', h]; exact String.lt_irrefl _)
    · exact absurd (hx a ha') (by rw [← hb', h]; exact String.lt_irrefl _)
    · exact ih hr ha' hb'

theorem get?_eq_some_iff {c : Keyed key} {k : String} {a : α} :
    c.get? k = some a ↔ a ∈ c ∧ key a = k := by
  constructor
  · intro h
    exact ⟨List.mem_of_find?_eq_some h, by simpa using List.find?_some h⟩
  · rintro ⟨ha, rfl⟩
    cases h : c.get? (key a) with
    | none => exact absurd (List.find?_eq_none.1 h a ha) (by simp)
    | some b =>
      have hb : key b = key a := by simpa using List.find?_some h
      rw [eq_of_key_eq ha (List.mem_of_find?_eq_some h) hb.symm]

theorem get?_eq_none_iff {c : Keyed key} {k : String} :
    c.get? k = none ↔ ∀ a ∈ c, key a ≠ k := by
  simp [get?, List.find?_eq_none, ← mem_toList]

/-- The entries with a key are what is found under it. -/
theorem filter_key (c : Keyed key) (k : String) :
    c.toList.filter (key · == k) = (c.get? k).toList := by
  obtain ⟨l, hl⟩ := c
  change l.filter (key · == k) = (l.find? (key · == k)).toList
  induction l with
  | nil => rfl
  | cons b rest ih =>
    obtain ⟨hb, hrest⟩ := List.pairwise_cons.1 hl
    cases hk : key b == k with
    | true =>
      have hother : rest.filter (key · == k) = [] := List.filter_eq_nil_iff.2 fun x hx he =>
        String.lt_irrefl k (by simpa [beq_iff_eq.1 hk, beq_iff_eq.1 he] using hb x hx)
      simp only [List.filter_cons, List.find?_cons, hk, hother, if_true, Option.toList_some]
    | false =>
      simp only [List.filter_cons, List.find?_cons, hk, ih hrest, Bool.false_eq_true, if_false]

theorem contains_eq_isSome_get? (c : Keyed key) (k : String) :
    c.contains k = (c.get? k).isSome := by
  rw [contains, get?, List.isSome_find?]

theorem mem_insert {c : Keyed key} {a x : α} :
    x ∈ c.insert a ↔ x = a ∨ (x ∈ c ∧ key x ≠ key a) := by
  obtain ⟨l, hl⟩ := c
  change x ∈ place key a l ↔ x = a ∨ (x ∈ l ∧ key x ≠ key a)
  induction l with
  | nil => simp [place]
  | cons b rest ih =>
    obtain ⟨hb, hr⟩ := List.pairwise_cons.1 hl
    simp only [place]
    split
    · next hab =>
      have later : ∀ y ∈ b :: rest, key y ≠ key a := by
        intro y hy e
        rcases List.mem_cons.1 hy with rfl | hy
        · exact String.lt_irrefl _ (e ▸ hab)
        · exact String.lt_irrefl _ (e ▸ String.lt_trans hab (hb y hy))
      constructor
      · intro h
        rcases List.mem_cons.1 h with h | h
        · exact .inl h
        · exact .inr ⟨h, later x h⟩
      · rintro (rfl | ⟨h, -⟩)
        · simp
        · exact List.mem_cons_of_mem _ h
    · next hab =>
      split
      · next hba =>
        have hne : key b ≠ key a := fun e => String.lt_irrefl _ (e ▸ hba)
        rw [List.mem_cons, ih hr, List.mem_cons]
        constructor
        · rintro (rfl | rfl | ⟨h, h'⟩)
          · exact .inr ⟨.inl rfl, hne⟩
          · exact .inl rfl
          · exact .inr ⟨.inr h, h'⟩
        · rintro (rfl | ⟨rfl | h, h'⟩)
          · exact .inr (.inl rfl)
          · exact .inl rfl
          · exact .inr (.inr ⟨h, h'⟩)
      · next hba =>
        have hk : key a = key b :=
          String.le_antisymm (String.not_lt.1 hba) (String.not_lt.1 hab)
        constructor
        · intro h
          rcases List.mem_cons.1 h with h | h
          · exact .inl h
          · exact .inr ⟨List.mem_cons_of_mem _ h, fun e =>
              String.lt_irrefl _ (hk ▸ e ▸ hb x h)⟩
        · rintro (rfl | ⟨h, h'⟩)
          · simp
          · rcases List.mem_cons.1 h with rfl | h
            · exact absurd hk.symm h'
            · exact List.mem_cons_of_mem _ h

theorem mem_erase {c : Keyed key} {k : String} {x : α} : x ∈ c.erase k ↔ x ∈ c ∧ key x ≠ k := by
  change x ∈ c.toList.filter _ ↔ _
  simp [mem_toList]

theorem get?_insert (c : Keyed key) (a : α) (k : String) :
    (c.insert a).get? k = if key a = k then some a else c.get? k := by
  split
  · next h => exact get?_eq_some_iff.2 ⟨mem_insert.2 (.inl rfl), h⟩
  · next h =>
    cases hc : c.get? k with
    | some b =>
      obtain ⟨hb, rfl⟩ := get?_eq_some_iff.1 hc
      exact get?_eq_some_iff.2 ⟨mem_insert.2 (.inr ⟨hb, Ne.symm h⟩), rfl⟩
    | none =>
      refine get?_eq_none_iff.2 fun x hx => ?_
      rcases mem_insert.1 hx with rfl | ⟨hx, -⟩
      · exact h
      · exact get?_eq_none_iff.1 hc x hx

theorem get?_erase (c : Keyed key) (k j : String) :
    (c.erase k).get? j = if k = j then none else c.get? j := by
  split
  · next h => exact get?_eq_none_iff.2 fun x hx e => (mem_erase.1 hx).2 (e.trans h.symm)
  · next h =>
    cases hc : c.get? j with
    | some b =>
      obtain ⟨hb, rfl⟩ := get?_eq_some_iff.1 hc
      exact get?_eq_some_iff.2 ⟨mem_erase.2 ⟨hb, Ne.symm h⟩, rfl⟩
    | none =>
      exact get?_eq_none_iff.2 fun x hx => get?_eq_none_iff.1 hc x (mem_erase.1 hx).1

theorem place_place {a b : α} (h : key a = key b) (l : List α) :
    place key b (place key a l) = place key b l := by
  induction l with
  | nil => simp [place, h]
  | cons c rest ih =>
    simp only [place, ← h]
    split
    · next hac => simp [place, ← h]
    · next hac =>
      split
      · next hca => simp only [place, ← h, if_neg hac, if_pos hca, ih]
      · next hca => simp [place, ← h]

/-- Of two entries filed under one key the later one counts. -/
theorem insert_insert (c : Keyed key) {a b : α} (h : key a = key b) :
    (c.insert a).insert b = c.insert b :=
  ext (place_place h c.toList)

theorem place_of_mem {a : α} {l : List α} (hl : l.Pairwise (key · < key ·)) (h : a ∈ l) :
    place key a l = l := by
  induction l with
  | nil => exact absurd h List.not_mem_nil
  | cons b rest ih =>
    obtain ⟨hb, hrest⟩ := List.pairwise_cons.1 hl
    rcases List.mem_cons.1 h with rfl | hmem
    · rw [place, if_neg (String.lt_irrefl _), if_neg (String.lt_irrefl _)]
    · rw [place, if_neg (String.lt_asymm (hb a hmem)), if_pos (hb a hmem), ih hrest hmem]

/-- Filing an entry that is there already changes nothing. -/
theorem insert_of_mem {c : Keyed key} {a : α} (h : a ∈ c) : c.insert a = c :=
  ext (place_of_mem c.ascending h)

/-- Placing an entry with the largest key puts it last. -/
theorem place_eq_append {a : α} {l : List α} (h : ∀ b ∈ l, key b < key a) :
    place key a l = l ++ [a] := by
  induction l with
  | nil => rfl
  | cons b rest ih =>
    have hb := h b List.mem_cons_self
    rw [place, if_neg (String.lt_asymm hb), if_pos hb,
      ih fun x hx => h x (List.mem_cons_of_mem _ hx), List.cons_append]

theorem toList_foldl_insert {l : List α} (c : Keyed key)
    (h : (c.toList ++ l).Pairwise (key · < key ·)) :
    (l.foldl insert c).toList = c.toList ++ l := by
  induction l generalizing c with
  | nil => simp
  | cons a rest ih =>
    have hp : (c.insert a).toList = c.toList ++ [a] :=
      place_eq_append fun b hb => (List.pairwise_append.1 h).2.2 b hb a List.mem_cons_self
    rw [List.foldl_cons, ih _ (by rw [hp, List.append_assoc]; exact h), hp, List.append_assoc]
    rfl

/-- A collection is rebuilt from its entries. -/
theorem ofList_toList (c : Keyed key) : ofList key c.toList = c :=
  ext (toList_foldl_insert empty c.ascending)

theorem get?_foldl_insert (l : List α) (c : Keyed key) (k : String) :
    (l.foldl insert c).get? k = (l.filter (key · == k)).getLast?.or (c.get? k) := by
  induction l generalizing c with
  | nil => rfl
  | cons a rest ih =>
    rw [List.foldl_cons, ih, get?_insert, List.filter_cons]
    by_cases hk : key a = k
    · rw [if_pos hk, if_pos (beq_iff_eq.2 hk), List.getLast?_cons]
      cases (rest.filter (key · == k)).getLast? <;> rfl
    · rw [if_neg hk, if_neg (mt beq_iff_eq.1 hk)]

/-- Of the entries of a list that are filed under a key, the last one is found. -/
theorem get?_ofList (l : List α) (k : String) :
    (ofList key l).get? k = (l.filter (key · == k)).getLast? :=
  (get?_foldl_insert l empty k).trans (Option.or_none ..)

theorem mem_foldl_insert {l : List α} {c : Keyed key} {x : α} (h : x ∈ l.foldl insert c) :
    x ∈ c ∨ x ∈ l := by
  induction l generalizing c with
  | nil => exact .inl h
  | cons a rest ih =>
    rcases ih h with h | h
    · rcases mem_insert.1 h with rfl | ⟨h, _⟩
      · exact .inr List.mem_cons_self
      · exact .inl h
    · exact .inr (List.mem_cons_of_mem a h)

theorem mem_of_mem_ofList {l : List α} {x : α} (h : x ∈ ofList key l) : x ∈ l :=
  (mem_foldl_insert h).resolve_left List.not_mem_nil

theorem exists_mem_foldl_insert {l : List α} {c : Keyed key} {a : α} (h : a ∈ c ∨ a ∈ l) :
    ∃ b ∈ l.foldl insert c, key b = key a := by
  induction l generalizing c a with
  | nil => exact ⟨a, h.resolve_right List.not_mem_nil, rfl⟩
  | cons x rest ih =>
    by_cases hk : key a = key x
    · obtain ⟨b, hb, he⟩ := ih (.inl (mem_insert.2 (.inl rfl)) : x ∈ c.insert x ∨ x ∈ rest)
      exact ⟨b, hb, he.trans hk.symm⟩
    · refine ih (h.imp (fun ha => mem_insert.2 (.inr ⟨ha, hk⟩)) fun ha => ?_)
      exact (List.mem_cons.1 ha).resolve_left fun e => hk (congrArg key e)

/-- Every key of a list has an entry in the collection of it. -/
theorem exists_mem_ofList {l : List α} {a : α} (h : a ∈ l) : ∃ b ∈ ofList key l, key b = key a :=
  exists_mem_foldl_insert (.inr h)

/-- A list in which entries with one key are one entry is kept whole. -/
theorem mem_ofList_iff {l : List α} (h : ∀ a ∈ l, ∀ b ∈ l, key a = key b → a = b) {a : α} :
    a ∈ ofList key l ↔ a ∈ l := by
  refine ⟨mem_of_mem_ofList, fun ha => ?_⟩
  obtain ⟨b, hb, hkey⟩ := exists_mem_ofList ha
  rwa [h b (mem_of_mem_ofList hb) a ha hkey] at hb

@[simp] theorem get?_empty (k : String) : (empty : Keyed key).get? k = none := rfl

end Keyed

/-- Values filed under text. -/
abbrev Dict (α : Type) := Keyed (α := String × α) Prod.fst

namespace Dict

variable {α : Type}

/-- The value filed under `k`. -/
def value? (d : Dict α) (k : String) : Option α :=
  (d.get? k).map Prod.snd

/-- Files `v` under `k`, in place of the value that was there. -/
def set (d : Dict α) (k : String) (v : α) : Dict α :=
  d.insert (k, v)

theorem value?_set (d : Dict α) (k j : String) (v : α) :
    (d.set k v).value? j = if k = j then some v else d.value? j := by
  simp only [value?, set, Keyed.get?_insert]
  split <;> rfl

theorem set_set (d : Dict α) (k : String) (u v : α) : (d.set k u).set k v = d.set k v :=
  Keyed.insert_insert d rfl

end Dict

end ControlPlane
