import ControlPlane.Digest.Fingerprint
import ControlPlane.Json.Parser

/-!
# One text, one value

Two values that are written as one text are one value, if neither has a fraction or a part that cannot
be read in it: a text can be taken apart in one way only. What it begins with tells the kind of value;
a string ends at its first bare quote, a number before the first character that is no digit, and a list
or an object at the bracket where no comma stands.

* `quote_append_inj`, `repr_append_inj`: strings and whole numbers, whatever stands after them.
* `chars_append_inj`: any value, by induction on the two of them at once.
* `canonicalBytes_inj`: the bytes that are digested are those of one sorted value only.
-/

namespace ControlPlane

/-! ## Bytes -/

namespace Text

theorem toList_loop (b : ByteArray) (i : Nat) (r : List UInt8) :
    ByteArray.toList.loop b i r = r.reverse ++ b.data.toList.drop i := by
  fun_induction ByteArray.toList.loop b i r with
  | case1 i r h ih =>
    have hi : i < b.data.toList.length := by simpa using h
    rw [ih, List.drop_eq_getElem_cons hi]
    simp [ByteArray.get!, h]
  | case2 i r h =>
    have hi : b.data.toList.length ≤ i := by simpa using Nat.le_of_not_lt h
    rw [List.drop_eq_nil_of_le hi, List.append_nil]

/-- Texts with the same bytes are one text. -/
theorem utf8_injective {s t : String} (h : s.toUTF8.toList = t.toUTF8.toList) : s = t := by
  rw [ByteArray.toList, ByteArray.toList, toList_loop, toList_loop] at h
  have hdata : s.toUTF8.data.toList = t.toUTF8.data.toList := by simpa using h
  exact String.toByteArray_inj.1 (ByteArray.ext (Array.toList_inj.1 hdata))

end Text

namespace Json

mutual

/-- Whether every part stands for a value, and every number among them is a whole one. -/
def isExact : Json → Bool
  | .decimal _ | .unreadable => false
  | .arr items => itemsExact items
  | .obj members => membersExact members
  | _ => true

def itemsExact : List Json → Bool
  | [] => true
  | j :: rest => isExact j && itemsExact rest

def membersExact : List (String × Json) → Bool
  | [] => true
  | (_, v) :: rest => isExact v && membersExact rest

end

/-! ## Strings -/

theorem hexQuad_hexDigit : ∀ n < 32,
    hexQuad '0' '0' (Text.hexDigit (n / 16)) (Text.hexDigit (n % 16)) = some n := by
  decide

theorem stringBody_letter {c : Char} {n : Nat} (h : letterEscape c = some n) (rest : List Char) :
    stringBody ('\\' :: c :: rest) = (stringBody rest).map fun body => (n :: body.1, body.2) := by
  rw [stringBody.eq_def]
  split
  · next heq => cases heq
  · next heq => cases heq
  · next heq =>
    cases heq
    cases h
  · next heq =>
    cases heq
    rw [h]
    cases stringBody rest <;> rfl
  · next hno heq =>
    -- a backslash with a character after it is what the rows before are for
    cases heq
    exact absurd rfl (hno c rest rfl)

/-- A character is escaped by a letter or by four digits, or stands for itself. -/
theorem escapeChar_cases (c : Char) :
    (∃ e, escapeChar c = ['\\', e] ∧ letterEscape e = some c.toNat) ∨
    (c.toNat < 32 ∧ escapeChar c =
      ['\\', 'u', '0', '0', Text.hexDigit (c.toNat / 16), Text.hexDigit (c.toNat % 16)]) ∨
    (c ≠ '"' ∧ c ≠ '\\' ∧ 32 ≤ c.toNat ∧ escapeChar c = [c]) := by
  by_cases hquote : c = '"'
  · exact .inl ⟨'"', by subst hquote; exact ⟨rfl, rfl⟩⟩
  by_cases hslash : c = '\\'
  · exact .inl ⟨'\\', by subst hslash; exact ⟨rfl, rfl⟩⟩
  rw [escapeChar, if_neg hquote, if_neg hslash]
  iterate 5
    split
    · next h => exact .inl ⟨_, rfl, by subst h; rfl⟩
  split
  · next h => exact .inr (.inl ⟨h, rfl⟩)
  · next h => exact .inr (.inr ⟨hquote, hslash, Nat.le_of_not_lt h, rfl⟩)

/-- What stands for a character in a string is read as that character. -/
theorem stringBody_escapeChar (c : Char) (rest : List Char) :
    stringBody (escapeChar c ++ rest) =
      (stringBody rest).map fun body => (c.toNat :: body.1, body.2) := by
  obtain ⟨e, hc, he⟩ | ⟨hlt, hc⟩ | ⟨hquote, hslash, hle, hc⟩ := escapeChar_cases c
  · rw [hc]
    exact stringBody_letter he rest
  · rw [hc, List.cons_append, stringBody.eq_def]
    simp only [List.cons_append, List.nil_append, hexQuad_hexDigit _ hlt]
    cases stringBody rest <;> rfl
  · rw [hc, List.cons_append, List.nil_append, stringBody.eq_def]
    split
    · next heq => cases heq
    · next heq => cases heq; exact absurd rfl hquote
    · next heq => cases heq; exact absurd rfl hslash
    · next heq => cases heq; exact absurd rfl hslash
    · next heq =>
      cases heq
      rw [if_neg hslash, if_neg (Nat.not_lt.2 hle)]
      cases stringBody rest <;> rfl

/-- The characters between the quotes are read back, up to the closing quote. -/
theorem stringBody_flatMap_escapeChar (cs rest : List Char) :
    stringBody (cs.flatMap escapeChar ++ '"' :: rest) = .ok (cs.map Char.toNat, rest) := by
  induction cs with
  | nil => rfl
  | cons c cs ih =>
    rw [List.flatMap_cons, List.append_assoc, stringBody_escapeChar, ih]
    rfl

/-- A string ends at its closing quote, and is told by what stands before it. -/
theorem quote_append_inj {a b : String} {r s : List Char} (h : quote a ++ r = quote b ++ s) :
    a = b ∧ r = s := by
  have hbody : a.toList.flatMap escapeChar ++ '"' :: r = b.toList.flatMap escapeChar ++ '"' :: s := by
    simpa [quote] using h
  have hread := congrArg stringBody hbody
  rw [stringBody_flatMap_escapeChar, stringBody_flatMap_escapeChar] at hread
  obtain ⟨hmap, hrest⟩ := Prod.mk.inj (Except.ok.inj hread)
  have hchars : a.toList = b.toList := (List.map_inj_right fun _ _ => Char.toNat_inj.1).1 hmap
  exact ⟨String.toList_injective hchars, hrest⟩

/-! ## Whole numbers -/

/-- A text that does not begin with a digit, so that a number before it ends where it does. -/
def EndsNumber (r : List Char) : Prop :=
  ∀ c ∈ r.head?, c.isDigit = false

theorem endsNumber_nil : EndsNumber [] :=
  fun _ h => nomatch h

theorem endsNumber_cons {c : Char} {r : List Char} (h : c.isDigit = false) : EndsNumber (c :: r) := by
  rintro _ ⟨⟩
  exact h

section

variable {r s : List Char}

theorem isDigit_of_mem_toDigits {n : Nat} {c : Char} (h : c ∈ Nat.toDigits 10 n) : c.isDigit = true :=
  Nat.isDigit_of_mem_toDigits (by decide) (by decide) h

theorem takeWhile_toDigits (n : Nat) (hr : EndsNumber r) :
    (Nat.toDigits 10 n ++ r).takeWhile Char.isDigit = Nat.toDigits 10 n := by
  have hend : r.takeWhile Char.isDigit = [] := by
    cases r with
    | nil => rfl
    | cons c r => rw [List.takeWhile_cons_of_neg (by rw [hr c rfl]; exact Bool.false_ne_true)]
  rw [List.takeWhile_append_of_pos fun c hc => isDigit_of_mem_toDigits hc, hend, List.append_nil]

theorem toDigits_append_inj {m n : Nat} (hr : EndsNumber r) (hs : EndsNumber s)
    (h : Nat.toDigits 10 m ++ r = Nat.toDigits 10 n ++ s) : m = n ∧ r = s := by
  have hdigits : Nat.toDigits 10 m = Nat.toDigits 10 n := by
    rw [← takeWhile_toDigits m hr, h, takeWhile_toDigits n hs]
  have hmn : m = n := by rw [← Text.decimalValue_toDigits m, hdigits, Text.decimalValue_toDigits]
  rw [hdigits] at h
  exact ⟨hmn, List.append_cancel_left h⟩

theorem toList_repr_ofNat (n : Nat) : (Int.ofNat n).repr.toList = Nat.toDigits 10 n := by
  simp [Int.repr, Nat.repr]

theorem toList_repr_negSucc (n : Nat) :
    (Int.negSucc n).repr.toList = '-' :: Nat.toDigits 10 (n + 1) := by
  simp [Int.repr, Nat.repr]

/-- A number that is not negative does not begin with a sign. -/
theorem toDigits_append_ne_cons {n : Nat} {rest : List Char} :
    Nat.toDigits 10 n ++ rest ≠ '-' :: s := by
  intro h
  cases hd : Nat.toDigits 10 n with
  | nil => exact Nat.toDigits_ne_nil hd
  | cons c digits =>
    rw [hd] at h
    have hdigit : c.isDigit = true := isDigit_of_mem_toDigits (hd ▸ List.mem_cons_self)
    cases h
    cases hdigit

/-- A whole number ends before the first character that is no digit. -/
theorem repr_append_inj {m n : Int} (hr : EndsNumber r) (hs : EndsNumber s)
    (h : m.repr.toList ++ r = n.repr.toList ++ s) : m = n ∧ r = s := by
  cases m with
  | ofNat m =>
    cases n with
    | ofNat n =>
      rw [toList_repr_ofNat, toList_repr_ofNat] at h
      obtain ⟨rfl, hrs⟩ := toDigits_append_inj hr hs h
      exact ⟨rfl, hrs⟩
    | negSucc n =>
      rw [toList_repr_ofNat, toList_repr_negSucc] at h
      exact absurd h toDigits_append_ne_cons
  | negSucc m =>
    cases n with
    | ofNat n =>
      rw [toList_repr_ofNat, toList_repr_negSucc] at h
      exact absurd h.symm toDigits_append_ne_cons
    | negSucc n =>
      rw [toList_repr_negSucc, toList_repr_negSucc] at h
      obtain ⟨hmn, hrs⟩ := toDigits_append_inj hr hs (List.cons.inj h).2
      cases hmn
      exact ⟨rfl, hrs⟩

/-! ## Any value -/

/-- The kinds of value that a text may begin with. -/
inductive Shape where
  | null
  | bool (b : Bool)
  | int
  | str
  | arr
  | obj

/-- The kind of a value; a fraction counts as a number, and what cannot be read as what it is written
as. -/
def shape : Json → Shape
  | .null | .unreadable => .null
  | .bool b => .bool b
  | .int _ | .decimal _ => .int
  | .str _ => .str
  | .arr _ => .arr
  | .obj _ => .obj

/-- The kind of value that begins with a character. -/
def shapeOf? (c : Char) : Option Shape :=
  if c = '-' ∨ c.isDigit = true then some .int
  else if c = 'n' then some .null
  else if c = 't' then some (.bool true)
  else if c = 'f' then some (.bool false)
  else if c = '"' then some .str
  else if c = '[' then some .arr
  else if c = '{' then some .obj
  else none

/-- The first character of a text tells the kind of the value. -/
theorem exists_chars_eq_cons {v : Json} (hv : v.isExact = true) :
    ∃ c rest, chars v = c :: rest ∧ shapeOf? c = some v.shape := by
  cases v with
  | null => exact ⟨_, _, rfl, rfl⟩
  | bool b => cases b <;> exact ⟨_, _, rfl, rfl⟩
  | int n =>
    cases n with
    | ofNat n =>
      cases hd : Nat.toDigits 10 n with
      | nil => exact absurd hd Nat.toDigits_ne_nil
      | cons c rest =>
        have hdigit : c.isDigit = true := isDigit_of_mem_toDigits (hd ▸ List.mem_cons_self)
        exact ⟨c, rest, (toList_repr_ofNat n).trans hd, if_pos (.inr hdigit)⟩
    | negSucc n => exact ⟨_, _, toList_repr_negSucc n, rfl⟩
  | decimal text => cases hv
  | str s => exact ⟨_, _, rfl, rfl⟩
  | arr items => exact ⟨_, _, rfl, rfl⟩
  | obj members => exact ⟨_, _, rfl, rfl⟩
  | unreadable => cases hv

/-- Values that begin one text are of one kind. -/
theorem shape_eq_of_chars {v w : Json} (hv : v.isExact = true) (hw : w.isExact = true)
    (h : chars v ++ r = chars w ++ s) : v.shape = w.shape := by
  obtain ⟨c, x, hc, hvc⟩ := exists_chars_eq_cons hv
  obtain ⟨d, y, hd, hwd⟩ := exists_chars_eq_cons hw
  rw [hc, hd] at h
  have hcd : c = d := (List.cons.inj h).1
  rw [hcd, hwd] at hvc
  exact (Option.some.inj hvc).symm

/-- A value is told from a mark that begins none. -/
theorem chars_append_ne_cons {v : Json} {c : Char} (hv : v.isExact = true) (hc : shapeOf? c = none) :
    chars v ++ r ≠ c :: s := by
  obtain ⟨d, x, hd, hshape⟩ := exists_chars_eq_cons hv
  rw [hd]
  intro h
  have hdc : d = c := (List.cons.inj h).1
  rw [hdc, hc] at hshape
  cases hshape

/-- The items after the first, each with a comma before it. -/
def laterItems : List Json → List Char
  | [] => []
  | j :: rest => ',' :: chars j ++ laterItems rest

/-- The members after the first, each with a comma before it. -/
def laterMembers : List (String × Json) → List Char
  | [] => []
  | (name, v) :: rest => ',' :: quote name ++ ':' :: chars v ++ laterMembers rest

theorem itemChars_cons (j : Json) (rest : List Json) :
    itemChars (j :: rest) = chars j ++ laterItems rest := by
  induction rest generalizing j with
  | nil => rw [itemChars, laterItems, List.append_nil]
  | cons k rest ih =>
    rw [itemChars, ih k, laterItems, List.cons_append]
    exact List.cons_ne_nil k rest

theorem memberChars_cons (name : String) (v : Json) (rest : List (String × Json)) :
    memberChars ((name, v) :: rest) = quote name ++ ':' :: chars v ++ laterMembers rest := by
  induction rest generalizing name v with
  | nil => rw [memberChars, laterMembers, List.append_nil]
  | cons m rest ih =>
    rw [memberChars, ih m.1 m.2, laterMembers]
    · simp
    · exact List.cons_ne_nil m rest

/-- A list that has items does not begin with its closing bracket. -/
theorem itemChars_append_ne_cons {j : Json} {rest : List Json}
    (h : itemsExact (j :: rest) = true) : itemChars (j :: rest) ++ r ≠ ']' :: s := by
  rw [itemsExact, Bool.and_eq_true] at h
  rw [itemChars_cons, List.append_assoc]
  exact chars_append_ne_cons h.1 rfl

theorem memberChars_append_ne_cons {m : String × Json} {rest : List (String × Json)} :
    memberChars (m :: rest) ++ r ≠ '}' :: s := by
  rw [memberChars_cons m.1 m.2]
  nofun

/-- Lists that are written alike when they stand alone are written alike after other items. -/
theorem laterItems_of_itemChars {xs ys : List Json} (hx : itemsExact xs = true)
    (hy : itemsExact ys = true) (h : itemChars xs ++ ']' :: r = itemChars ys ++ ']' :: s) :
    laterItems xs ++ ']' :: r = laterItems ys ++ ']' :: s :=
  match xs, ys with
  | [], [] => h
  | [], _ :: _ => absurd h.symm (itemChars_append_ne_cons hy)
  | _ :: _, [] => absurd h (itemChars_append_ne_cons hx)
  | x :: xs, y :: ys => by
    rw [itemChars_cons, itemChars_cons] at h
    exact congrArg (',' :: ·) h

theorem laterMembers_of_memberChars {xs ys : List (String × Json)}
    (h : memberChars xs ++ '}' :: r = memberChars ys ++ '}' :: s) :
    laterMembers xs ++ '}' :: r = laterMembers ys ++ '}' :: s :=
  match xs, ys with
  | [], [] => h
  | [], _ :: _ => absurd h.symm memberChars_append_ne_cons
  | _ :: _, [] => absurd h memberChars_append_ne_cons
  | (a, x) :: xs, (b, y) :: ys => by
    rw [memberChars_cons, memberChars_cons] at h
    exact congrArg (',' :: ·) h

theorem endsNumber_laterItems (xs : List Json) : EndsNumber (laterItems xs ++ ']' :: r) := by
  cases xs <;> exact endsNumber_cons rfl

theorem endsNumber_laterMembers (xs : List (String × Json)) :
    EndsNumber (laterMembers xs ++ '}' :: r) := by
  cases xs <;> exact endsNumber_cons rfl

end

mutual

/-- A text is the text of one value only, whatever stands after it. -/
theorem chars_append_inj {v w : Json} {r s : List Char} (hv : v.isExact = true)
    (hw : w.isExact = true) (hr : EndsNumber r) (hs : EndsNumber s)
    (h : chars v ++ r = chars w ++ s) : v = w ∧ r = s :=
  -- the induction is on the parts of the first value; values of two kinds begin differently
  match v, w, shape_eq_of_chars hv hw h with
  | .null, .null, _ => ⟨rfl, List.append_cancel_left h⟩
  | .bool _, .bool _, rfl => ⟨rfl, List.append_cancel_left h⟩
  | .int _, .int _, _ => by
    obtain ⟨rfl, hrs⟩ := repr_append_inj hr hs h
    exact ⟨rfl, hrs⟩
  | .str _, .str _, _ => by
    obtain ⟨rfl, hrs⟩ := quote_append_inj h
    exact ⟨rfl, hrs⟩
  | .arr xs, .arr ys, _ => by
    have hitems : itemChars xs ++ ']' :: r = itemChars ys ++ ']' :: s := by
      simpa [chars] using h
    obtain ⟨hxys, hrs⟩ := laterItems_append_inj hv hw (laterItems_of_itemChars hv hw hitems)
    exact ⟨by rw [hxys], hrs⟩
  | .obj xs, .obj ys, _ => by
    have hmembers : memberChars xs ++ '}' :: r = memberChars ys ++ '}' :: s := by
      simpa [chars] using h
    obtain ⟨hxys, hrs⟩ := laterMembers_append_inj hv hw (laterMembers_of_memberChars hmembers)
    exact ⟨by rw [hxys], hrs⟩

/-- The items after the first end at the bracket. -/
theorem laterItems_append_inj {xs ys : List Json} {r s : List Char} (hx : itemsExact xs = true)
    (hy : itemsExact ys = true) (h : laterItems xs ++ ']' :: r = laterItems ys ++ ']' :: s) :
    xs = ys ∧ r = s :=
  match xs, ys with
  | [], [] => ⟨rfl, (List.cons.inj h).2⟩
  | [], _ :: _ => by cases h
  | _ :: _, [] => by cases h
  | x :: xs, y :: ys => by
    rw [itemsExact, Bool.and_eq_true] at hx hy
    have hitem : chars x ++ (laterItems xs ++ ']' :: r) = chars y ++ (laterItems ys ++ ']' :: s) := by
      simpa [laterItems] using h
    -- after an item stands a comma or the bracket, so a number there ends with the item
    obtain ⟨hxy, hrest⟩ := chars_append_inj hx.1 hy.1 (endsNumber_laterItems xs)
      (endsNumber_laterItems ys) hitem
    obtain ⟨hxys, hrs⟩ := laterItems_append_inj hx.2 hy.2 hrest
    exact ⟨by rw [hxy, hxys], hrs⟩

/-- The members after the first end at the brace. -/
theorem laterMembers_append_inj {xs ys : List (String × Json)} {r s : List Char}
    (hx : membersExact xs = true) (hy : membersExact ys = true)
    (h : laterMembers xs ++ '}' :: r = laterMembers ys ++ '}' :: s) : xs = ys ∧ r = s :=
  match xs, ys with
  | [], [] => ⟨rfl, (List.cons.inj h).2⟩
  | [], _ :: _ => by cases h
  | _ :: _, [] => by cases h
  | (a, x) :: xs, (b, y) :: ys => by
    rw [membersExact, Bool.and_eq_true] at hx hy
    have hname : quote a ++ ':' :: (chars x ++ (laterMembers xs ++ '}' :: r)) =
        quote b ++ ':' :: (chars y ++ (laterMembers ys ++ '}' :: s)) := by
      simpa [laterMembers] using h
    obtain ⟨rfl, hvalue⟩ := quote_append_inj hname
    obtain ⟨hxy, hrest⟩ := chars_append_inj hx.1 hy.1 (endsNumber_laterMembers xs)
      (endsNumber_laterMembers ys) (List.cons.inj hvalue).2
    obtain ⟨hxys, hrs⟩ := laterMembers_append_inj hx.2 hy.2 hrest
    exact ⟨by rw [hxy, hxys], hrs⟩

end

/-- Values without fractions are one value when their texts are one text. -/
theorem render_inj {v w : Json} (hv : v.isExact = true) (hw : w.isExact = true)
    (h : v.render = w.render) : v = w := by
  have hchars : chars v ++ [] = chars w ++ [] := by rw [String.ofList_injective h]
  exact (chars_append_inj hv hw endsNumber_nil endsNumber_nil hchars).1

/-! ## The bytes of sorted values -/

theorem membersExact_iff {members : List (String × Json)} :
    membersExact members = true ↔ ∀ m ∈ members, m.2.isExact = true := by
  induction members with
  | nil => simp [membersExact]
  | cons m rest ih => simp [membersExact, ih]

mutual

/-- Sorting makes no fraction, and loses no part that can be read. -/
theorem isExact_canonical (j : Json) (h : j.isExact = true) : j.canonical.isExact = true := by
  cases j with
  | arr items => exact itemsExact_canonicalItems items h
  | obj members =>
    exact membersExact_iff.2 fun m hm =>
      isExact_of_mem members h m (Keyed.mem_of_mem_ofList hm)
  | _ => exact h

theorem itemsExact_canonicalItems (items : List Json) (h : itemsExact items = true) :
    itemsExact (canonicalItems items) = true := by
  cases items with
  | nil => rfl
  | cons j rest =>
    rw [itemsExact, Bool.and_eq_true] at h
    rw [canonicalItems, itemsExact, isExact_canonical j h.1, itemsExact_canonicalItems rest h.2,
      Bool.and_self]

theorem isExact_of_mem (members : List (String × Json)) (h : membersExact members = true) :
    ∀ m ∈ canonicalMembers members, m.2.isExact = true := by
  cases members with
  | nil => simp [canonicalMembers]
  | cons m rest =>
    rw [membersExact, Bool.and_eq_true] at h
    intro x hx
    rcases List.mem_cons.1 hx with rfl | hx
    · exact isExact_canonical m.2 h.1
    · exact isExact_of_mem rest h.2 x hx

end

/-- The bytes that are digested are those of one sorted value. -/
theorem canonicalBytes_inj {v w : Json} (hv : v.isExact = true) (hw : w.isExact = true) :
    v.canonicalBytes = w.canonicalBytes ↔ v.canonical = w.canonical := by
  constructor
  · intro h
    exact render_inj (isExact_canonical v hv) (isExact_canonical w hw) (Text.utf8_injective h)
  · intro h
    rw [canonicalBytes, canonicalText, h]
    rfl

end Json

end ControlPlane
