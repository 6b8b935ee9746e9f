import Handoff.Naming.Class
import Mathlib.Data.List.Basic

/-!
# Class names are identifiers and tell ids apart

Whatever the name and the id of a layer, its class is an identifier of style sheets
(`isIdentifier_className`).

A class ends with the id behind a dash, but the name before it may hold dashes, underscores and
digits as well, and so look like a piece of another id.  `LayerId` is the form of the ids that the
design tool gives.  What follows a colon in such an id is a number and then nothing or a semicolon,
and no id begins like that (`LayerId.not_append_colon`).  So the dash before the id is found from
behind, and ids of this form have different classes under any names (`LayerId.eq_of_className`).
-/

namespace Handoff

/-! ### Identifiers -/

/-- An identifier of style sheets: ASCII letters, digits, dashes and underscores, of which the first
is a letter or an underscore. -/
structure IsIdentifier (cls : List Char) : Prop where
  start : ∃ c ∈ cls.head?, c.isAlpha ∨ c = '_'
  chars : ∀ c ∈ cls, c.isAlphanum ∨ c = '-' ∨ c = '_'

theorem IsIdentifier.ne_nil {cls : List Char} (h : IsIdentifier cls) : cls ≠ [] := by
  rintro rfl
  obtain ⟨_, hc, -⟩ := h.start
  cases hc

theorem isClassChar_iff {c : Char} : isClassChar c ↔ c.isAlphanum ∨ c = '-' ∨ c = '_' := by
  simp only [isClassChar, Bool.or_eq_true, beq_iff_eq, or_assoc]

theorem isClassChar_classOfName {name : List Char} : ∀ c ∈ classOfName name, isClassChar c :=
  fun _ hc => (List.mem_filter.mp hc).2

theorem isClassChar_classOfId {id : List Char} : ∀ c ∈ classOfId id, isClassChar c := by
  intro c hc
  obtain ⟨d, -, hd⟩ := List.mem_filterMap.mp hc
  split_ifs at hd with _ _ hclass
  · obtain rfl := Option.some.inj hd
    rfl
  · obtain rfl := Option.some.inj hd
    rfl
  · obtain rfl := Option.some.inj hd
    exact hclass

/-- A class is what is kept of the name and of the id, with a dash between, and an underscore before
it where it would not begin like an identifier. -/
theorem className_cases (name id : String) :
    ((className name id).toList = classOfName name.toList ++ '-' :: classOfId id.toList ∧
        ∃ c ∈ (className name id).toList.head?, c.isAlpha ∨ c = '_') ∨
      (className name id).toList =
        '_' :: (classOfName name.toList ++ '-' :: classOfId id.toList) := by
  simp only [className, String.toList_ofList]
  split
  · next h => exact absurd h (List.append_ne_nil_of_right_ne_nil _ (List.cons_ne_nil _ _))
  · next c cs h =>
      split
      · next hc =>
          refine .inl ⟨rfl, c, by rw [h]; rfl, ?_⟩
          simpa using hc
      · exact .inr rfl

theorem isIdentifier_className (name id : String) : IsIdentifier (className name id).toList := by
  have hkept : ∀ c ∈ classOfName name.toList ++ '-' :: classOfId id.toList, isClassChar c :=
    List.forall_mem_append.mpr
      ⟨isClassChar_classOfName, List.forall_mem_cons.mpr ⟨rfl, isClassChar_classOfId⟩⟩
  rcases className_cases name id with ⟨h, hstart⟩ | h
  · exact ⟨hstart, fun c hc => isClassChar_iff.mp (hkept c (h ▸ hc))⟩
  · rw [h]
    refine ⟨⟨'_', rfl, .inr rfl⟩, fun c hc => ?_⟩
    rcases List.mem_cons.mp hc with rfl | hc
    · exact .inr (.inr rfl)
    · exact isClassChar_iff.mp (hkept c hc)

/-- A class name keeps class characters only. -/
theorem isClassChar_className {name id : String} {c : Char} (h : c ∈ (className name id).toList) :
    isClassChar c :=
  isClassChar_iff.mpr ((isIdentifier_className name id).chars c h)

/-! ### Ids -/

/-- The characters of ids. -/
def isIdChar (c : Char) : Bool := c.isDigit || c == 'I' || c == ':' || c == ';'

theorem isIdChar_iff {c : Char} :
    isIdChar c ↔ c.isDigit ∨ c = 'I' ∨ c = ':' ∨ c = ';' := by
  simp only [isIdChar, Bool.or_eq_true, beq_iff_eq, or_assoc]

/-- One or more decimal digits. -/
def IsNumber (ds : List Char) : Prop := ds ≠ [] ∧ ∀ c ∈ ds, c.isDigit

theorem isNumber_singleton {c : Char} (h : c.isDigit) : IsNumber [c] :=
  ⟨List.cons_ne_nil c [], List.forall_mem_singleton.mpr h⟩

/-- Two numbers with a colon between, and maybe an `I` before them. -/
inductive IdPair : List Char → Prop where
  | plain {a b : List Char} (ha : IsNumber a) (hb : IsNumber b) : IdPair (a ++ ':' :: b)
  | marked {a b : List Char} (ha : IsNumber a) (hb : IsNumber b) : IdPair ('I' :: a ++ ':' :: b)

/-- An id as the design tool gives it: one or more pairs with semicolons between. -/
inductive LayerId : List Char → Prop where
  | pair {p : List Char} (hp : IdPair p) : LayerId p
  | cons {p id : List Char} (hp : IdPair p) (h : LayerId id) : LayerId (p ++ ';' :: id)

theorem IsNumber.not_mem {ds : List Char} (h : IsNumber ds) {c : Char} (hc : c.isDigit = false) :
    c ∉ ds := by
  intro hm
  rw [h.2 c hm] at hc
  cases hc

/-- Digits are passed over, up to a character that is none. -/
theorem IsNumber.dropWhile_append {ds rest : List Char} (h : IsNumber ds)
    (hrest : ∀ c ∈ rest.head?, c.isDigit = false) :
    (ds ++ rest).dropWhile Char.isDigit = rest := by
  rw [List.dropWhile_append_of_pos h.2]
  cases rest with
  | nil => rfl
  | cons c rest => exact List.dropWhile_cons_of_neg (by simp [hrest c rfl])

namespace IdPair

/-- A pair is cut in two at its only colon. -/
theorem exists_eq {p : List Char} (h : IdPair p) :
    ∃ u b, p = u ++ ':' :: b ∧ ':' ∉ u ∧ IsNumber b := by
  cases h with
  | @plain a b ha hb => exact ⟨a, b, rfl, ha.not_mem rfl, hb⟩
  | @marked a b ha hb =>
      refine ⟨'I' :: a, b, rfl, fun hm => ?_, hb⟩
      rcases List.mem_cons.mp hm with hm | hm
      · cases hm
      · exact ha.not_mem rfl hm

theorem isIdChar_of_mem {p : List Char} (h : IdPair p) : ∀ c ∈ p, isIdChar c := by
  have hnumber : ∀ {ds : List Char}, IsNumber ds → ∀ c ∈ ds, isIdChar c :=
    fun hds c hc => isIdChar_iff.mpr (.inl (hds.2 c hc))
  cases h with
  | plain ha hb =>
      rw [List.forall_mem_append, List.forall_mem_cons]
      exact ⟨hnumber ha, rfl, hnumber hb⟩
  | marked ha hb =>
      rw [List.cons_append, List.forall_mem_cons, List.forall_mem_append, List.forall_mem_cons]
      exact ⟨rfl, hnumber ha, rfl, hnumber hb⟩

/-- Behind the digits that a pair begins with, if any, stands the mark or the colon. -/
theorem head?_dropWhile {p : List Char} (h : IdPair p) (rest : List Char) :
    ((p ++ rest).dropWhile Char.isDigit).head? = some 'I' ∨
      ((p ++ rest).dropWhile Char.isDigit).head? = some ':' := by
  cases h with
  | @plain a b ha hb =>
      have hcolon : ∀ c ∈ (':' :: (b ++ rest)).head?, c.isDigit = false := by
        rintro c ⟨⟩
        rfl
      rw [List.append_assoc, List.cons_append, ha.dropWhile_append hcolon]
      exact .inr rfl
  | marked ha hb => exact .inl rfl

end IdPair

namespace LayerId

theorem isIdChar_of_mem {id : List Char} (h : LayerId id) : ∀ c ∈ id, isIdChar c := by
  induction h with
  | pair hp => exact hp.isIdChar_of_mem
  | cons hp _ ih =>
      rw [List.forall_mem_append, List.forall_mem_cons]
      exact ⟨hp.isIdChar_of_mem, rfl, ih⟩

theorem head?_dropWhile {id : List Char} (h : LayerId id) :
    (id.dropWhile Char.isDigit).head? = some 'I' ∨
      (id.dropWhile Char.isDigit).head? = some ':' := by
  cases h with
  | pair hp =>
      have hhead := hp.head?_dropWhile []
      rwa [List.append_nil] at hhead
  | cons hp _ => exact hp.head?_dropWhile _

/-- Behind a colon and the number that follows it stands nothing or a semicolon. -/
theorem head?_dropWhile_of_append {id : List Char} (h : LayerId id) :
    ∀ x y, id = x ++ ':' :: y →
      (y.dropWhile Char.isDigit).head? = none ∨ (y.dropWhile Char.isDigit).head? = some ';' := by
  -- the colon of a pair, with nothing or a semicolon behind the pair
  have hpair : ∀ {p rest : List Char}, IdPair p → (rest = [] ∨ ∃ r, rest = ';' :: r) →
      ∀ x y, p = x ++ ':' :: y → ((y ++ rest).dropWhile Char.isDigit).head? = none ∨
        ((y ++ rest).dropWhile Char.isDigit).head? = some ';' := by
    intro p rest hp hrest x y hxy
    obtain ⟨u, b, hub, hu, hb⟩ := hp.exists_eq
    obtain ⟨-, -, rfl⟩ :=
      (List.append_cons_inj_of_notMem hu (hb.not_mem rfl)).mp (hxy.symm.trans hub).symm
    rcases hrest with rfl | ⟨r, rfl⟩
    · rw [hb.dropWhile_append (by simp)]
      exact .inl rfl
    · have hsemicolon : ∀ c ∈ (';' :: r).head?, c.isDigit = false := by
        rintro c ⟨⟩
        rfl
      rw [hb.dropWhile_append hsemicolon]
      exact .inr rfl
  induction h with
  | pair hp =>
      intro x y hxy
      have h := hpair hp (.inl rfl) x y hxy
      rwa [List.append_nil] at h
  | @cons p id hp _ ih =>
      intro x y hxy
      rcases List.append_eq_append_iff.mp hxy with ⟨z, rfl, hz⟩ | ⟨z, rfl, hz⟩
      · -- the colon is behind the semicolon
        cases z with
        | nil => cases hz
        | cons c z => exact ih z y (List.cons.inj hz).2
      · cases z with
        | nil => cases hz
        | cons c z =>
            obtain ⟨rfl, rfl⟩ := List.cons.inj hz
            exact hpair hp (.inr ⟨id, rfl⟩) x z rfl

/-- No id stands behind a colon of another. -/
theorem not_append_colon {x y : List Char} (h : LayerId (x ++ ':' :: y)) : ¬ LayerId y := by
  intro hy
  have hend := h.head?_dropWhile_of_append x y rfl
  rcases hy.head?_dropWhile with hstart | hstart <;> rw [hstart] at hend <;> simp at hend

end LayerId

/-! ### Ids in classes -/

/-- What a class has for a character of an id. -/
def classOfIdChar (c : Char) : Char :=
  if c = ':' then '-' else if c = ';' then '_' else c

/-- The character of an id that a class has `c` for. -/
def idCharOfClass (c : Char) : Char :=
  if c = '-' then ':' else if c = '_' then ';' else c

theorem idCharOfClass_classOfIdChar {c : Char} (h : isIdChar c) :
    idCharOfClass (classOfIdChar c) = c := by
  rcases isIdChar_iff.mp h with h | rfl | rfl | rfl
  · have hne : ∀ d : Char, d.isDigit = false → c ≠ d := by
      rintro d hd rfl
      rw [hd] at h
      cases h
    rw [classOfIdChar, if_neg (hne _ rfl), if_neg (hne _ rfl), idCharOfClass,
      if_neg (hne _ rfl), if_neg (hne _ rfl)]
  · rfl
  · rfl
  · rfl

theorem classOfId_eq_map {id : List Char} (h : ∀ c ∈ id, isIdChar c) :
    classOfId id = id.map classOfIdChar := by
  have hchar : ∀ c ∈ id, (if c = ':' then some '-' else if c = ';' then some '_'
      else if isClassChar c then some c else none) = some (classOfIdChar c) := by
    intro c hc
    rw [classOfIdChar]
    split_ifs with _ _ hclass
    · rfl
    · rfl
    · rfl
    · refine absurd (isClassChar_iff.mpr (.inl ?_)) hclass
      rcases isIdChar_iff.mp (h c hc) with hd | rfl | rfl | rfl
      · simp [Char.isAlphanum, hd]
      · rfl
      · contradiction
      · contradiction
  rw [classOfId, List.filterMap_congr hchar, List.filterMap_eq_map']

/-- An id is read off its part of a class. -/
theorem map_idCharOfClass_classOfId {id : List Char} (h : ∀ c ∈ id, isIdChar c) :
    (classOfId id).map idCharOfClass = id := by
  have hself : ∀ c ∈ id, (idCharOfClass ∘ classOfIdChar) c = c :=
    fun c hc => idCharOfClass_classOfIdChar (h c hc)
  rw [classOfId_eq_map h, List.map_map, List.map_congr_left hself, List.map_id']

theorem classOfId_inj {id id' : List Char} (h : ∀ c ∈ id, isIdChar c)
    (h' : ∀ c ∈ id', isIdChar c) (he : classOfId id = classOfId id') : id = id' := by
  rw [← map_idCharOfClass_classOfId h, he, map_idCharOfClass_classOfId h']

/-- The part of a class for one id does not end with a dash and the part for another. -/
theorem LayerId.classOfId_ne_append {id id' : List Char} (h : LayerId id) (h' : LayerId id')
    (a : List Char) : classOfId id ≠ a ++ '-' :: classOfId id' := by
  intro he
  have hid := congrArg (List.map idCharOfClass) he
  rw [map_idCharOfClass_classOfId h.isIdChar_of_mem, List.map_append, List.map_cons,
    map_idCharOfClass_classOfId h'.isIdChar_of_mem] at hid
  exact LayerId.not_append_colon (hid ▸ h) h'

/-- Whatever is before the dash, ids of the design tool are told apart behind it. -/
theorem LayerId.eq_of_append {id id' a b : List Char} (h : LayerId id) (h' : LayerId id')
    (he : a ++ '-' :: classOfId id = b ++ '-' :: classOfId id') : id = id' := by
  rcases List.append_eq_append_iff.mp he with ⟨c, -, hc⟩ | ⟨c, -, hc⟩
  · cases c with
    | nil =>
        exact classOfId_inj h.isIdChar_of_mem h'.isIdChar_of_mem (List.cons.inj hc).2
    | cons d c => exact absurd (List.cons.inj hc).2 (h.classOfId_ne_append h' c)
  · cases c with
    | nil =>
        exact (classOfId_inj h'.isIdChar_of_mem h.isIdChar_of_mem (List.cons.inj hc).2).symm
    | cons d c => exact absurd (List.cons.inj hc).2 (h'.classOfId_ne_append h c)

theorem exists_className_eq (name id : String) :
    ∃ a, (className name id).toList = a ++ '-' :: classOfId id.toList := by
  rcases className_cases name id with ⟨h, -⟩ | h
  · exact ⟨_, h⟩
  · exact ⟨'_' :: classOfName name.toList, h⟩

/-- Layers with different ids have different classes, whatever their names. -/
theorem LayerId.eq_of_className {name name' id id' : String} (h : LayerId id.toList)
    (h' : LayerId id'.toList) (he : className name id = className name' id') : id = id' := by
  obtain ⟨a, ha⟩ := exists_className_eq name id
  obtain ⟨b, hb⟩ := exists_className_eq name' id'
  exact String.toList_inj.mp (h.eq_of_append h' (ha.symm.trans ((congrArg _ he).trans hb)))

/-- Under one name the classes of different ids differ, if the ids have no other characters. -/
theorem eq_of_className_of_isIdChar {name id id' : String} (h : ∀ c ∈ id.toList, isIdChar c)
    (h' : ∀ c ∈ id'.toList, isIdChar c) (he : className name id = className name id') :
    id = id' := by
  refine String.toList_inj.mp (classOfId_inj h h' ?_)
  have hlists := String.ofList_inj.mp he
  -- the name decides whether there is an underscore before it
  cases hname : classOfName name.toList with
  | nil => simpa [hname] using hlists
  | cons c cs =>
      rw [hname] at hlists
      simp only [List.cons_append] at hlists
      split at hlists
      · simpa using hlists
      · simpa using hlists

end Handoff
