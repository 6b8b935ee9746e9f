import Handoff.Json.Record
import Handoff.Json.Tagged
import Mathlib.Data.List.Forall2
import Mathlib.Data.Option.Basic

/-!
# Records that look alike

A record is read from the members of an object by their names.  Whether it is read, and as what,
depends on the members of its own fields alone, not on their order and not on members of other
names.

* `Matched`: for each of some names, the same members up to a relation, where the name is not
  repeated.
* `Fields.Respects.ofMembers`, `Fields.Respects.ofItems`: fields that respect a relation read
  matched members, and matched items, as the same record.
* `Matched.untag`: matched members have the same tag, and what they hold besides is matched.
-/

namespace Handoff.Json

/-! ### Results that are kept -/

/-- What `x` yields, `y` yields too. -/
def Kept {α : Type} (x y : Decoded α) : Prop :=
  ∀ a, x = .ok a → y = .ok a

namespace Kept

variable {α α' β : Type}

theorem refl (x : Decoded α) : Kept x x :=
  fun _ h => h

theorem of_error (e : DecodeError) (y : Decoded α) : Kept (.error e) y :=
  nofun

theorem bind_exists {x : Decoded α} {y : Decoded α'} {f : α → Decoded β} {g : α' → Decoded β}
    (h : ∀ a, x = .ok a → ∃ a', y = .ok a' ∧ Kept (f a) (g a')) : Kept (x >>= f) (y >>= g) := by
  intro b hb
  cases x with
  | error e => cases hb
  | ok a =>
      obtain ⟨a', rfl, hfg⟩ := h a rfl
      exact hfg b hb

theorem bind {x y : Decoded α} {f g : α → Decoded β} (h : Kept x y)
    (hfg : ∀ a, x = .ok a → Kept (f a) (g a)) : Kept (x >>= f) (y >>= g) :=
  bind_exists fun a ha => ⟨a, h a ha, hfg a ha⟩

theorem map {x y : Decoded α} (h : Kept x y) (f : α → β) : Kept (x.map f) (y.map f) := by
  intro b hb
  cases x with
  | error e => cases hb
  | ok a =>
      rw [h a rfl]
      exact hb

theorem mapM {f : α → Decoded β} {a a' : α} (h : Kept (f a) (f a')) (before after : List α) :
    Kept ((before ++ a :: after).mapM f) ((before ++ a' :: after).mapM f) := by
  rw [List.mapM_append, List.mapM_append, List.mapM_cons, List.mapM_cons]
  exact .bind (.refl _) fun _ _ =>
    .bind (.bind h fun _ _ => .refl _) fun _ _ => .refl _

end Kept

/-! ### Members of one name -/

section Members

variable {π ρ : Type} {R : String → π → π → Prop}

/-- What the members called `key` hold. -/
def held (key : String) (ms : List (String × π)) : List π :=
  ms.filterMap fun m => if m.1 = key then some m.2 else none

@[simp] theorem held_nil (key : String) : held key ([] : List (String × π)) = [] := rfl

@[simp] theorem held_cons_self (key : String) (p : π) (ms : List (String × π)) :
    held key ((key, p) :: ms) = p :: held key ms := by
  simp [held]

theorem held_cons_of_ne {key k : String} (h : k ≠ key) (p : π) (ms : List (String × π)) :
    held key ((k, p) :: ms) = held key ms := by
  simp [held, h]

@[simp] theorem held_append (key : String) (ms ms' : List (String × π)) :
    held key (ms ++ ms') = held key ms ++ held key ms' :=
  List.filterMap_append

theorem held_map (key : String) (f : π → ρ) (ms : List (String × π)) :
    held key (ms.map fun m => (m.1, f m.2)) = (held key ms).map f := by
  induction ms with
  | nil => rfl
  | cons m ms ih =>
      obtain ⟨k, p⟩ := m
      by_cases h : k = key
      · subst h
        simp [ih]
      · rw [List.map_cons, held_cons_of_ne h, held_cons_of_ne h, ih]

theorem mem_of_mem_held {key : String} {p : π} {ms : List (String × π)} (h : p ∈ held key ms) :
    (key, p) ∈ ms := by
  obtain ⟨⟨k, q⟩, hmem, hm⟩ := List.mem_filterMap.mp h
  split_ifs at hm with hk
  cases hm
  exact hk ▸ hmem

theorem lookup_eq_head?_held (key : String) (ms : List (String × π)) :
    ms.lookup key = (held key ms).head? := by
  induction ms with
  | nil => rfl
  | cons m ms ih =>
      obtain ⟨k, p⟩ := m
      by_cases h : k = key
      · subst h
        simp
      · rw [held_cons_of_ne h, ← ih, List.lookup_cons, beq_false_of_ne (Ne.symm h)]

theorem exists_of_forall₂ {S : π → π → Prop} {l l' : List π} (h : List.Forall₂ S l l') {q : π}
    (hq : q ∈ l') : ∃ p ∈ l, S p q := by
  induction h with
  | nil => cases hq
  | cons hpq _ ih =>
      rcases List.mem_cons.mp hq with rfl | hq
      · exact ⟨_, List.mem_cons_self, hpq⟩
      · obtain ⟨p, hp, hpq⟩ := ih hq
        exact ⟨p, List.mem_cons_of_mem _ hp, hpq⟩

/-- For each name of `keys` that is not repeated in `ms`, both have the same members up to `R`. -/
def Matched (R : String → π → π → Prop) (keys : List String) (ms ms' : List (String × π)) :
    Prop :=
  ∀ key ∈ keys, (held key ms).length ≤ 1 → List.Forall₂ (R key) (held key ms) (held key ms')

namespace Matched

variable {keys : List String} {ms ms' : List (String × π)}

theorem perm (hR : ∀ key p, R key p p) (h : ms.Perm ms') : Matched R keys ms ms' := by
  intro key _ hlength
  have hheld : (held key ms).Perm (held key ms') := h.filterMap _
  have heq : held key ms = held key ms' := by
    cases hms : held key ms with
    | nil => rw [hms] at hheld; exact hheld.nil_eq
    | cons p ps =>
        rw [hms] at hheld hlength
        obtain rfl : ps = [] := List.eq_nil_of_length_eq_zero (by simpa using hlength)
        exact (List.singleton_perm.mp hheld).symm ▸ rfl
  rw [heq]
  exact List.forall₂_same.mpr fun p _ => hR key p

theorem cons (hR : ∀ key p, R key p p) {k : String} (hk : k ∉ keys) (p : π) :
    Matched R keys ms ((k, p) :: ms) := by
  intro key hkey _
  rw [held_cons_of_ne (ne_of_mem_of_not_mem hkey hk).symm]
  exact List.forall₂_same.mpr fun p _ => hR key p

theorem member (hR : ∀ key p, R key p p) {k : String} {p q : π}
    (h : k ∈ keys → R k p q) (before after : List (String × π)) :
    Matched R keys (before ++ (k, p) :: after) (before ++ (k, q) :: after) := by
  intro key hkey _
  have hsame (l : List π) : List.Forall₂ (R key) l l := List.forall₂_same.mpr fun p _ => hR key p
  rw [held_append, held_append]
  refine List.rel_append (hsame _) ?_
  by_cases hk : k = key
  · subst hk
    rw [held_cons_self, held_cons_self]
    exact .cons (h hkey) (hsame _)
  · rw [held_cons_of_ne hk, held_cons_of_ne hk]
    exact hsame _

theorem subset (h : Matched R keys ms ms') {keys' : List String} (hkeys : keys' ⊆ keys) :
    Matched R keys' ms ms' :=
  fun key hkey => h key (hkeys hkey)

theorem map (h : Matched R keys ms ms') {R' : String → ρ → ρ → Prop} {f : π → ρ}
    (hf : ∀ key p q, p ∈ held key ms → R key p q → R' key (f p) (f q)) :
    Matched R' keys (ms.map fun m => (m.1, f m.2)) (ms'.map fun m => (m.1, f m.2)) := by
  intro key hkey hlength
  rw [held_map] at hlength ⊢
  rw [held_map, List.forall₂_map_left_iff, List.forall₂_map_right_iff]
  have hheld := h key hkey (by simpa using hlength)
  exact ((List.forall₂_and_left _ _).mpr ⟨fun _ hp => hp, hheld⟩).imp
    fun p q hpq => hf key p q hpq.1 hpq.2

theorem lookup (h : Matched R keys ms ms') {key : String} (hkey : key ∈ keys)
    (hlength : (held key ms).length ≤ 1) : Option.Rel (R key) (ms.lookup key) (ms'.lookup key) := by
  rw [lookup_eq_head?_held, lookup_eq_head?_held]
  have hheld := h key hkey hlength
  revert hheld
  generalize held key ms = ps, held key ms' = qs
  rintro (_ | ⟨hp, _⟩)
  · exact .none
  · exact .some hp

end Matched

/-- As many items, and at each name of `keys` the same item up to `R`. -/
structure MatchedItems (R : String → π → π → Prop) (keys : List String) (ps qs : List π) :
    Prop where
  length_eq : ps.length = qs.length
  zip : List.Forall₂ (fun a b => a.1 = b.1 ∧ R a.1 a.2 b.2) (keys.zip ps) (keys.zip qs)

namespace MatchedItems

variable {keys : List String} {ps qs : List π}

theorem item (hR : ∀ key p, R key p p) {p q : π} (before after : List π)
    (h : ∀ key, keys[before.length]? = some key → R key p q) :
    MatchedItems R keys (before ++ p :: after) (before ++ q :: after) where
  length_eq := by simp
  zip := by
    have hsame (l : List (String × π)) :
        List.Forall₂ (fun a b => a.1 = b.1 ∧ R a.1 a.2 b.2) l l :=
      List.forall₂_same.mpr fun a _ => ⟨rfl, hR _ _⟩
    induction before generalizing keys with
    | nil =>
        cases keys with
        | nil => exact .nil
        | cons k keys => exact .cons ⟨rfl, h k rfl⟩ (hsame _)
    | cons r before ih =>
        cases keys with
        | nil => exact .nil
        | cons k keys => exact .cons ⟨rfl, hR _ _⟩ (ih h)

theorem lookup (h : MatchedItems R keys ps qs) (key : String) :
    Option.Rel (R key) ((keys.zip ps).lookup key) ((keys.zip qs).lookup key) := by
  have hzip := h.zip
  generalize keys.zip ps = as, keys.zip qs = bs at hzip ⊢
  induction hzip with
  | nil => exact .none
  | @cons a b as bs hab _ ih =>
      obtain ⟨k, p⟩ := a
      obtain ⟨_, q⟩ := b
      obtain ⟨rfl, hpq⟩ := hab
      simp only [List.lookup_cons]
      cases hk : key == k with
      | true =>
          obtain rfl := eq_of_beq hk
          exact .some hpq
      | false => exact ih

theorem head {k : String} {p q : π} (h : MatchedItems R (k :: keys) (p :: ps) (q :: qs)) :
    R k p q :=
  (List.forall₂_cons.mp h.zip).1.2

theorem tail {k : String} {p q : π} (h : MatchedItems R (k :: keys) (p :: ps) (q :: qs)) :
    MatchedItems R keys ps qs where
  length_eq := by simpa using h.length_eq
  zip := (List.forall₂_cons.mp h.zip).2

end MatchedItems

/-- Two objects with matched members, or two arrays with matched items. -/
inductive MatchedValues (R : String → Value → Value → Prop) (keys : List String) :
    Value → Value → Prop where
  | object {ms ms' : List (String × Value)} (h : Matched R keys ms ms') :
      MatchedValues R keys (.object ms) (.object ms')
  | array {vs ws : List Value} (h : MatchedItems R keys vs ws) :
      MatchedValues R keys (.array vs) (.array ws)

end Members

/-! ### Fields -/

namespace Fields

variable {π α β : Type} {R : String → π → π → Prop}

/-- The members are checked with success if no name of a field is repeated and each of them passes
its check. -/
theorem scan_eq_ok_iff (f : Fields π α) (seen : List String) (ms : List (String × π)) :
    f.scan seen ms = .ok () ↔ ∀ key check, f.checks.lookup key = some check →
      (held key ms).length ≤ (if key ∈ seen then 0 else 1) ∧
        ∀ p ∈ held key ms, check p = .ok () := by
  induction ms generalizing seen with
  | nil => simp [scan]
  | cons m ms ih =>
      obtain ⟨k, p⟩ := m
      rw [scan]
      split
      next hnone =>
        rw [ih]
        refine forall₃_congr fun key check hcheck => ?_
        have hk : k ≠ key := fun h => by rw [h, hcheck] at hnone; cases hnone
        rw [held_cons_of_ne hk]
      next check hk =>
        split
        next hseen =>
          refine ⟨nofun, fun h => ?_⟩
          have hlength := (h k check hk).1
          simp [List.contains_iff_mem.mp hseen] at hlength
        next hseen =>
          have hnew : k ∉ seen := fun h => hseen (List.contains_iff_mem.mpr h)
          have hbind : (do check p; f.scan (k :: seen) ms) = .ok () ↔
              check p = .ok () ∧ f.scan (k :: seen) ms = .ok () := by
            cases check p with
            | error e => exact ⟨nofun, fun h => nomatch h.1⟩
            | ok u => exact ⟨fun h => ⟨rfl, h⟩, fun h => h.2⟩
          -- the new member counts for the fields of its own name only
          have hcons key check' (hcheck : f.checks.lookup key = some check') :
              ((held key ((k, p) :: ms)).length ≤ (if key ∈ seen then 0 else 1) ∧
                ∀ q ∈ held key ((k, p) :: ms), check' q = .ok ()) ↔
              ((held key ms).length ≤ (if key ∈ k :: seen then 0 else 1) ∧
                ∀ q ∈ held key ms, check' q = .ok ()) ∧ (key = k → check p = .ok ()) := by
            by_cases heq : k = key
            · subst heq
              obtain rfl := Option.some.inj (hk.symm.trans hcheck)
              simp only [held_cons_self, List.length_cons, List.forall_mem_cons, List.mem_cons_self]
              grind
            · rw [held_cons_of_ne heq]
              simp [Ne.symm heq]
          rw [hbind, ih]
          constructor
          · rintro ⟨hp, hrest⟩ key check' hcheck
            exact (hcons key check' hcheck).mpr ⟨hrest key check' hcheck, fun _ => hp⟩
          · intro h
            exact ⟨((hcons k check hk).mp (h k check hk)).2 rfl,
              fun key check' hcheck => ((hcons key check' hcheck).mp (h key check' hcheck)).1⟩

theorem exists_lookup_of_mem_keys {f : Fields π α} {key : String} (h : key ∈ f.keys) :
    ∃ check, f.checks.lookup key = some check := by
  obtain ⟨c, hc, rfl⟩ := List.mem_map.mp h
  exact Option.isSome_iff_exists.mp (List.lookup_isSome_iff.mpr ⟨c, hc, by simp⟩)

theorem mem_of_lookup_eq_some {f : Fields π α} {key : String} {check : π → Decoded Unit}
    (h : f.checks.lookup key = some check) : (key, check) ∈ f.checks := by
  obtain ⟨l, r, heq, -⟩ := List.lookup_eq_some_iff.mp h
  rw [heq]
  exact List.mem_append_right _ List.mem_cons_self

/-- The fields read alike what stands in the relation `R` at the same name. -/
structure Respects (f : Fields π α) (R : String → π → π → Prop) : Prop where
  check : ∀ c ∈ f.checks, ∀ p q, R c.1 p q → Kept (c.2 p) (c.2 q)
  build : ∀ absent find find', (∀ key ∈ f.keys, Option.Rel (R key) (find key) (find' key)) →
    Kept (f.build absent find) (f.build absent find')

namespace Respects

theorem kept_of_rel {S : π → π → Prop} {read : π → Decoded α} {absent : Decoded α}
    (h : ∀ p q, S p q → Kept (read p) (read q)) (p q : Option π) :
    Option.Rel S p q → Kept (match p with | some p => read p | none => absent)
      (match q with | some q => read q | none => absent)
  | .some hpq => h _ _ hpq
  | .none => .refl _

theorem required {key : String} {read : π → Decoded α}
    (h : ∀ p q, R key p q → Kept (read p) (read q)) : (required key read).Respects R where
  check := by
    intro c hc p q hpq
    obtain rfl := List.mem_singleton.mp hc
    exact (h p q hpq).map _
  build _ _ _ hfind := kept_of_rel h _ _ (hfind key (List.mem_singleton.mpr rfl))

theorem optional {key : String} {read : π → Decoded α} {default : α}
    (h : ∀ p q, R key p q → Kept (read p) (read q)) :
    (optional key read default).Respects R where
  check := (required h).check
  build _ _ _ hfind := kept_of_rel h _ _ (hfind key (List.mem_singleton.mpr rfl))

theorem seq {f : Fields π (α → β)} {x : Fields π α} (hf : f.Respects R) (hx : x.Respects R) :
    (f <*> x).Respects R where
  check := by
    intro c hc
    rcases List.mem_append.mp hc with h | h
    · exact hf.check c h
    · exact hx.check c h
  build := by
    intro absent find find' hfind
    have hkeys : (f <*> x).keys = f.keys ++ x.keys := List.map_append
    rw [hkeys] at hfind
    refine .bind (hf.build _ _ _ fun key h => hfind key (List.mem_append_left _ h)) fun g _ => ?_
    exact .bind (hx.build _ _ _ fun key h => hfind key (List.mem_append_right _ h))
      fun a _ => .refl _

theorem pure (a : α) : (Pure.pure a : Fields π α).Respects R :=
  ⟨nofun, fun _ _ _ _ => .refl _⟩

theorem scan {f : Fields π α} (hf : f.Respects R) {ms ms' : List (String × π)}
    (h : Matched R f.keys ms ms') : Kept (f.scan [] ms) (f.scan [] ms') := by
  intro u hu
  rw [scan_eq_ok_iff] at hu ⊢
  intro key check hcheck
  obtain ⟨hlength, hchecks⟩ := hu key check hcheck
  have hmem := mem_of_lookup_eq_some hcheck
  have hheld := h key (List.mem_map_of_mem hmem) (by simpa using hlength)
  refine ⟨hheld.length_eq ▸ hlength, fun q hq => ?_⟩
  obtain ⟨p, hp, hpq⟩ := exists_of_forall₂ hheld hq
  exact hf.check _ hmem p q hpq () (hchecks p hp)

/-- Matched members are read as the same record. -/
theorem ofMembers {f : Fields π α} (hf : f.Respects R) {ms ms' : List (String × π)}
    (h : Matched R f.keys ms ms') : Kept (f.ofMembers ms) (f.ofMembers ms') := by
  refine .bind (hf.scan h) fun u hu => hf.build _ _ _ fun key hkey => h.lookup hkey ?_
  obtain ⟨check, hcheck⟩ := exists_lookup_of_mem_keys hkey
  exact ((scan_eq_ok_iff f [] ms).mp hu key check hcheck).1

/-- Matched items are read as the same record. -/
theorem ofItems {f : Fields π α} (hf : f.Respects R) (name : String) {ps qs : List π}
    (h : MatchedItems R f.keys ps qs) : Kept (f.ofItems name ps) (f.ofItems name qs) :=
  hf.build _ _ _ fun key _ => h.lookup key

/-- Matched values are read as the same record. -/
theorem read {f : Fields Value α} {R : String → Value → Value → Prop} (hf : f.Respects R)
    (name : String) {v w : Value} (h : MatchedValues R f.keys v w) :
    Kept (f.read name v) (f.read name w) := by
  cases h with
  | object h => exact hf.ofMembers h
  | array h =>
      refine .bind (hf.ofItems name h) fun a _ => ?_
      rw [h.length_eq]
      exact .refl _

end Respects

end Fields

/-! ### Tagged values -/

section Tagged

variable {π : Type} {R : String → π → π → Prop} {form : TagForm} {key : String} {value : π → Value}

theorem takeTag_cons_of_ne {m : String × π} (hm : m.1 ≠ key) {ms rest : List (String × π)}
    {met o : Option Tag} :
    takeTag form key value met (m :: ms) = .ok (o, rest) ↔
      ∃ rest', takeTag form key value met ms = .ok (o, rest') ∧ rest = m :: rest' := by
  rw [takeTag, if_neg hm]
  constructor
  · intro h
    cases hms : takeTag form key value met ms with
    | error e => rw [hms] at h; cases h
    | ok r => rw [hms] at h; cases h; exact ⟨r.2, rfl, rfl⟩
  · rintro ⟨rest', hrest, rfl⟩
    rw [hrest]
    rfl

theorem takeTag_some_eq_ok_iff {tag : Tag} {ms rest : List (String × π)} {o : Option Tag} :
    takeTag form key value (some tag) ms = .ok (o, rest) ↔
      held key ms = [] ∧ o = some tag ∧ rest = ms.filter fun m => m.1 ≠ key := by
  induction ms generalizing rest with
  | nil =>
      simp only [takeTag, held_nil, Except.ok.injEq, Prod.mk.injEq, List.filter_nil]
      grind
  | cons m ms ih =>
      obtain ⟨k, p⟩ := m
      by_cases hk : k = key
      · subst hk
        simp [takeTag]
      · rw [takeTag_cons_of_ne hk, held_cons_of_ne hk, List.filter_cons_of_pos (by simpa using hk)]
        simp only [ih]
        grind

/-- The tag is the value of the only member of its name. -/
theorem takeTag_none_eq_ok_iff {tag : Tag} {ms rest : List (String × π)} :
    takeTag form key value none ms = .ok (some tag, rest) ↔
      ∃ p, held key ms = [p] ∧ form.read (value p) = .ok tag ∧
        rest = ms.filter fun m => m.1 ≠ key := by
  induction ms generalizing rest with
  | nil => simp [takeTag]
  | cons m ms ih =>
      obtain ⟨k, p⟩ := m
      by_cases hk : k = key
      · subst hk
        rw [held_cons_self, List.filter_cons_of_neg (by simp)]
        have hcons : takeTag form k value none ((k, p) :: ms) =
            form.read (value p) >>= fun t => takeTag form k value (some t) ms := by
          simp [takeTag]
        rw [hcons]
        cases hread : form.read (value p) with
        | error e =>
            refine ⟨nofun, ?_⟩
            rintro ⟨q, hq, hread', -⟩
            obtain ⟨rfl, -⟩ := List.cons_eq_cons.mp hq
            rw [hread] at hread'
            cases hread'
        | ok t =>
            refine takeTag_some_eq_ok_iff.trans ?_
            grind
      · rw [takeTag_cons_of_ne hk, held_cons_of_ne hk, List.filter_cons_of_pos (by simpa using hk)]
        simp only [ih]
        grind

theorem TagForm.read_nameOrIndex {v : Value} {tag : Tag} (h : form.read v = .ok tag) :
    TagForm.nameOrIndex.read v = .ok tag := by
  cases form with
  | nameOrIndex => exact h
  | nameOnly =>
      cases v with
      | string s => exact h
      | number n => cases n <;> cases h
      | _ => cases h

theorem untagMembers_eq_ok_iff {ms : List (String × π)} {tag : Tag} {body : Body π} :
    untagMembers form key value ms = .ok (tag, body) ↔
      ∃ p, held key ms = [p] ∧ form.read (value p) = .ok tag ∧
        body = .members (ms.filter fun m => m.1 ≠ key) := by
  have htake : untagMembers form key value ms = .ok (tag, body) ↔
      ∃ rest, takeTag form key value none ms = .ok (some tag, rest) ∧ body = .members rest := by
    rw [untagMembers]
    cases takeTag form key value none ms with
    | error e => exact ⟨nofun, fun ⟨_, h, _⟩ => nomatch h⟩
    | ok r =>
        obtain ⟨_ | t, rest⟩ := r
        · exact ⟨nofun, fun ⟨_, h, _⟩ => nomatch h⟩
        · constructor
          · rintro ⟨⟩
            exact ⟨rest, rfl, rfl⟩
          · rintro ⟨_, ⟨⟩, rfl⟩
            rfl
  rw [htake]
  simp only [takeTag_none_eq_ok_iff]
  grind

theorem untagItems_cons_eq_ok_iff (key : String) {v : Value} {vs : List Value} {tag : Tag}
    {body : Body π} :
    untagItems form key (v :: vs) = .ok (tag, body) ↔
      form.read v = .ok tag ∧ body = .items vs := by
  rw [untagItems]
  cases form.read v with
  | error e => exact ⟨nofun, fun h => nomatch h.1⟩
  | ok t =>
      constructor
      · rintro ⟨⟩
        exact ⟨rfl, rfl⟩
      · rintro ⟨⟨⟩, rfl⟩
        rfl

theorem held_filter_ne (k : String) (ms : List (String × π)) :
    held k (ms.filter fun m => m.1 ≠ key) = if k = key then [] else held k ms := by
  induction ms with
  | nil => simp
  | cons m ms ih =>
      obtain ⟨l, p⟩ := m
      by_cases hl : l = key
      · subst hl
        rw [List.filter_cons_of_neg (by simp), ih]
        split
        next => rfl
        next hk => rw [held_cons_of_ne (Ne.symm hk)]
      · rw [List.filter_cons_of_pos (by simpa using hl)]
        by_cases hk : l = k
        · subst hk
          rw [held_cons_self, held_cons_self, ih, if_neg hl, if_neg hl]
        · rw [held_cons_of_ne hk, held_cons_of_ne hk, ih]

theorem Matched.untag {keys : List String} {ms ms' : List (String × π)} {tag : Tag} {body : Body π}
    (h : Matched R (key :: keys) ms ms')
    (htag : ∀ p q, R key p q → Kept (form.read (value p)) (form.read (value q)))
    (hms : untagMembers form key value ms = .ok (tag, body)) :
    ∃ rest rest', body = .members rest ∧
      untagMembers form key value ms' = .ok (tag, .members rest') ∧
      Matched R keys rest rest' := by
  obtain ⟨p, hp, htp, rfl⟩ := untagMembers_eq_ok_iff.mp hms
  have hkey := h key List.mem_cons_self (by simp [hp])
  rw [hp] at hkey
  obtain ⟨q, hpq, hq⟩ : ∃ q, R key p q ∧ held key ms' = [q] := by
    revert hkey
    generalize held key ms' = qs
    rintro (_ | ⟨hpq, _ | _⟩)
    exact ⟨_, hpq, rfl⟩
  refine ⟨_, _, rfl, untagMembers_eq_ok_iff.mpr ⟨q, hq, htag p q hpq tag htp, rfl⟩,
    fun k hk hlength => ?_⟩
  rw [held_filter_ne] at hlength ⊢
  rw [held_filter_ne]
  split
  next => exact .nil
  next hne =>
    rw [if_neg hne] at hlength
    exact h k (List.mem_cons_of_mem _ hk) hlength

theorem kept_ignore_items {vs ws : List Value} (h : vs.length = ws.length) :
    Kept (Body.items vs : Body π).ignore (Body.items ws : Body π).ignore := by
  cases vs <;> cases ws <;> simp_all [Body.ignore, Kept]

theorem kept_ignore {R : String → Value → Value → Prop} {keys : List String} {b b' : Body Value}
    (h : MatchedValues R keys b.value b'.value) : Kept b.ignore b'.ignore := by
  cases b <;> cases b' <;> cases h
  next => exact .refl _
  next h => exact kept_ignore_items h.length_eq

theorem Tag.find?_of_known {α : Type} {shapes : List (String × α)} {t : Tag} {a : α}
    (h : t.known shapes = .ok a) : t.find? shapes = some a := by
  unfold Tag.known at h
  split at h
  next hfind => rw [hfind, Except.ok.inj h]
  next => cases h
  next => cases h

end Tagged

end Handoff.Json
