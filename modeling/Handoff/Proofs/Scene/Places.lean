import Handoff.Proofs.Json.Records
import Handoff.Scene.Decode

/-!
# Places of a scene

What may stand at a place of a scene, as far as the members of objects go, and the changes that do
not matter there: the members of an object in another order, and further members that the place
does not know.

* `Change`: one such change, at any depth.
* `Change.matched`: a change of a record keeps each of its fields, up to a change inside it.
* `Place.Reads`: a reader yields the same after a change, with one lemma for each way to put
  readers together.
-/

namespace Handoff
open Json

/-- What is read at a place. -/
inductive Place where
  /-- A simple value or a choice. -/
  | plain
  /-- A record with the fields `keys`; `inner` has the places of those that are not plain. -/
  | record (keys : List String) (inner : List (String × Place))
  /-- A tagged value.  The tag, called `key`, decides which other fields there are. -/
  | tagged (key : String) (keys : Tag → List String) (inner : List (String × Place))
  | list (item : Place)
  /-- An object with entries of any name, whose order counts. -/
  | map (entry : Place)
  | node

namespace Place

/-! ### The places inside a place -/

/-- A place that nothing reads. -/
def foreign : Place :=
  .record [] []

def rgb : Place :=
  .record Rgb.fields.keys []

def rgba : Place :=
  .record Rgba.fields.keys []

def point : Place :=
  .record Point.fields.keys []

def bindings : Place :=
  .record boundToken.keys [("color", .record tokenReference.keys [])]

def paint : Place :=
  .tagged "type"
    (fun t => if t.find? [("SOLID", true), ("OTHER", false)] = some true then
      SolidPaint.fields.keys else [])
    [("color", rgb), ("boundVariables", bindings)]

def effect : Place :=
  .tagged "type"
    (fun t => if t.find? [("DROP_SHADOW", true), ("OTHER", false)] = some true then
      Shadow.fields.keys else [])
    [("color", rgba), ("offset", point)]

def lineHeight : Place :=
  .tagged "unit"
    (fun t => if t.find? [("AUTO", 0), ("PERCENT", 1), ("PIXELS", 2)] = some 0 then
      [] else measure.keys)
    []

def letterSpacing : Place :=
  .tagged "unit" (fun _ => measure.keys) []

def segment : Place :=
  .record TextSegment.fields.keys [("lineHeight", lineHeight), ("letterSpacing", letterSpacing)]

def property : Place :=
  .record propertyFields.keys []

/-- The attributes of a node that are not plain, whatever its kind. -/
def nodeInner : List (String × Place) :=
  [("fills", .list paint), ("strokes", .list paint), ("effects", .list effect),
    ("lineHeight", lineHeight), ("letterSpacing", letterSpacing),
    ("styledSegments", .list segment), ("componentProperties", .map property),
    ("children", .list .node), ("exposedInstances", .list .node)]

end Place

def Outline.keys : List String :=
  StrokeWeights.fields.keys ++ CornerRadii.fields.keys

def Box.keys : List String :=
  "clipsContent" :: (Outline.keys ++ AutoLayout.fields.keys)

/-- The attributes that a node of the kind knows besides its tag. -/
def NodeKind.keys : NodeKind → List String
  | frame _ => "children" :: (Layer.fields.keys ++ Box.keys)
  | inst =>
    "componentProperties" :: "children" :: "exposedInstances" :: (Layer.fields.keys ++ Box.keys)
  | group => "children" :: Layer.fields.keys
  | text => TextContent.fields.keys ++ Layer.fields.keys
  | shape _ => Layer.fields.keys ++ Outline.keys
  | unsupported => []

/-- The kind of node that a tag names. -/
def NodeKind.ofTag (t : Tag) : NodeKind :=
  (t.find? nodeKinds).getD .unsupported

namespace Place

/-- The tag of a value, if it has a readable one. -/
def tag? (key : String) : Value → Option Tag
  | .object ms => (ms.lookup key).bind fun v => (TagForm.nameOrIndex.read v).toOption
  | .array (v :: _) => (TagForm.nameOrIndex.read v).toOption
  | _ => none

/-- The fields that are known of a record at the place, and the places of those that are not
plain. -/
def fields? (v : Value) : Place → Option (List String × List (String × Place))
  | record keys inner => some (keys, inner)
  | tagged key keys inner => some (key :: (tag? key v).elim [] keys, inner)
  | node => some ("type" :: (tag? "type" v).elim [] fun t => (NodeKind.ofTag t).keys, nodeInner)
  | plain | list _ | map _ => none

/-- The place of the field `key`. -/
def field (inner : List (String × Place)) (key : String) : Place :=
  (inner.lookup key).getD .plain

/-- The place of the member `key` of the object `v`. -/
def member (v : Value) (key : String) : Place → Place
  | map entry => entry
  | p =>
    match p.fields? v with
    | some (keys, inner) => if key ∈ keys then field inner key else .foreign
    | none => .plain

/-- The place of the item number `i` of the array `v`.  An array stands for a record by the order
of the fields. -/
def item (v : Value) (i : Nat) : Place → Place
  | list item => item
  | p =>
    match p.fields? v with
    | some (keys, inner) => keys[i]?.elim .foreign (field inner)
    | none => .plain

end Place

/-! ### Changes -/

/-- One change that does not matter for what is read at a place. -/
inductive Change : Place → Value → Value → Prop where
  /-- The members of an object in another order, unless it is a map. -/
  | permute {p : Place} {ms ms' : List (String × Value)} (hp : ∀ entry, p ≠ .map entry)
      (h : ms.Perm ms') : Change p (.object ms) (.object ms')
  /-- A further member, with a key that is not known there.  It may be put anywhere afterwards. -/
  | extend {p : Place} {ms : List (String × Value)} {keys : List String}
      {inner : List (String × Place)} (h : p.fields? (.object ms) = some (keys, inner))
      {key : String} (hkey : key ∉ keys) (v : Value) :
      Change p (.object ms) (.object ((key, v) :: ms))
  /-- A change inside a member. -/
  | member {p : Place} {before after : List (String × Value)} {key : String} {v w : Value}
      (h : Change (p.member (.object (before ++ (key, v) :: after)) key) v w) :
      Change p (.object (before ++ (key, v) :: after)) (.object (before ++ (key, w) :: after))
  /-- A change inside an item. -/
  | item {p : Place} {before after : List Value} {v w : Value}
      (h : Change (p.item (.array (before ++ v :: after)) before.length) v w) :
      Change p (.array (before ++ v :: after)) (.array (before ++ w :: after))

/-- The same value, or one changed at the place of the field `key`. -/
def Altered (inner : List (String × Place)) (key : String) (v w : Value) : Prop :=
  v = w ∨ Change (.field inner key) v w

theorem Altered.refl (inner : List (String × Place)) (key : String) (v : Value) :
    Altered inner key v v :=
  .inl rfl

/-- A change of a record keeps its known fields, up to a change inside one of them. -/
theorem Change.matched {p : Place} {v w : Value} {keys : List String}
    {inner : List (String × Place)} (h : Change p v w) (hp : p.fields? v = some (keys, inner)) :
    MatchedValues (Altered inner) keys v w := by
  cases h with
  | permute _ h => exact .object (.perm (Altered.refl inner) h)
  | extend h hkey v =>
      obtain ⟨rfl, -⟩ := Prod.mk.inj (Option.some.inj (h.symm.trans hp))
      exact .object (.cons (Altered.refl inner) hkey v)
  | @member _ before after key v w h =>
      refine .object (.member (Altered.refl inner) (fun hkey => .inr ?_) before after)
      have hplace : p.member (.object (before ++ (key, v) :: after)) key = .field inner key := by
        cases p <;> simp_all [Place.member, Place.fields?]
      rwa [hplace] at h
  | @item _ before after v w h =>
      refine .array (.item (Altered.refl inner) before after fun key hkey => .inr ?_)
      have hplace : p.item (.array (before ++ v :: after)) before.length = .field inner key := by
        cases p <;> simp_all [Place.item, Place.fields?]
      rwa [hplace] at h

theorem Change.object_or_array {p : Place} {v w : Value} (h : Change p v w) :
    (∃ ms, v = .object ms) ∨ ∃ vs, v = .array vs := by
  cases h with
  | permute | extend | member => exact .inl ⟨_, rfl⟩
  | item => exact .inr ⟨_, rfl⟩

/-! ### Readers -/

namespace Place

variable {α β : Type}

theorem tag?_of_untagMembers {π : Type} {form : TagForm} {key : String} {value : π → Value}
    {ms : List (String × π)} {t : Tag} {body : Body π}
    (h : untagMembers form key value ms = .ok (t, body)) :
    tag? key (.object (ms.map fun m => (m.1, value m.2))) = some t := by
  obtain ⟨p, hp, ht, -⟩ := untagMembers_eq_ok_iff.mp h
  rw [tag?, lookup_eq_head?_held, held_map, hp]
  simp only [List.map_cons, List.head?_cons, Option.bind_some, TagForm.read_nameOrIndex ht]
  rfl

/-- What `read` yields, it yields after a change too. -/
def Reads (p : Place) (read : Value → Decoded α) : Prop :=
  ∀ v w, Change p v w → Kept (read v) (read w)

namespace Reads

variable {p : Place} {read : Value → Decoded α}

/-- A reader that takes neither objects nor arrays sees no change. -/
theorem of_simple (hobject : ∀ ms, ∃ e, read (.object ms) = .error e)
    (harray : ∀ vs, ∃ e, read (.array vs) = .error e) : p.Reads read := by
  intro v w h
  obtain ⟨e, he⟩ : ∃ e, read v = .error e := by
    rcases h.object_or_array with ⟨ms, rfl⟩ | ⟨vs, rfl⟩
    · exact hobject ms
    · exact harray vs
  rw [he]
  exact .of_error _ _

theorem map (h : p.Reads read) (f : α → β) : p.Reads fun v => (read v).map f :=
  fun v w hvw => (h v w hvw).map f

theorem orNull (h : p.Reads read) : p.Reads (Value.orNull read) := by
  intro v w hvw
  have hsome := (h v w hvw).map some
  cases hvw <;> exact hsome

theorem mixed (h : p.Reads read) : p.Reads (Mixed.ofValue read) := by
  intro v w hvw
  simp only [Mixed.ofValue]
  cases hv : read v with
  | ok a =>
      rw [h v w hvw a hv]
      exact .refl _
  | error e =>
      rcases hvw.object_or_array with ⟨ms, rfl⟩ | ⟨vs, rfl⟩
      · exact .of_error _ _
      · exact .of_error _ _

theorem listOf (h : p.Reads read) : (Place.list p).Reads (Value.listOf read) := by
  intro v w hvw
  cases hvw with
  | item hvw => exact (h _ _ hvw).mapM _ _
  | _ => exact .of_error _ _

theorem nothing : Place.plain.Reads nothing := by
  intro v w h
  cases h with
  | @permute _ ms _ _ h =>
      cases ms with
      | nil => rw [h.nil_eq]; exact .refl _
      | cons m ms => exact .of_error _ _
  | extend h => cases h
  | @member _ before => cases before <;> exact .of_error _ _
  | item => exact .of_error _ _

theorem choice_object (choices : List (String × α)) (other : Option α) (key : String) (v : Value) :
    Handoff.choice choices other (.object [(key, v)]) =
      ((choices.lookup key).or other).elim (.error (.unknownVariant key (choices.map (·.1))))
        fun a => Handoff.nothing v >>= fun _ => .ok a := by
  rw [Handoff.choice, choiceName]
  dsimp only [bind, Except.bind]
  cases (choices.lookup key).or other <;> rfl

/-- An object that names a choice has one member, so there is no other order of its members. -/
theorem choice (choices : List (String × α)) (other : Option α) :
    Place.plain.Reads (choice choices other) := by
  intro v w h
  cases h with
  | @permute _ ms _ _ h =>
      obtain _ | ⟨m, _ | ⟨m', ms⟩⟩ := ms
      · exact .of_error _ _
      · rw [List.singleton_perm.mp h]
        exact .refl _
      · exact .of_error _ _
  | extend h => cases h
  | @member _ before after key v w h =>
      obtain _ | ⟨m, _ | ⟨m', before⟩⟩ := before
      · cases after with
        | nil =>
            rw [List.nil_append, List.nil_append, choice_object, choice_object]
            cases (choices.lookup key).or other with
            | none => exact .of_error _ _
            | some a => exact .bind (nothing v w h) fun _ _ => .refl _
        | cons m after => exact .of_error _ _
      · exact .of_error _ _
      · exact .of_error _ _
  | item => exact .of_error _ _

theorem record {f : Fields Value α} {inner : List (String × Place)}
    (h : f.Respects (Altered inner)) (name : String) :
    (Place.record f.keys inner).Reads (f.read name) :=
  fun _ _ hvw => h.read name (hvw.matched rfl)

theorem tag (form : TagForm) : p.Reads form.read :=
  of_simple (fun _ => by cases form <;> exact ⟨_, rfl⟩) fun _ => by cases form <;> exact ⟨_, rfl⟩

theorem altered {inner : List (String × Place)} {key : String}
    (hread : (field inner key).Reads read) {v w : Value} (h : Altered inner key v w) :
    Kept (read v) (read w) := by
  rcases h with rfl | h
  · exact .refl _
  · exact hread v w h

theorem tagged {form : TagForm} {key : String} {keys : Tag → List String}
    {inner : List (String × Place)} {g : Tag × Body Value → Decoded α}
    (hg : ∀ t b b', MatchedValues (Altered inner) (keys t) b.value b'.value →
      Kept (g (t, b)) (g (t, b'))) (name : String) :
    (Place.tagged key keys inner).Reads fun v => untag form key name v >>= g := by
  intro v w h
  refine .bind_exists fun (t, body) hv => ?_
  have hmatched := h.matched rfl
  cases hmatched with
  | @object ms ms' hm =>
      have htag : tag? key (.object ms) = some t := by
        simpa using tag?_of_untagMembers hv
      rw [htag] at hm
      obtain ⟨rest, rest', rfl, hw, hrest⟩ := hm.untag (fun _ _ => altered (.tag form)) hv
      exact ⟨_, hw, hg t _ _ (.object hrest)⟩
  | @array vs ws hm =>
      obtain _ | ⟨u, vs⟩ := vs
      · cases hv
      obtain _ | ⟨u', ws⟩ := ws
      · cases hm.length_eq
      obtain ⟨hu, rfl⟩ := (untagItems_cons_eq_ok_iff key).mp hv
      have htag : tag? key (.array (u :: vs)) = some t := by
        rw [tag?, TagForm.read_nameOrIndex hu]
        rfl
      rw [htag] at hm
      have hu' := altered (.tag form) hm.head t hu
      exact ⟨(t, .items ws), (untagItems_cons_eq_ok_iff key).mpr ⟨hu', rfl⟩,
        hg t (.items vs) (.items ws) (.array hm.tail)⟩

end Reads

end Place

end Handoff
