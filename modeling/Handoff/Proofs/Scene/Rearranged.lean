import Handoff.Proofs.Scene.Places
import Mathlib.Logic.Relation

/-!
# Rearranged scenes

The node that a value describes does not depend on the order of the members of its objects, nor on
members that nothing reads where they stand, at whatever depth they are.  Only the properties of an
instance keep their order.

* `reads_paint`, `reads_effect`, `reads_segment`, `reads_properties`: each of these is read the same
  after a change.
* `kept_read`: a node is read the same after a change, at any depth.
* `Node.ofValue_rearranged`: and after any number of changes.

Nothing is assumed of repeated members.  One that is known where it stands is an error, and the
others are not read.
-/

namespace Handoff
open Json
open Json.Fields (Respects)

namespace Place

variable {α : Type} {p : Place}

/-! ### Simple values -/

theorem reads_text : p.Reads Value.text :=
  .of_simple (fun _ => ⟨_, rfl⟩) fun _ => ⟨_, rfl⟩

theorem reads_flag : p.Reads Value.flag :=
  .of_simple (fun _ => ⟨_, rfl⟩) fun _ => ⟨_, rfl⟩

theorem reads_double : p.Reads Value.double :=
  .of_simple (fun _ => ⟨_, rfl⟩) fun _ => ⟨_, rfl⟩

theorem reads_count : p.Reads Value.count :=
  .of_simple (fun _ => ⟨_, rfl⟩) fun _ => ⟨_, rfl⟩

theorem reads_propertyValue : p.Reads PropertyValue.ofValue :=
  .of_simple (fun _ => ⟨_, rfl⟩) fun _ => ⟨_, rfl⟩

section
variable {inner : List (String × Place)} {key : String} {read : Value → Decoded α}

theorem respects_required (h : (field inner key).Reads read) :
    (Fields.required key read).Respects (Altered inner) :=
  .required fun _ _ => h.altered

theorem respects_optional {default : α} (h : (field inner key).Reads read) :
    (Fields.optional key read default).Respects (Altered inner) :=
  .optional fun _ _ => h.altered

theorem respects_mixed (h : (field inner key).Reads read) :
    (mixedField key read).Respects (Altered inner) :=
  respects_optional h.mixed

theorem respects_optionalDouble : (optionalDouble key).Respects (Altered inner) :=
  respects_optional reads_double.orNull

end

/-! ### Paints and effects -/

theorem reads_rgb : rgb.Reads (Rgb.fields.read "Rgb") := by
  refine .record ?_ _
  unfold Rgb.fields
  apply_rules [Respects.pure, Respects.seq, respects_required, reads_double]

theorem reads_rgba : rgba.Reads (Rgba.fields.read "Rgba") := by
  refine .record ?_ _
  unfold Rgba.fields
  apply_rules [Respects.pure, Respects.seq, respects_required, respects_optional, reads_double]

theorem reads_point : point.Reads (Point.fields.read "Vector") := by
  refine .record ?_ _
  unfold Point.fields
  apply_rules [Respects.pure, Respects.seq, respects_required, reads_double]

theorem reads_reference :
    (Place.record tokenReference.keys []).Reads (tokenReference.read "VariableAlias") :=
  .record (respects_required reads_text) _

theorem reads_bindings : bindings.Reads (boundToken.read "BoundVariables") := by
  refine .record (respects_optional ?_) _
  exact .orNull reads_reference

theorem respects_solidPaint :
    SolidPaint.fields.Respects (Altered [("color", rgb), ("boundVariables", bindings)]) := by
  unfold SolidPaint.fields
  apply_rules [Respects.pure, Respects.seq, respects_required, respects_optional, reads_double,
    reads_flag, reads_rgb, reads_bindings, Reads.map, Reads.orNull]

theorem respects_shadow :
    Shadow.fields.Respects (Altered [("color", rgba), ("offset", point)]) := by
  unfold Shadow.fields
  apply_rules [Respects.pure, Respects.seq, respects_required, respects_optional, reads_double,
    reads_rgba, reads_point]

/-- A tagged value of which one shape matters. -/
theorem reads_oneShape {β : Type} {form : TagForm} {key name record : String}
    {shapes : List (String × Bool)} {f : Fields Value α} {inner : List (String × Place)}
    (hf : f.Respects (Altered inner)) (wrap : α → β) (other : β) :
    (Place.tagged key (fun t => if t.find? shapes = some true then f.keys else []) inner).Reads
      fun v => do
        let (tag, body) ← untag form key name v
        match tag.find? shapes with
        | some true => return wrap (← f.read record body.value)
        | _ =>
          body.ignore
          return other := by
  refine .tagged (fun t b b' h => ?_) _
  dsimp only
  split at h
  next hshape =>
    rw [hshape]
    exact .bind (hf.read _ h) fun _ _ => .refl _
  next hother =>
    split
    next hshape => exact absurd hshape hother
    next => exact .bind (kept_ignore h) fun _ _ => .refl _

theorem reads_paint (form : TagForm) : paint.Reads (Paint.ofValue form) :=
  reads_oneShape respects_solidPaint Paint.solid Paint.other

theorem reads_effect : effect.Reads Effect.ofValue :=
  reads_oneShape respects_shadow Effect.dropShadow Effect.other

/-! ### Text -/

theorem respects_measure : measure.Respects (Altered []) :=
  respects_required reads_double

theorem reads_lineHeight : lineHeight.Reads LineHeight.ofValue := by
  refine .tagged (fun t b b' h => ?_) _
  refine .bind (.refl _) fun i hi => ?_
  rw [Tag.find?_of_known hi] at h
  split
  next => exact .bind (kept_ignore h) fun _ _ => .refl _
  next => exact .bind (respects_measure.read _ h) fun _ _ => .refl _
  next hauto _ =>
    rw [if_neg fun hi => hauto (Option.some.inj hi)] at h
    exact .bind (respects_measure.read _ h) fun _ _ => .refl _

theorem reads_letterSpacing : letterSpacing.Reads LetterSpacing.ofValue := by
  refine .tagged (fun t b b' h => ?_) _
  refine .bind (.refl _) fun i hi => ?_
  split
  · exact .bind (respects_measure.read _ h) fun _ _ => .refl _
  · exact .bind (respects_measure.read _ h) fun _ _ => .refl _

theorem reads_segment : segment.Reads (TextSegment.fields.read "TextSegment") := by
  refine .record ?_ _
  unfold TextSegment.fields
  apply_rules [Respects.pure, Respects.seq]
  all_goals apply_rules [respects_required, respects_optionalDouble, respects_optional,
    reads_count, reads_lineHeight, reads_letterSpacing, Reads.orNull]

/-! ### Properties -/

theorem reads_property : property.Reads (propertyFields.read "ComponentProperty") :=
  .record (respects_required reads_propertyValue) _

theorem reads_properties : (Place.map property).Reads Properties.ofValue := by
  intro v w h
  cases h with
  | permute hp => exact absurd rfl (hp property)
  | extend h => cases h
  | @member _ before after key v w h =>
      have hentry : Kept (propertyFields.read "ComponentProperty" v)
          (propertyFields.read "ComponentProperty" w) := reads_property v w h
      refine .bind (.mapM ?_ before after) fun _ _ => .refl _
      exact .bind hentry fun _ _ => .refl _
  | item => exact .of_error _ _

/-! ### Groups of attributes -/

theorem respects_layer : Layer.fields.Respects (Altered nodeInner) := by
  unfold Layer.fields
  apply_rules [Respects.pure, Respects.seq, respects_required, respects_optional, reads_text,
    reads_flag, reads_double, Reads.listOf, reads_paint, reads_effect]

theorem respects_strokeWeights : StrokeWeights.fields.Respects (Altered nodeInner) := by
  unfold StrokeWeights.fields
  apply_rules [Respects.pure, Respects.seq, respects_mixed, respects_optionalDouble, reads_double]

theorem respects_cornerRadii : CornerRadii.fields.Respects (Altered nodeInner) := by
  unfold CornerRadii.fields
  apply_rules [Respects.pure, Respects.seq, respects_mixed, respects_optionalDouble, reads_double]

theorem respects_autoLayout : AutoLayout.fields.Respects (Altered nodeInner) := by
  unfold AutoLayout.fields
  apply_rules [Respects.pure, Respects.seq]
  all_goals apply_rules [respects_optionalDouble, respects_optional, reads_double, Reads.choice]

theorem respects_textContent : TextContent.fields.Respects (Altered nodeInner) := by
  unfold TextContent.fields
  apply_rules [Respects.pure, Respects.seq]
  all_goals apply_rules [respects_mixed, respects_optional, reads_text, reads_double,
    reads_lineHeight, reads_letterSpacing, Reads.choice, Reads.listOf, reads_segment]

end Place

/-! ### Nodes -/

section Nodes

open Place

variable {ms ms' : List (String × Value)}

theorem kept_outline (h : Matched (Altered nodeInner) Outline.keys ms ms') :
    Kept (Outline.ofMembers ms) (Outline.ofMembers ms') := by
  have hstroke := h.subset (List.subset_append_left _ CornerRadii.fields.keys)
  have hcorner := h.subset (List.subset_append_right StrokeWeights.fields.keys _)
  exact .bind (respects_strokeWeights.ofMembers hstroke) fun _ _ =>
    .bind (respects_cornerRadii.ofMembers hcorner) fun _ _ => .refl _

theorem kept_box (h : Matched (Altered nodeInner) Box.keys ms ms') :
    Kept (Box.ofMembers ms) (Box.ofMembers ms') := by
  have hclips : Matched (Altered nodeInner) ["clipsContent"] ms ms' :=
    h.subset (List.subset_append_left _ (Outline.keys ++ AutoLayout.fields.keys))
  have hgroups := h.subset (List.subset_cons_self "clipsContent" _)
  have houtline := hgroups.subset (List.subset_append_left _ AutoLayout.fields.keys)
  have hlayout := hgroups.subset (List.subset_append_right Outline.keys _)
  exact .bind ((respects_optional reads_flag).ofMembers hclips) fun _ _ =>
    .bind (kept_outline houtline) fun _ _ =>
      .bind (respects_autoLayout.ofMembers hlayout) fun _ _ => .refl _

/-- Members of a node that are the same up to a change, with the same nodes where they list
nodes. -/
def SameMember (key : String) (m m' : NodeMember) : Prop :=
  Altered nodeInner key m.1 m'.1 ∧ (field nodeInner key = .list .node → Kept m.2 m'.2)

theorem respects_nodesField {key : String} (h : field nodeInner key = .list .node) :
    (nodesField key).Respects SameMember :=
  .optional fun _ _ hm => hm.2 h

theorem kept_ofMembers (kind : NodeKind) {ms ms' : List (String × NodeMember)}
    (h : Matched SameMember kind.keys ms ms') :
    Kept (Node.ofMembers ms kind) (Node.ofMembers ms' kind) := by
  have hvalues : Matched (Altered nodeInner) kind.keys (Node.ofMembers.values ms)
      (Node.ofMembers.values ms') :=
    h.map fun _ _ _ _ hm => hm.1
  have hlayer (hkind : Layer.fields.keys ⊆ kind.keys) :=
    respects_layer.ofMembers (hvalues.subset hkind)
  have hbox (hkind : Box.keys ⊆ kind.keys) := kept_box (hvalues.subset hkind)
  have hchildren (hkind : ["children"] ⊆ kind.keys) :
      Kept ((nodesField "children").ofMembers ms) ((nodesField "children").ofMembers ms') :=
    (respects_nodesField rfl).ofMembers (h.subset hkind)
  cases kind with
  | frame role =>
      exact .bind (hchildren (by simp [NodeKind.keys])) fun _ _ =>
        .bind (hlayer fun _ hk => by simp [NodeKind.keys, hk]) fun _ _ =>
          .bind (hbox fun _ hk => by simp [NodeKind.keys, hk]) fun _ _ => .refl _
  | inst =>
      have hown : ["componentProperties", "children", "exposedInstances"] ⊆ NodeKind.inst.keys := by
        simp [NodeKind.keys]
      refine .bind (Respects.ofMembers ?_ (h.subset hown)) fun _ _ =>
        .bind (hlayer fun _ hk => by simp [NodeKind.keys, hk]) fun _ _ =>
          .bind (hbox fun _ hk => by simp [NodeKind.keys, hk]) fun _ _ => .refl _
      have hproperties : Respects (.optional "componentProperties"
          (fun m : NodeMember => Properties.ofValue m.1) []) SameMember :=
        .optional fun _ _ hm =>
          have hreads : (field nodeInner "componentProperties").Reads Properties.ofValue :=
            reads_properties
          hreads.altered hm.1
      exact .seq (.seq (.seq (.pure _) hproperties) (respects_nodesField rfl))
        (respects_nodesField rfl)
  | group =>
      exact .bind (hchildren (by simp [NodeKind.keys])) fun _ _ =>
        .bind (hlayer fun _ hk => by simp [NodeKind.keys, hk]) fun _ _ => .refl _
  | text =>
      have hcontent := respects_textContent.ofMembers
        (hvalues.subset fun _ hk => by simp [NodeKind.keys, hk])
      exact .bind hcontent fun _ _ =>
        .bind (hlayer fun _ hk => by simp [NodeKind.keys, hk]) fun _ _ => .refl _
  | shape form =>
      have houtline := kept_outline (hvalues.subset fun _ hk => by simp [NodeKind.keys, hk])
      exact .bind (hlayer fun _ hk => by simp [NodeKind.keys, hk]) fun _ _ =>
        .bind houtline fun _ _ => .refl _
  | unsupported => exact .refl _

theorem ofBody_members (t : Tag) (ms : List (String × NodeMember)) :
    Node.ofBody t (.members ms) = Node.ofMembers ms (NodeKind.ofTag t) := by
  unfold Node.ofBody NodeKind.ofTag
  cases (t.find? nodeKinds).getD .unsupported <;> rfl

theorem kept_ofBody_items (t : Tag) {vs ws : List Value} (h : vs.length = ws.length) :
    Kept (Node.ofBody t (.items vs)) (Node.ofBody t (.items ws)) := by
  unfold Node.ofBody
  cases (t.find? nodeKinds).getD .unsupported with
  | unsupported => exact .bind (kept_ignore_items h) fun _ _ => .refl _
  | _ => exact .of_error _ _

theorem readNodes_eq_mapM (vs : List Value) : readNodes vs = vs.mapM (Node.read .nameOrIndex) := by
  induction vs with
  | nil => rfl
  | cons v vs ih => rw [readNodes, List.mapM_cons, ih]

/-- A member with the nodes that it lists. -/
def nodeMember (v : Value) : NodeMember :=
  (v, readListed v)

theorem readMembers_eq_map (ms : List (String × Value)) :
    readMembers ms = ms.map fun m => (m.1, nodeMember m.2) := by
  induction ms with
  | nil => rw [readMembers, List.map_nil]
  | cons m ms ih => rw [readMembers, List.map_cons, ih, nodeMember]

theorem kept_readListed {v w : Value} (h : Change (.list .node) v w)
    (hnode : ∀ x y, sizeOf x < sizeOf v → Change .node x y →
      Kept (Node.read .nameOrIndex x) (Node.read .nameOrIndex y)) :
    Kept (readListed v) (readListed w) := by
  cases h with
  | @item _ before after x y h =>
      rw [readListed, readListed, readNodes_eq_mapM, readNodes_eq_mapM]
      refine .mapM (hnode x y ?_ h) before after
      have hsize : sizeOf x < sizeOf (before ++ x :: after) :=
        List.sizeOf_lt_of_mem (List.mem_append_right _ List.mem_cons_self)
      simp only [Value.array.sizeOf_spec]
      omega
  | _ =>
      simp only [readListed]
      exact .of_error _ _

theorem matched_readMembers {keys : List String}
    (h : Matched (Altered nodeInner) keys ms ms')
    (hlisted : ∀ key v w, (key, v) ∈ ms → Change (.list .node) v w →
      Kept (readListed v) (readListed w)) :
    Matched SameMember keys (readMembers ms) (readMembers ms') := by
  rw [readMembers_eq_map, readMembers_eq_map]
  refine h.map fun key v w hv hvw => ⟨hvw, fun hkey => ?_⟩
  rcases hvw with rfl | hvw
  · exact .refl _
  · exact hlisted key v w (mem_of_mem_held hv) (hkey ▸ hvw)

theorem tag?_of_readMembers {form : TagForm} {t : Tag} {body : Body NodeMember}
    (h : untagMembers form "type" (·.1) (readMembers ms) = .ok (t, body)) :
    tag? "type" (.object ms) = some t := by
  have htag := tag?_of_untagMembers h
  rw [readMembers_eq_map, List.map_map] at htag
  simpa [nodeMember, Function.comp_def] using htag

/-- A change of a node keeps what is read. -/
theorem kept_read {v w : Value} (h : Change .node v w) (form : TagForm) :
    Kept (Node.read form v) (Node.read form w) := by
  -- By induction on the size of the value: a change inside a member that lists nodes is a change
  -- of one of these nodes.
  induction hn : sizeOf v using Nat.strongRecOn generalizing v w form with
  | ind n ih =>
      have hmatched := h.matched rfl
      cases hmatched with
      | @object ms ms' hm =>
          rw [Node.read, Node.read]
          refine .bind_exists fun (t, body) hv => ?_
          rw [tag?_of_readMembers hv] at hm
          have hmembers : Matched SameMember ("type" :: (NodeKind.ofTag t).keys) (readMembers ms)
              (readMembers ms') := by
            refine matched_readMembers hm fun key p q hp hpq =>
              kept_readListed hpq fun x y hx hxy => ih _ ?_ hxy _ rfl
            have hsize := List.sizeOf_lt_of_mem hp
            simp only [Prod.mk.sizeOf_spec, Value.object.sizeOf_spec] at hsize hn
            omega
          obtain ⟨rest, rest', rfl, hw, hrest⟩ :=
            hmembers.untag (fun _ _ hm => (Reads.tag form).altered hm.1) hv
          refine ⟨(t, .members rest'), hw, ?_⟩
          dsimp only
          rw [ofBody_members, ofBody_members]
          exact kept_ofMembers _ hrest
      | @array vs ws hm =>
          obtain _ | ⟨u, vs⟩ := vs
          · simp only [Node.read]
            exact .of_error _ _
          obtain _ | ⟨u', ws⟩ := ws
          · cases hm.length_eq
          rw [Node.read, Node.read]
          refine .bind_exists fun (t, body) hv => ?_
          obtain ⟨hu, rfl⟩ := (untagItems_cons_eq_ok_iff "type").mp hv
          have hu' := (Reads.tag form).altered hm.head t hu
          refine ⟨(t, .items ws), (untagItems_cons_eq_ok_iff "type").mpr ⟨hu', rfl⟩, ?_⟩
          exact kept_ofBody_items t (Nat.succ.inj hm.length_eq)

end Nodes

/-- What comes of a scene by changes that do not matter: members of objects are put in another
order, and members are added that are not known where they stand. -/
def Rearranged : Value → Value → Prop :=
  Relation.ReflTransGen (Change .node)

/-- **The order of members and members that are not known do not matter.**  A scene that is read as
a node is read as the same node however it is rearranged. -/
theorem Node.ofValue_rearranged {v w : Value} {n : Node} (h : Rearranged v w)
    (hv : Node.ofValue v = .ok n) : Node.ofValue w = .ok n := by
  induction h with
  | refl => exact hv
  | tail _ hstep ih => exact kept_read hstep .nameOnly n ih

/-- The members of a group with a fill around a node. -/
def groupMembers (fill child : Value) : List (String × Value) :=
  [("fills", .array [fill]), ("children", .array [child]), ("type", .string "GROUP"),
    ("id", .string "1:2"), ("name", .string "Sky"), ("x", .number (.integer 0)),
    ("y", .number (.integer 0)), ("width", .number (.integer 8)),
    ("height", .number (.integer 8))]

def fillMembers (colour : List (String × Value)) : List (String × Value) :=
  [("color", .object colour), ("type", .string "SOLID")]

def blueMembers : List (String × Value) :=
  [("r", .number (.integer 0)), ("g", .number (.integer 0)), ("b", .number (.integer 1))]

def starMembers : List (String × Value) :=
  [("type", .string "STAR")]

/-- The group with a blue fill around a star, which is of no supported kind. -/
def skyGroup : Node :=
  .group
    { id := "1:2", name := "Sky", visible := true, x := Float.ofInt 0, y := Float.ofInt 0,
      width := Float.ofInt 8, height := Float.ofInt 8, rotation := 0, opacity := 1,
      fills := [.solid ⟨⟨Float.ofInt 0, Float.ofInt 0, Float.ofInt 1⟩, true, 1, none⟩],
      strokes := [], effects := [] }
    [.unsupported]

theorem ofValue_rearranged_skyGroup :
    let scene := Value.object (groupMembers (.object (fillMembers blueMembers))
      (.object starMembers))
    let fill := Value.object (("blendMode", .string "NORMAL") :: fillMembers blueMembers.reverse)
    let star := Value.object (("pointCount", .number (.integer 5)) :: starMembers)
    let scene' := Value.object (("locked", .boolean true) :: (groupMembers fill star).reverse)
    Rearranged scene scene' ∧ Node.ofValue scene = .ok skyGroup ∧
      Node.ofValue scene' = .ok skyGroup := by
  intro scene fill star scene'
  have hfill {fill fill' : Value} (child : Value) (h : Change .paint fill fill') :
      Change .node (.object (groupMembers fill child)) (.object (groupMembers fill' child)) :=
    @Change.member .node [] _ "fills" _ _ (@Change.item _ [] [] _ _ h)
  have hchild (fill : Value) {child child' : Value} (h : Change .node child child') :
      Change .node (.object (groupMembers fill child)) (.object (groupMembers fill child')) :=
    @Change.member .node [("fills", .array [fill])] _ "children" _ _ (@Change.item _ [] [] _ _ h)
  have hcolour : Change .paint (.object (fillMembers blueMembers))
      (.object (fillMembers blueMembers.reverse)) :=
    @Change.member .paint [] _ "color" _ _ (.permute (by rintro _ ⟨⟩) (List.reverse_perm _).symm)
  have hblend : Change .paint (.object (fillMembers blueMembers.reverse)) fill := by
    refine .extend rfl ?_ _
    decide
  have hstar : Change .node (.object starMembers) star := by
    refine .extend rfl ?_ _
    decide
  have hgroup : Change .node (.object (groupMembers fill star))
      (.object (groupMembers fill star).reverse) :=
    .permute (by rintro _ ⟨⟩) (List.reverse_perm _).symm
  have hlocked : Change .node (.object (groupMembers fill star).reverse) scene' := by
    refine .extend rfl ?_ _
    decide
  have h : Rearranged scene scene' :=
    ((((Relation.ReflTransGen.single (hfill _ hcolour)).tail (hfill _ hblend)).tail
      (hchild _ hstar)).tail hgroup).tail hlocked
  have hscene : Node.ofValue scene = .ok skyGroup := rfl
  exact ⟨h, hscene, Node.ofValue_rearranged h hscene⟩

end Handoff
