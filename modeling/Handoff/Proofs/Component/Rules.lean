import Handoff.Component.Route

/-!
# The rules of pieces

What the rules of all routes have in common, whatever the layer.

* The first rule is the one that `Route.selector?` names (`Route.exists_rules_piece`); a route
  without a selector has no rules (`Route.rules_piece_eq_nil`).
* A group around a layer adds one rule (`Route.rules_piece`), which takes its origin off
  (`Style.inGroup_rem`).  No other rule is for what is in a group (`Route.selector_ne_of_mem`).
* No rule binds the origin of a group (`Route.not_bindsOrigin`).
-/

namespace Handoff
open Style (Rule)

/-! ### Declarations that leave origins alone -/

namespace Style

/-- Whether a property is one of the two that hold the origin of a group. -/
def isOrigin (property : String) : Bool :=
  property == groupLeft || property == groupTop

/-- Whether the rule binds the origin of a group. -/
def Rule.BindsOrigin (r : Rule) : Prop :=
  ∃ d ∈ r.declarations, isOrigin d.1

def LeavesOrigin (ds : List (String × String)) : Prop :=
  ∀ d ∈ ds, isOrigin d.1 = false

@[simp] theorem isOrigin_eq (property : String) :
    isOrigin property = (property == "--parentXpos" || property == "--parentYpos") := rfl

@[simp] theorem leavesOrigin_nil : LeavesOrigin [] :=
  List.forall_mem_nil _

@[simp] theorem leavesOrigin_cons {d : String × String} {ds : List (String × String)} :
    LeavesOrigin (d :: ds) ↔ isOrigin d.1 = false ∧ LeavesOrigin ds :=
  List.forall_mem_cons

@[simp] theorem leavesOrigin_append {ds es : List (String × String)} :
    LeavesOrigin (ds ++ es) ↔ LeavesOrigin ds ∧ LeavesOrigin es :=
  List.forall_mem_append

@[simp] theorem leavesOrigin_optional {property : String} {value : Option String} :
    LeavesOrigin (Rule.optional property value) ↔ (value.isSome → isOrigin property = false) := by
  cases value <;> simp [Rule.optional]

theorem Rule.not_bindsOrigin {r : Rule} (h : LeavesOrigin r.declarations) : ¬ r.BindsOrigin := by
  rintro ⟨d, hd, ho⟩
  rw [h d hd] at ho
  cases ho

theorem Rule.bindsOrigin_iff {r : Rule} :
    r.BindsOrigin ↔ ∃ d ∈ r.declarations, d.1 = "--parentXpos" ∨ d.1 = "--parentYpos" := by
  simp [BindsOrigin]

theorem bindsOrigin_groupOrigin (selector left top : String) :
    (groupOrigin selector left top).BindsOrigin :=
  ⟨(groupLeft, left), List.mem_cons_self, by simp [groupLeft]⟩

end Style

open Style (LeavesOrigin)

namespace Layer

@[simp] theorem leavesOrigin_appearance (l : Layer) : LeavesOrigin l.appearance := by
  simp [appearance]

@[simp] theorem leavesOrigin_place (s : Setting) (l : Layer) : LeavesOrigin (l.place s) := by
  simp [place]

@[simp] theorem leavesOrigin_size (s : Setting) (l : Layer) : LeavesOrigin (l.size s) := by
  simp [size]

@[simp] theorem leavesOrigin_border (s : Setting) (l : Layer) (width : String) :
    LeavesOrigin (l.border s width) := by
  simp [border]

@[simp] theorem leavesOrigin_inFrame {s : Setting} {l : Layer} {more : List (String × String)} :
    LeavesOrigin (l.inFrame s more).declarations ↔ LeavesOrigin more := by
  simp [inFrame]

/-- The rule for a layer in a group reads the origin, and binds nothing. -/
theorem leavesOrigin_inGroup {s : Setting} {l : Layer} {grouped : Bool} {r : Rule}
    (hr : r ∈ l.inGroup s grouped) : LeavesOrigin r.declarations := by
  rw [inGroup] at hr
  split at hr
  · rw [List.mem_singleton.mp hr]
    simp [Style.inGroup]
  · cases hr

end Layer

@[simp] theorem AutoLayout.leavesOrigin_flexbox (s : Setting) (a : AutoLayout) :
    LeavesOrigin (a.flexbox s) := by
  simp only [flexbox, Style.leavesOrigin_cons]
  split <;> simp

@[simp] theorem AutoLayout.leavesOrigin_limits (s : Setting) (a : AutoLayout) :
    LeavesOrigin (a.limits s) := by
  simp [limits]

@[simp] theorem TextContent.leavesOrigin_typography (s : Setting) (t : TextContent) :
    LeavesOrigin (t.typography s) := by
  simp [typography]

/-! ### Selectors -/

namespace Style

theorem classSelector_eq (cls : String) : classSelector cls = "." ++ cls := rfl

theorem childSelector_eq (parent cls : String) :
    childSelector parent cls = ":global(." ++ parent ++ " > ." ++ cls ++ ")" := rfl

/-- The rule that takes the origin of a group off, written out. -/
theorem inGroup_rem (cls : String) (base x y : Float) :
    inGroup cls (rem base x) (rem base y) = ⟨":global(.group-node > ." ++ cls ++ ")",
      [("left", "calc(" ++ number (x / base) ++ "rem - var(--parentXpos)) !important"),
        ("top", "calc(" ++ number (y / base) ++ "rem - var(--parentYpos)) !important")]⟩ := by
  simp [inGroup, childSelector, groupClass, groupLeft, groupTop, rem, ← String.toList_inj]

theorem childSelector_frameClass_ne (cls cls' : String) :
    childSelector frameClass cls ≠ childSelector groupClass cls' := by
  intro h
  have hchars := congrArg String.toList h
  simp only [childSelector_eq, String.toList_append, List.append_assoc,
    List.append_cancel_left_eq] at hchars
  have hhead := congrArg List.head? hchars
  simp [frameClass, groupClass] at hhead

theorem classSelector_append_ne (cls more parent cls' : String) :
    classSelector cls ++ more ≠ childSelector parent cls' := by
  intro h
  have hhead := congrArg (fun t => t.toList.head?) h
  simp [classSelector_eq, childSelector_eq] at hhead

theorem classSelector_ne (cls parent cls' : String) :
    classSelector cls ≠ childSelector parent cls' := by
  have h := classSelector_append_ne cls "" parent cls'
  rwa [String.append_empty] at h

/-- The selector of a radio group is shorter than that of the same class in a group. -/
theorem global_classSelector_ne (cls : String) :
    ":global(" ++ classSelector cls ++ ")" ≠ childSelector groupClass cls := by
  intro h
  have hlen := congrArg String.length h
  have hlit : ":global(".length = 8 ∧ ".".length = 1 ∧ ":global(.".length = 9 ∧
      groupClass.length = 10 ∧ " > .".length = 4 := by decide
  simp only [classSelector_eq, childSelector_eq, String.length_append] at hlen
  omega

end Style

theorem Container.selector_ne (c : Container) :
    c.selector ≠ Style.childSelector Style.groupClass c.layer.cls := by
  rw [selector]
  split
  · exact Style.global_classSelector_ne c.layer.cls
  · exact Style.classSelector_ne c.layer.cls Style.groupClass c.layer.cls

/-! ### The rules of a route -/

namespace Route

/-- The layer of a route that has a selector. -/
def styled? : Route → Option Layer
  | autolayout c => some c.layer
  | frame l _ | group l | text l _ | rectangle l _ | ellipse l _ | line l _ => some l
  | icon _ _ | widget _ | skip => none

theorem isSome_styled? (r : Route) : r.styled?.isSome = r.selector?.isSome := by
  cases r <;> rfl

/-- The selector of a node is that of its class, or that of its class inside of a widget. -/
theorem selector?_cases {r : Route} {selector : String} (h : r.selector? = some selector) :
    ∃ l, r.styled? = some l ∧
      (selector = l.selector ∨ selector = ":global(" ++ l.selector ++ ")") := by
  cases r with
  | icon | widget | skip => cases h
  | frame l | group l | text l | rectangle l | ellipse l | line l =>
      exact ⟨l, rfl, .inl (Option.some.inj h).symm⟩
  | autolayout c =>
      obtain rfl := Option.some.inj h
      refine ⟨c.layer, rfl, ?_⟩
      rw [Container.selector]
      split
      · exact .inr rfl
      · exact .inl rfl

/-- A group around a layer adds the rule that takes its origin off, and changes no other rule. -/
theorem rules_piece {r : Route} {l : Layer} (hl : r.styled? = some l) (s : Setting)
    (grouped : Bool) :
    (r.piece s grouped).rules = (r.piece s false).rules ++ l.inGroup s grouped := by
  cases r with
  | icon | widget | skip => cases hl
  | autolayout | frame | group | text | rectangle | ellipse | line =>
      obtain rfl := Option.some.inj hl
      rfl

theorem rules_piece_eq_nil {r : Route} (h : r.selector? = none) (s : Setting) (grouped : Bool) :
    (r.piece s grouped).rules = [] := by
  cases r with
  | icon | skip => rfl
  | widget i =>
      show (i.piece s).rules = []
      rw [WidgetInstance.piece]
      split <;> rfl
  | autolayout | frame | group | text | rectangle | ellipse | line => cases h

/-- The selector of a route is that of its first rule. -/
theorem exists_rules_piece {r : Route} {selector : String} (h : r.selector? = some selector)
    (s : Setting) (grouped : Bool) :
    ∃ ds more, (r.piece s grouped).rules = ⟨selector, ds⟩ :: more := by
  cases r with
  | icon | widget | skip => cases h
  | autolayout | frame | group | text | rectangle | ellipse | line =>
      obtain rfl := Option.some.inj h
      exact ⟨_, _, rfl⟩

theorem leavesOrigin_piece (s : Setting) (r : Route) :
    ∀ rule ∈ (r.piece s false).rules, LeavesOrigin rule.declarations := by
  cases r with
  | icon | skip => exact List.forall_mem_nil _
  | widget i =>
      rw [rules_piece_eq_nil rfl]
      exact List.forall_mem_nil _
  | autolayout c => simp [piece, Container.piece, Container.rules, Layer.inGroup, Box.overflow]
  | frame l b => simp [piece, framePiece, Layer.inGroup, Box.overflow]
  | group l => simp [piece, groupPiece, Layer.inGroup]
  | text l t => simp [piece, textPiece, Layer.inGroup]
  | rectangle l o => simp [piece, rectanglePiece, shapePiece, Layer.inGroup]
  | ellipse l o => simp [piece, ellipsePiece, shapePiece, Layer.inGroup]
  | line l o => simp [piece, linePiece, shapePiece, Layer.inGroup]

/-- Only the assembly of a group binds its origin, never the piece of a node in it. -/
theorem not_bindsOrigin {s : Setting} {grouped : Bool} {r : Route} {rule : Rule}
    (h : rule ∈ (r.piece s grouped).rules) : ¬ rule.BindsOrigin := by
  cases hl : r.styled? with
  | none =>
      have hnone : r.selector? = none := by
        rw [← Option.not_isSome_iff_eq_none, ← isSome_styled?, hl]
        exact Bool.false_ne_true
      rw [rules_piece_eq_nil hnone] at h
      cases h
  | some l =>
      rw [rules_piece hl, List.mem_append] at h
      rcases h with h | h
      · exact Rule.not_bindsOrigin (leavesOrigin_piece s r rule h)
      · exact Rule.not_bindsOrigin (Layer.leavesOrigin_inGroup h)

/-- The rules of a layer that is in no group are for no child of a group. -/
theorem selector_ne_of_mem {s : Setting} {r : Route} {l : Layer} (hl : r.styled? = some l) :
    ∀ rule ∈ (r.piece s false).rules,
      rule.selector ≠ Style.childSelector Style.groupClass l.cls := by
  have hclass (l : Layer) : l.selector ≠ Style.childSelector Style.groupClass l.cls :=
    Style.classSelector_ne l.cls Style.groupClass l.cls
  have hinner (l : Layer) : l.selector ++ " > *" ≠ Style.childSelector Style.groupClass l.cls :=
    Style.classSelector_append_ne l.cls " > *" Style.groupClass l.cls
  have hframe (l : Layer) (more : List (String × String)) :
      (l.inFrame s more).selector ≠ Style.childSelector Style.groupClass l.cls :=
    Style.childSelector_frameClass_ne l.cls l.cls
  cases r with
  | icon | widget | skip => cases hl
  | autolayout c =>
      obtain rfl := Option.some.inj hl
      simp [piece, Container.piece, Container.rules, Layer.inGroup, hframe, c.selector_ne]
  | frame | group =>
      obtain rfl := Option.some.inj hl
      simp [piece, framePiece, groupPiece, Layer.inGroup, hclass, hinner, hframe]
  | text | rectangle | ellipse | line =>
      obtain rfl := Option.some.inj hl
      simp [piece, textPiece, rectanglePiece, ellipsePiece, linePiece, shapePiece, Layer.inGroup,
        hclass]

end Route

end Handoff
