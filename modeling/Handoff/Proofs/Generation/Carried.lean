import Handoff.Proofs.Generation.Elements
import Handoff.Proofs.Generation.Presence
import Handoff.Proofs.Styled.Shown
import Handoff.Proofs.Styling.Texts

/-!
# Classes of rules and overlays

Rules and overlays speak of nodes, whatever these are shown as.  A page has the classes of rules in
the `class` of each element; a component has them in the class list of each element that is no
drawing, behind those of the overlays.

* `StyledData.overlay?`      the overlay of a node for a width;
* `overlayClasses`           what a declaration of an overlay becomes;
* `mem_responsiveClasses`    the classes of all overlays of a node are these;
* `Request.Carries`          a class list has the classes of the rules and overlays of a node;
* `carries_elementClasses`   that of its element has;
* `classes_carried`          the classes in the code of a request.
-/

namespace Handoff
open StyledNode React.Renderer

/-- the overlay of a node for a width -/
def StyledData.overlay? (n : StyledData) : Width → Option Styles
  | .mobile => none
  | .tablet => n.responsive.bind fun o => o.md
  | .desktop => n.responsive.bind fun o => o.lg

/-- whether a declaration is an automatic width beside growth, which then decides on the width -/
def Styles.isOpenWidth (s : Styles) (d : Declaration) : Bool :=
  d.1 = "width" && d.2.show = "auto" && s.is "flex-grow" "1"

/-- the classes that a declaration of an overlay becomes -/
def overlayClasses (w : Width) (s : Styles) (d : Declaration) : List String :=
  if s.isOpenWidth d then [w.variant ++ "basis-0"]
  else (Utility.classesOf d.1 d.2.show).map (w.variant ++ ·)

/-- a class that is written for an overlay -/
def StyledData.IsOverlaid (n : StyledData) (cls : String) : Prop :=
  ∃ w s, n.overlay? w = some s ∧ ∃ d ∈ s.entries, cls ∈ overlayClasses w s d

theorem mem_widthClasses (w : Width) {width : String} (variant : width ++ ":" = w.variant)
    (s : Styles) (cls : String) :
    cls ∈ widthClasses width s ↔ ∃ d ∈ s.entries, cls ∈ overlayClasses w s d := by
  have growth : width ++ ":basis-0" = w.variant ++ "basis-0" := by
    rw [← variant, String.append_assoc]
    rfl
  unfold widthClasses overlayClasses Styles.isOpenWidth
  simp only [List.mem_flatMap, growth, variant]

/-- the classes of overlays are those of their declarations -/
theorem mem_responsiveClasses {n : StyledData} {cls : String} :
    cls ∈ responsiveClasses n ↔ n.IsOverlaid cls := by
  have tablet (s : Styles) := mem_widthClasses .tablet (by rfl : "md" ++ ":" = _) s cls
  have desktop (s : Styles) := mem_widthClasses .desktop (by rfl : "lg" ++ ":" = _) s cls
  have given (o : Option Styles) (width : String) :
      cls ∈ (o.map (widthClasses width)).getD [] ↔ ∃ s, o = some s ∧ cls ∈ widthClasses width s := by
    cases o <;> simp
  have widths : cls ∈ responsiveClasses n ↔
      (∃ s, n.overlay? .tablet = some s ∧ cls ∈ widthClasses "md" s) ∨
      ∃ s, n.overlay? .desktop = some s ∧ cls ∈ widthClasses "lg" s := by
    unfold responsiveClasses StyledData.overlay?
    cases n.responsive with
    | none => simp
    | some o => exact List.mem_append.trans (or_congr (given o.md "md") (given o.lg "lg"))
  rw [widths]
  simp only [tablet, desktop]
  constructor
  · rintro (⟨s, h, mem⟩ | ⟨s, h, mem⟩)
    · exact ⟨.tablet, s, h, mem⟩
    · exact ⟨.desktop, s, h, mem⟩
  · rintro ⟨w, s, h, mem⟩
    cases w with
    | mobile => cases h
    | tablet => exact .inl ⟨s, h, mem⟩
    | desktop => exact .inr ⟨s, h, mem⟩

/-- whether an overlay ends the growth of a node -/
def StyledData.EndsGrowth (n : StyledData) : Prop :=
  ∃ cls, n.IsOverlaid cls ∧ Text.endsWith ":grow-0" cls = true

/-- an overlay without growth ends it -/
theorem endsGrowth_of_flexGrow {n : StyledData} {w : Width} {s : Styles}
    (h : n.overlay? w = some s) (zero : s.text? "flex-grow" = some "0") : n.EndsGrowth := by
  obtain ⟨v, hv, shown⟩ := Option.map_eq_some_iff.mp zero
  have becomes : overlayClasses w s ("flex-grow", v) = [w.variant ++ "grow-0"] := by
    have plain : s.isOpenWidth ("flex-grow", v) = false := rfl
    have reset : Utility.classesOf "flex-grow" "0" = ["grow-0"] := by decide
    rw [overlayClasses, plain, shown, reset]
    rfl
  refine ⟨w.variant ++ "grow-0", ⟨w, s, h, _, Dict.mem_entries_iff.mpr hv, ?_⟩, ?_⟩
  · exact becomes ▸ List.mem_singleton_self _
  · cases w with
    | mobile => cases h
    | tablet => decide
    | desktop => decide

namespace Request

/-- a class list has the classes of the rules and of the overlays of a node -/
structure Carries (r : Request) (n : StyledData) (classes : List String) : Prop where
  /-- each class that rules give to the node, but for those of growth where overlays end it -/
  rules : ∀ cls ∈ r.ruleClassNames n, cls ∈ classes ∨ n.EndsGrowth ∧ isGrowth cls = true
  /-- each class of each declaration of each overlay -/
  overlays : ∀ w s, n.overlay? w = some s → ∀ d ∈ s.entries, ∀ cls ∈ overlayClasses w s d,
    cls ∈ classes

theorem Carries.append {r : Request} {n : StyledData} {classes : List String}
    (h : r.Carries n classes) (more : List String) : r.Carries n (classes ++ more) where
  rules cls hcls := (h.rules cls hcls).imp_left (List.mem_append_left _)
  overlays w s hs d hd cls hcls := List.mem_append_left _ (h.overlays w s hs d hd cls hcls)

end Request

namespace React.Renderer
variable (c : Renderer)

/-- the class list of an element has the classes of the rules and of the overlays of its node -/
theorem carries_elementClasses (overlap : Option Overlap) (n : StyledNode) (styles : Styles) :
    c.request.Carries n.toStyledData (c.elementClasses overlap n styles) := by
  unfold elementClasses
  constructor
  · intro cls hcls
    unfold Request.ruleClassNames at hcls
    cases rules : c.request.ruleClasses n.toStyledData with
    | none => rw [rules] at hcls; cases hcls
    | some text =>
      rw [rules] at hcls
      cases dropped : (responsiveClasses n.toStyledData).any (Text.endsWith ":grow-0")
          && isGrowth cls with
      | true =>
        obtain ⟨ends, growth⟩ := Bool.and_eq_true_iff.mp dropped
        obtain ⟨reset, overlaid, suffix⟩ := List.any_eq_true.mp ends
        exact .inr ⟨⟨reset, mem_responsiveClasses.mp overlaid, suffix⟩, growth⟩
      | false =>
        refine .inl (List.mem_append_right _ (List.mem_filter.mpr ⟨hcls, ?_⟩))
        rw [dropped]
        rfl
  · intro w s hs d hd cls hcls
    have overlaid : cls ∈ responsiveClasses n.toStyledData :=
      mem_responsiveClasses.mpr ⟨w, s, hs, d, hd, hcls⟩
    exact List.mem_append_left _ (List.mem_append_left _ (List.mem_append_right _ overlaid))

end React.Renderer

namespace Html.Page

/-- every element of a page has the class of its node, with those of rules, and its data -/
theorem attributes_nodeElement (p : Page) (n : StyledNode) (es : List Element) : ∃ rest,
    (p.nodeElement n es).attributes
      = p.classMarkup n.toStyledData :: dataMarkup n.toStyledData ++ rest := by
  unfold nodeElement
  cases form n with
  | drawing => exact ⟨_, rfl⟩
  | image ref => exact ⟨_, rfl⟩
  | text => exact ⟨[], (List.append_nil _).symm⟩
  | box layered =>
    refine ⟨[], ?_⟩
    rw [List.append_nil]
    cases layered with
    | true => rfl
    | false =>
      dsimp only
      split <;> rfl

end Html.Page

namespace Request

/-- **Classes of rules and overlays are carried.**  In generated code, for every tree, framework,
rules, options and assets, there is one element for each node that is written.

* In a page its `class` has the class of the node and all classes that rules give to it, whatever
  the node is.
* In a component the class list of an element that is no drawing has all classes that rules give to
  its node, but for those of growth where an overlay ends it, and all classes of each declaration of
  its overlays.  An automatic width in an overlay that grows has `basis-0` for its class.

Where the tree was made from a well-formed design, the nodes that are written are those that are
rendered, with nothing above them that is hidden or a drawing. -/
theorem classes_carried (r : Request) (assets : Assets) :
    List.Forall₂ (fun n e =>
        (r.framework = .htmlCss → ∃ rest, e.attributes =
          ⟨"class", .verbatim (String.intercalate " "
            (Html.className n.toStyledData :: r.ruleClassNames n.toStyledData))⟩
              :: dataMarkup n.toStyledData ++ rest) ∧
        (r.framework ≠ .htmlCss → n.isDrawn = false → ∃ classes rest,
          e.attributes = dataMarkup n.toStyledData
            ++ (React.renderer r assets).classMarkup classes ++ rest ∧
          r.Carries n.toStyledData classes))
      r.root.written (nodeElements (r.rootElement? assets).toList) ∧
    ∀ (s : Session) (design : DesignNode), design.WellFormed → s.Yields design r.root →
      r.root.written = r.root.shown := by
  constructor
  · refine (r.makes_rootElement? assets).imp fun n e made => ⟨?_, ?_⟩
    · intro html
      unfold Makes at made
      rw [html] at made
      obtain rfl := made
      exact Html.Page.attributes_nodeElement ⟨r, assets⟩ n _
    · intro component plain
      obtain ⟨overlap, rfl⟩ := (made.of_react component).exists_overlap _ plain
      obtain ⟨fit, rest, -, attributes⟩ :=
        (React.renderer r assets).attributes_nodeElement overlap n _
      exact ⟨_, rest, attributes,
        ((React.renderer r assets).carries_elementClasses overlap n _).append fit⟩
  · intro s design proper yields
    have labels := Styling.textsAreLabels_of_yields proper yields
    exact (written_eq_emitted r.root fun m hm text => (labels m hm text).leaf).trans
      (shown_eq_emitted r.root).symm

/-- a card with a title, a photo and an icon, to all of which a rule gives a shadow, and overlays
the middle for their texts -/
theorem classes_carried_card :
    let title : DesignNode := ⟨{
      id := "2", name := "Title", kind := .text, payload := .text "Hello" {} {} }, []⟩
    let photo : DesignNode := ⟨{
      id := "3", name := "Photo", kind := .rectangle
      payload := .shape { fills := [{ fill := .image { imageRef := some "ref" } }] } {} {} }, []⟩
    let icon : DesignNode := ⟨{
      id := "4", name := "Icon", kind := .vector, payload := .vector {} {} }, []⟩
    let card : DesignNode := ⟨{
      id := "1", name := "Card", kind := .frame, payload := .container {} }, [title, photo, icon]⟩
    let rule : Rule := { id := "shadow", properties := Dict.set ∅ "className" (.text "shadow") }
    let centered : Overlay := { styles := { md := some (Dict.set ∅ "text-align" (.text "center")) } }
    let overlays : Overlays :=
      Dict.ofList [("1", centered), ("2", centered), ("3", centered), ("4", centered)]
    card.WellFormed ∧ ∃ tree, (({} : Session).style card).1 = some tree ∧
      ((overlays.apply tree).shown.map fun n => (n.id, n.isDrawn))
        = [("1", false), ("2", false), ("3", false), ("4", true)] ∧
      ∀ framework, let r : Request := { root := overlays.apply tree, framework, rules := [rule] }
        List.Forall₂ (fun n e =>
            if framework = .htmlCss then
              ⟨"class", .verbatim (String.intercalate " " [Html.className n.toStyledData, "shadow"])⟩
                ∈ e.attributes
            else n.isDrawn = true ∨ ∃ classes rest, e.attributes = dataMarkup n.toStyledData
              ++ (React.renderer r {}).classMarkup classes ++ rest ∧
              "shadow" ∈ classes ∧ "md:text-center" ∈ classes)
          r.root.shown (nodeElements (r.rootElement? {}).toList) := by
  intro title photo icon card rule centered overlays
  have proper : card.WellFormed := by decide
  have styled : (({} : Session).style card).1.map (fun tree =>
      ((overlays.apply tree).shown.map fun n => (n.id, n.isDrawn),
        (overlays.apply tree).shown.all fun n => (n.overlay? .tablet).any fun s =>
          s.entries.any fun d => (overlayClasses .tablet s d).contains "md:text-center",
        (overlays.apply tree).shown.all fun n =>
          [Framework.reactTailwind, .reactTailwindV4, .htmlCss].all fun framework =>
            ({ root := tree, framework, rules := [rule] } : Request).ruleClassNames
              n.toStyledData == ["shadow"]))
      = some ([("1", false), ("2", false), ("3", false), ("4", true)], true, true) := by
    decide
  obtain ⟨tree, h, found⟩ := Option.map_eq_some_iff.mp styled
  simp only [Prod.mk.injEq, List.all_eq_true, Option.any_eq_true, List.any_eq_true,
    List.contains_iff_mem, beq_iff_eq] at found
  obtain ⟨kinds, overlaid, shadowed⟩ := found
  have yields : ({} : Session).Yields card (overlays.apply tree) := .overlaid overlays (.styled h)
  refine ⟨proper, tree, h, kinds, fun framework => ?_⟩
  intro r
  obtain ⟨carried, shown⟩ := classes_carried r {}
  rw [shown {} card proper yields] at carried
  refine ((List.forall₂_and_left _ _).mpr ⟨fun _ hn => hn, carried⟩).imp ?_
  rintro n e ⟨there, page, component⟩
  have ruled : r.ruleClassNames n.toStyledData = ["shadow"] :=
    shadowed n there framework (by cases framework <;> decide)
  split
  · next html =>
    obtain ⟨rest, attributes⟩ := page html
    rw [attributes, ruled]
    exact List.mem_cons_self
  · next react =>
    refine or_iff_not_imp_left.mpr fun plain => ?_
    obtain ⟨classes, rest, attributes, carries⟩ :=
      component react (Bool.eq_false_iff.mpr plain)
    obtain ⟨s, hs, d, hd, centers⟩ := overlaid n there
    refine ⟨classes, rest, attributes, ?_, carries.overlays .tablet s hs d hd _ centers⟩
    have shadow := carries.rules "shadow" (ruled ▸ List.mem_singleton_self _)
    exact shadow.resolve_right fun dropped => absurd dropped.2 (by decide)

/-- a card to which a rule gives growth and a shadow, with an overlay that ends growth, and one that
grows and leaves the width open: the first leaves no class of growth, the second no class of width -/
theorem classes_of_growing_card :
    let card : DesignNode := ⟨{
      id := "1", name := "Card", kind := .frame, payload := .container {} }, []⟩
    let rule : Rule := { id := "grow", properties := Dict.set ∅ "className" (.text "grow shadow") }
    let overlays : Overlays := Dict.set ∅ "1" { styles := {
      md := some (Dict.set ∅ "flex-grow" (.text "0"))
      lg := some (Dict.ofList [("width", .text "auto"), ("flex-grow", .text "1")]) } }
    card.WellFormed ∧ ∃ tree, (({} : Session).style card).1 = some tree ∧
      let r : Request := {
        root := overlays.apply tree, framework := .reactTailwind, rules := [rule] }
      let c := React.renderer r {}
      (r.root.shown.map fun n => (n.isDrawn, r.ruleClassNames n.toStyledData,
          (n.overlay? .desktop).map fun s => s.entries.map fun d => Utility.classesOf d.1 d.2.show))
        = [(false, ["grow", "shadow"], some [["w-auto"], ["grow"]])] ∧
      (r.root.shown.map fun n => c.elementClasses none n (c.shownStyles n))
        = [["box-border", "relative", "shrink-0", "md:grow-0", "lg:basis-0", "lg:grow", "shadow"]] ∧
      (nodeElements (r.rootElement? {}).toList).map Element.className?
        = [some "box-border relative shrink-0 md:grow-0 lg:basis-0 lg:grow shadow"] := by
  intro card rule overlays
  refine ⟨by decide, (({} : Session).style card).1.get (by decide),
    (Option.some_get _).symm, ?_, ?_, ?_⟩
  · decide
  · decide
  · decide +kernel

end Request
end Handoff
