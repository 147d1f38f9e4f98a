import Handoff.Proofs.ClassList.Margins
import Handoff.Proofs.Generation.Layers
import Handoff.Proofs.Generation.Placement
import Handoff.Proofs.Html.Stylesheet

/-!
# Children that overlap

Spacing below zero becomes a margin of every child of a box but the last.  A page writes this margin
into the rule of the child.  A component has it as a class, and drawings, whose classes only place
them, go without.  The last child is the last one in the tree, even if it is not rendered.

* `margins_elementClasses`   the margins among the classes of an element;
* `margins_finalClasses`     what is left of an overlap after the clean-up;
* `get?_margin_nodeStyles`   the margins in a rule;
* `overlap_carried`          the margins in the code of a request;
* `overlap_of_drawing`       a drawing below which its sibling does not reach.
-/

namespace Handoff
open StyledNode Styling ClassList Utility

/-- the side that an overlap is at, and its property -/
def Overlap.side (o : Overlap) : Side :=
  match o.direction with
  | .row => .right
  | .column => .bottom

def Overlap.property (o : Overlap) : String :=
  match o.direction with
  | .row => "margin-right"
  | .column => "margin-bottom"

namespace React.Renderer

/-! ## the class for an overlap -/

/-- the characters that numbers are not written with -/
theorem not_mem_of_numeral {s : String} {c : Char} (h : Numeral s) (other : ¬ IsNumeral c) :
    c ∉ s.toList := fun mem => other (h c mem)

theorem toList_overlapClass (o : Overlap) : (overlapClass o).toList
    = 'm' :: o.side.letter :: '-' :: '[' :: ((Decimal.trimmed o.value).toList ++ "px]".toList) := by
  unfold overlapClass Overlap.side
  cases o.direction <;> simp [Side.letter]

theorem variantOf_overlapClass (o : Overlap) : variantOf (overlapClass o) = "" := by
  have number := not_mem_of_numeral (Decimal.numeral_trimmed o.value) (by decide : ¬ IsNumeral ':')
  have plain : ':' ∉ (overlapClass o).toList := by
    rw [toList_overlapClass]
    have front : ':' ∉ ['m', o.side.letter, '-', '['] := by cases o.side <;> decide
    have back : ':' ∉ "px]".toList := by decide
    simpa [back] using And.intro front number
  rcases variantOf_eq_nil_or (overlapClass o) with none | colon
  · exact String.toList_inj.mp none
  · refine absurd ?_ plain
    rw [toList_class]
    exact List.mem_append_left _ colon

theorem setting?_overlapClass (o : Overlap) : setting? (overlapClass o)
    = some ⟨"", "", .margin, [o.side.letter], "[" ++ Decimal.trimmed o.value ++ "px]"⟩ := by
  refine setting?_eq_some_iff.mpr ⟨variantOf_overlapClass o, ?_, .inl rfl,
    dash_not_mem (mem_spellings_of_side _)⟩
  rw [baseOf_of_plain (variantOf_overlapClass o), toList_overlapClass]
  simp [Setting.chars, Box.letter]

theorem isMargin_overlapClass (o : Overlap) : IsMargin (overlapClass o) :=
  (isMargin_of_setting (setting?_overlapClass o) (mem_spellings_of_side _)).mpr ⟨rfl, rfl⟩

theorem isSide_overlapClass (o : Overlap) : IsSide (overlapClass o) :=
  ⟨isMargin_overlapClass o, _, setting?_overlapClass o, o.side, rfl⟩

theorem not_mem_px (x : Float) {c : Char} (other : ¬ IsNumeral c) (unit : c ∉ "px".toList) :
    c ∉ (Decimal.trimmed x ++ "px").toList := by
  rw [String.toList_append, List.mem_append, not_or]
  exact ⟨not_mem_of_numeral (Decimal.numeral_trimmed x) other, unit⟩

/-- no number of pixels is a custom property -/
theorem customProperty?_px (x : Float) : customProperty? (Decimal.trimmed x ++ "px") = none := by
  have undashed : Text.startsWith "--" (Decimal.trimmed x ++ "px") = false := by
    rw [Bool.eq_false_iff, Ne, startsWith_iff, String.toList_append]
    have single := Decimal.single_sign_trimmed x
    generalize (Decimal.trimmed x).toList = digits at single ⊢
    match digits with
    | [] => decide
    | [c] => simp [List.cons_prefix_cons]
    | c :: d :: rest => simpa [List.cons_prefix_cons] using single
  have uncalled : Text.dropPrefix? "var(" (Decimal.trimmed x ++ "px") = none := by
    refine dropPrefix?_eq_none fun call => ?_
    exact not_mem_px x (by decide) (by decide) (call.subset (by decide : '(' ∈ "var(".toList))
  unfold customProperty?
  rw [undashed, uncalled]
  rfl

theorem variableShorthand?_overlapClass (o : Overlap) :
    variableShorthand? (overlapClass o) = none := by
  have cut : Text.cut? '[' (overlapClass o)
      = some (String.ofList ['m', o.side.letter, '-'], Decimal.trimmed o.value ++ "px]") := by
    refine Text.cut?_eq_some_iff.mpr ⟨by simp [toList_overlapClass], ?_⟩
    rw [String.toList_ofList]
    cases o.side <;> decide
  have inner : Text.dropSuffix? "]" (Decimal.trimmed o.value ++ "px]")
      = some (Decimal.trimmed o.value ++ "px") := by
    have dropped : Chars.dropSuffix? "]".toList (Decimal.trimmed o.value ++ "px]").toList
        = some (Decimal.trimmed o.value ++ "px").toList := Chars.dropSuffix?_eq_some.mpr (by simp)
    rw [Text.dropSuffix?, dropped, Option.map_some, String.ofList_toList]
  have unhinted : splitHint (Decimal.trimmed o.value ++ "px")
      = ("", Decimal.trimmed o.value ++ "px") := by
    rw [splitHint, cut?_eq_none (not_mem_px o.value (by decide) (by decide))]
  simp only [variableShorthand?, cut, inner, unhinted, customProperty?_px, Option.bind_eq_bind,
    Option.bind_some, Option.bind_none]

theorem variableShorthand?_of_no_bracket {base : String} (h : '[' ∉ base.toList) :
    variableShorthand? base = none := by
  rw [variableShorthand?, cut?_eq_none h]
  rfl

theorem modernize?_snapped (tolerance : Float) (o : Overlap) :
    modernize? (snapOne tolerance (overlapClass o))
      = some (snapOne tolerance (overlapClass o)) := by
  have margin := (isMargin_snapOne_iff tolerance _).mpr (isMargin_overlapClass o)
  refine modernize?_of_isMargin margin ?_
  rcases snapOne_cases tolerance (overlapClass o) with stays | ⟨u, hu, token, ht, -, snapped⟩
  · rw [stays, baseOf_of_plain (variantOf_overlapClass o)]
    exact variableShorthand?_overlapClass o
  · have plain : (u ++ "-" ++ token).toList.all inert = true := by
      have letters : (u ++ "-" ++ token).toList = (u.toList ++ ['-']) ++ token.toList := by simp
      rw [letters, List.all_append, (snappedUtilities_spacing u hu).2, tokens_inert token ht]
      rfl
    rw [baseOf, snapped]
    refine variableShorthand?_of_no_bracket fun bracket => ?_
    exact absurd (List.all_eq_true.mp plain _ bracket) (by decide)

/-! ## the other classes -/

/-- the properties for margins, as their utilities are looked up -/
def marginKeys : List String :=
  ["margin", "margintop", "marginright", "marginbottom", "marginleft"]

theorem apart_margins : ∀ e ∈ leadTable, e.1 ∉ marginKeys → Apart e.2 ("!" :: boxLeads "m") := by
  decide

theorem elsewhere_of_begins {leads : List String} {cls : String} (h : Begins leads cls)
    (apart : Apart leads ("!" :: boxLeads "m")) : Elsewhere cls := fun _ => h.not_begins apart

theorem declaredKeys_margin : ∀ key ∈ declaredKeys, propertyKey key ∉ marginKeys := by
  decide

/-- styles that can be declared anywhere have no class for a margin -/
theorem elsewhere_of_declared {n : NodeData} (font : NamesFont n) {d : Declaration}
    (h : Declared n d) : ∀ cls ∈ classesOf d.1 d.2.show, Elsewhere cls := fun _ hc =>
  elsewhere_of_begins (begins_classesOf (tame_of_declared font h) hc)
    (apart_leadsOf apart_margins (declaredKeys_margin _ (key_of_declared h)))

theorem elsewhere_presence (presence : Option Presence) (flex : Bool) :
    ∀ cls ∈ ((presence.map visibilityClasses).getD []).map (shownAs flex), Elsewhere cls := by
  have known : ∀ cls ∈ ((presence.map visibilityClasses).getD []).map (shownAs flex),
      cls = "hidden" ∨ Begins ["md:", "lg:"] cls := by
    cases presence with
    | none => exact List.forall_mem_nil _
    | some p =>
      obtain ⟨mobile, tablet, desktop⟩ := p
      cases mobile <;> cases tablet <;> cases desktop <;> cases flex <;> decide
  intro cls hc
  rcases known cls hc with rfl | width
  · exact fun _ => by decide
  · exact elsewhere_of_width width

theorem elsewhere_widthClasses {width : String} (h : width ++ ":" ∈ ["md:", "lg:"])
    (styles : Styles) : ∀ cls ∈ widthClasses width styles, Elsewhere cls := by
  have front (cls : String) : Elsewhere (width ++ ":" ++ cls) :=
    elsewhere_of_width ⟨_, h, cls.toList, String.toList_append.symm⟩
  intro cls hc
  obtain ⟨d, -, hc⟩ := List.mem_flatMap.mp hc
  split at hc
  · have basis : width ++ ":basis-0" = width ++ ":" ++ "basis-0" := String.toList_inj.mp (by simp)
    rw [List.mem_singleton.mp hc, basis]
    exact front _
  · obtain ⟨cls, -, rfl⟩ := List.mem_map.mp hc
    exact front cls

theorem elsewhere_responsiveClasses (n : StyledData) :
    ∀ cls ∈ responsiveClasses n, Elsewhere cls := by
  have part {width : String} (h : width ++ ":" ∈ ["md:", "lg:"]) (styles : Option Styles) :
      ∀ cls ∈ (styles.map (widthClasses width)).getD [], Elsewhere cls := by
    cases styles with
    | none => exact List.forall_mem_nil _
    | some styles => exact elsewhere_widthClasses h styles
  unfold responsiveClasses
  split
  · exact List.forall_mem_append.mpr ⟨part (by decide) _, part (by decide) _⟩
  · exact List.forall_mem_nil _

/-- the only class for a margin is the one for an overlap, if there is one -/
def OnlyOverlap (overlap : Option Overlap) (classes : List String) : Prop :=
  ∃ before after, classes = before ++ (overlap.map overlapClass).toList ++ after ∧
    (∀ cls ∈ before, Elsewhere cls) ∧ ∀ cls ∈ after, Elsewhere cls

theorem OnlyOverlap.append {overlap : Option Overlap} {classes more : List String}
    (h : OnlyOverlap overlap classes) (other : ∀ cls ∈ more, Elsewhere cls) :
    OnlyOverlap overlap (classes ++ more) := by
  obtain ⟨before, after, rfl, front, back⟩ := h
  exact ⟨before, after ++ more, List.append_assoc .., front,
    List.forall_mem_append.mpr ⟨back, other⟩⟩

theorem elsewhere_fixed : ∀ cls ∈ fixedClasses, Elsewhere cls := by
  have plain : ∀ cls ∈ fixedClasses, ¬ Begins ("!" :: boxLeads "m") cls := by decide
  exact fun cls hc _ => plain cls hc

variable (c : Renderer)

section
variable {n : StyledNode} (unruled : c.request.Unruled)
  (declared : n.styles.Each (Declared n.source))
include unruled declared

theorem onlyOverlap_elementClasses (font : NamesFont n.source) (overlap : Option Overlap) :
    OnlyOverlap overlap (c.elementClasses overlap n (c.shownStyles n)) := by
  have fixed {classes : List String} (h : classes ⊆ fixedClasses) :
      ∀ cls ∈ classes, Elsewhere cls := fun cls hc => elsewhere_fixed cls (h hc)
  have own : ∀ cls ∈ ofStyles (c.shownStyles n), Elsewhere cls := by
    intro cls hc
    obtain ⟨d, hd, hc⟩ := List.mem_flatMap.mp (c.ofStyles_shownStyles n hc)
    rw [unruled.styles] at hd
    exact elsewhere_of_declared font (declared d hd) cls hc
  have centered : ∀ cls ∈ (if centersVectors n (c.shownStyles n) then
      ["flex", "items-center", "justify-center"] else []), Elsewhere cls := by
    split
    · exact fixed (by decide)
    · exact List.forall_mem_nil _
  unfold elementClasses
  dsimp only
  rw [unruled.ruleClasses]
  have front : OnlyOverlap overlap (["box-border"]
      ++ (if !n.isText && !n.isAbsolute && !(c.shownStyles n).contains "grid-area" then ["relative"]
        else []) ++ ["shrink-0"] ++ (overlap.map overlapClass).toList) := by
    refine ⟨_, [], (List.append_nil _).symm, ?_, List.forall_mem_nil _⟩
    refine List.forall_mem_append.mpr ⟨List.forall_mem_append.mpr ⟨fixed (by decide), ?_⟩,
      fixed (by decide)⟩
    split
    · exact fixed (by decide)
    · exact List.forall_mem_nil _
  exact ((((front.append centered).append own).append (elsewhere_responsiveClasses _)).append
    (elsewhere_presence _ _)).append (List.forall_mem_nil _)

theorem onlyOverlap_drawingClasses :
    OnlyOverlap none (drawingClasses n.toStyledData (c.request.styles n.toStyledData)) := by
  have placed : ∀ key ∈ drawnStyles, propertyKey key ∉ marginKeys → ∀ v, ∀ cls ∈ classesOf key v,
      Elsewhere cls := fun key hkey other v cls hc =>
    elsewhere_of_begins (begins_classesOf (tame_of_plain (plain_drawnStyles key hkey) v) hc)
      (apart_leadsOf apart_margins other)
  have side {property utility : String} (h : property ∈ drawnStyles)
      (apart : Apart ((utility ++ "-") :: leadsOf property) ("!" :: boxLeads "m"))
      (extent : Float) : ∀ cls ∈ sideClasses (c.request.styles n.toStyledData) property utility
        extent, Elsewhere cls :=
    fun cls hc => elsewhere_of_begins (begins_sideClasses h _ extent cls hc) apart
  have visible : ∀ cls ∈ (n.presence.map visibilityClasses).getD [], Elsewhere cls := by
    have kept : ((n.presence.map visibilityClasses).getD []).map (shownAs false)
        = (n.presence.map visibilityClasses).getD [] := List.map_id' _
    rw [← kept]
    exact elsewhere_presence _ _
  refine ⟨_, [], by rw [Option.map_none, Option.toList_none, List.append_nil, List.append_nil], ?_,
    List.forall_mem_nil _⟩
  unfold drawingClasses
  refine List.forall_mem_append.mpr ⟨List.forall_mem_append.mpr ⟨List.forall_mem_append.mpr
    ⟨List.forall_mem_append.mpr ⟨fun cls hc => elsewhere_fixed cls ?_,
      side (by decide) (by decide) _⟩, side (by decide) (by decide) _⟩, ?_⟩,
    visible⟩
  · exact (by decide : ["block", "max-w-none"] ⊆ fixedClasses) hc
  · intro cls hc
    obtain ⟨key, hkey, hc⟩ := List.mem_flatMap.mp hc
    cases found : (c.request.styles n.toStyledData).text? key with
    | none => rw [found] at hc; cases hc
    | some v =>
      rw [found, Option.map_some, Option.getD_some] at hc
      obtain ⟨w, hw, rfl⟩ := Option.map_eq_some_iff.mp found
      rw [unruled.styles] at hw
      have known := key_of_declared (Styles.each_iff.mp declared _ _ hw)
      exact placed key (List.mem_cons_of_mem _ (List.mem_cons_of_mem _ hkey))
        (declaredKeys_margin key known) _ cls hc

end

/-- of the classes for margins the overlap is left, snapped to the scale -/
theorem margins_finalClasses {overlap : Option Overlap} {classes : List String}
    (h : OnlyOverlap overlap classes) : margins (c.finalClasses classes) = (overlap.map
      fun o => snapOne c.request.options.spacingTolerance (overlapClass o)).toList := by
  obtain ⟨before, after, rfl, front, back⟩ := h
  generalize e : before ++ (overlap.map overlapClass).toList ++ after = classes
  have only : margins classes = (overlap.map overlapClass).toList := by
    rw [← e, margins_append, margins_append,
      margins_eq_nil fun cls hc => (front cls hc).not_isMargin,
      margins_eq_nil fun cls hc => (back cls hc).not_isMargin, List.nil_append, List.append_nil]
    cases overlap with
    | none => rfl
    | some o => exact margins_singleton (isMargin_overlapClass o)
  have unmarked : ∀ cls ∈ classes, Unmarked cls := by
    rw [← e]
    refine List.forall_mem_append.mpr ⟨List.forall_mem_append.mpr
      ⟨fun cls hc => (front cls hc).unmarked, fun cls hc => ?_⟩,
      fun cls hc => (back cls hc).unmarked⟩
    obtain ⟨o, -, rfl⟩ := Option.map_eq_some_iff.mp (Option.mem_toList.mp hc)
    exact unmarked_of_isSpacing (isMargin_overlapClass o).isSpacing
  have one : (margins classes).length ≤ 1 := by
    rw [only]
    cases overlap <;> simp
  have sided : ∀ cls ∈ margins classes, IsSide cls := by
    rw [only]
    intro cls hc
    obtain ⟨o, -, rfl⟩ := Option.map_eq_some_iff.mp (Option.mem_toList.mp hc)
    exact isSide_overlapClass o
  have final : margins (finalize c.request.options.spacingTolerance classes) = (overlap.map
      fun o => snapOne c.request.options.spacingTolerance (overlapClass o)).toList := by
    rw [margins_finalize _ one sided, only]
    cases overlap <;> rfl
  unfold finalClasses
  dsimp only
  split
  · rw [margins_modernize (unmarked_finalize _ unmarked), final]
    rw [final]
    intro cls hc
    obtain ⟨o, -, rfl⟩ := Option.map_eq_some_iff.mp (Option.mem_toList.mp hc)
    exact modernize?_snapped _ o
  · exact final

/-- the element of a node has the class for the overlap of the node, unless it is a drawing -/
theorem exists_classes {n : StyledNode} (unruled : c.request.Unruled)
    (declared : n.styles.Each (Declared n.source)) (font : n.isDrawn = false → NamesFont n.source)
    (overlap : Option Overlap) : ∃ classes others,
      (c.elementOf (overlap, n)).attributes
        = dataMarkup n.toStyledData ++ c.classMarkup classes ++ others
      ∧ OnlyOverlap (if n.isDrawn then none else overlap) classes := by
  unfold elementOf
  cases drawn : n.isDrawn with
  | true => exact ⟨_, _, rfl, c.onlyOverlap_drawingClasses unruled declared⟩
  | false =>
    obtain ⟨fit, rest, fits, attributes⟩ :=
      c.attributes_nodeElement overlap n (c.elements n.overlap n.children)
    refine ⟨_, rest, attributes, ?_⟩
    refine (c.onlyOverlap_elementClasses unruled declared (font drawn) overlap).append ?_
    intro cls hc
    obtain ⟨mode, rfl⟩ := fits cls hc
    refine fun _ => ?_
    cases mode <;> decide

end React.Renderer

namespace Html.Page

/-- the margin of a rule is the overlap, if its node declares none -/
theorem get?_margin_nodeStyles (p : Page) {n : StyledNode} {key : String}
    (hkey : key ∈ ["margin-right", "margin-bottom"])
    (bare : (p.request.styles n.toStyledData).get? key = none) (overlap : Option Overlap) :
    (p.nodeStyles overlap n).get? key
      = (overlap.filter fun o => o.property = key).map fun o => .text (px o.value) := by
  have other : ∀ key ∈ ["margin-right", "margin-bottom"],
      key ∉ maskKeys ∧ key ≠ "background-image" ∧
        key ∉ ["background-image", "background-size", "object-fit", "position"] := by decide
  obtain ⟨mask, image, form⟩ := other key hkey
  have below : (p.withImage n.toStyledData (p.formStyles n)).get? key = none := by
    rw [p.get?_withImage n.toStyledData (p.formStyles n) image, p.get?_formStyles n form, bare]
  unfold nodeStyles
  rw [p.get?_withMask _ _ mask]
  generalize p.withImage n.toStyledData (p.formStyles n) = styles at below ⊢
  have put (property value : String) : (styles.put property value).get? key
      = if key = property then some (.text value) else none :=
    (Dict.get?_set ..).trans (by rw [below])
  cases overlap with
  | none => exact below
  | some o =>
    obtain ⟨value, direction⟩ := o
    rw [Option.filter_some]
    cases direction with
    | row =>
      refine (put "margin-right" (px value)).trans ?_
      rcases List.mem_pair.mp hkey with rfl | rfl <;> rfl
    | column =>
      refine (put "margin-bottom" (px value)).trans ?_
      rcases List.mem_pair.mp hkey with rfl | rfl <;> rfl

end Html.Page

namespace Request

/-- the child at a place of a box has the overlap of the box as its margin, unless it is the last
child; in a component, this is a class on the scale, and no drawing has it -/
def CarriesOverlap (r : Request) (assets : Assets) (m : StyledNode) (o : Overlap) (i : Nat)
    (c : StyledNode) : Prop :=
  match r.framework with
  | .reactTailwind | .reactTailwindV4 =>
    let component := React.renderer r assets
    ∃ e ∈ nodeElements (r.rootElement? assets).toList, ∃ classes others,
      e.attributes = dataMarkup c.toStyledData ++ component.classMarkup classes ++ others ∧
        margins (component.finalClasses classes)
          = if i + 1 < m.children.length ∧ c.isDrawn = false
            then [snapOne r.options.spacingTolerance (React.Renderer.overlapClass o)] else []
  | .htmlCss =>
    let page : Html.Page := ⟨r, assets⟩
    let styles := page.nodeStyles (overlapAt m.overlap m.children.length i) c
    (Html.Page.widthRules c.toStyledData styles).Part (page.sheet none r.root) ∧
      ∀ key ∈ ["margin-right", "margin-bottom"], styles.get? key
        = if i + 1 < m.children.length ∧ key = o.property then some (.text (px o.value)) else none

section
variable {r : Request} {assets : Assets} {m c : StyledNode} {o : Overlap} {i : Nat}
  (unruled : r.Unruled) (declared : c.styles.Each (Declared c.source)) (ho : m.overlap = some o)
  (there : (overlapAt m.overlap m.children.length i, c) ∈ r.root.overlapped none)
include unruled declared ho there

theorem carriesOverlap_of_react (react : r.framework ≠ .htmlCss)
    (font : c.isDrawn = false → NamesFont c.source) : r.CarriesOverlap assets m o i c := by
  let component := React.renderer r assets
  obtain ⟨classes, others, attributes, only⟩ := component.exists_classes unruled declared font
    (overlapAt m.overlap m.children.length i)
  have left : margins (component.finalClasses classes)
      = if i + 1 < m.children.length ∧ c.isDrawn = false
        then [snapOne r.options.spacingTolerance (React.Renderer.overlapClass o)] else [] := by
    rw [component.margins_finalClasses only, ho, overlapAt]
    cases c.isDrawn with
    | true => simp
    | false =>
      by_cases reached : i + 1 < m.children.length
      · simp [reached]
        rfl
      · simp [reached]
  have mem : component.elementOf (overlapAt m.overlap m.children.length i, c)
      ∈ nodeElements (r.rootElement? assets).toList := by
    rw [nodeElements_of_react react]
    exact List.mem_map_of_mem there
  unfold CarriesOverlap
  split
  · exact ⟨_, mem, classes, others, attributes, left⟩
  · exact ⟨_, mem, classes, others, attributes, left⟩
  · next html => exact absurd html react

theorem carriesOverlap_of_html (html : r.framework = .htmlCss) :
    r.CarriesOverlap assets m o i c := by
  have part := Html.Page.part_sheet ⟨r, assets⟩ r.root none there
  unfold CarriesOverlap
  rw [html]
  dsimp only
  refine ⟨part, fun key hkey => ?_⟩
  have undeclared : ∀ key ∈ ["margin-right", "margin-bottom"], key ∉ declaredKeys := by
    decide
  have bare : (r.styles c.toStyledData).get? key = none := by
    rw [unruled.styles, Option.eq_none_iff_forall_ne_some]
    exact fun v hv => undeclared key hkey (key_of_declared (Styles.each_iff.mp declared _ _ hv))
  rw [Html.Page.get?_margin_nodeStyles ⟨r, assets⟩ hkey bare, ho, overlapAt]
  by_cases reached : i + 1 < m.children.length
  · by_cases same : key = o.property
    · simp [reached, same]
    · simp [reached, same, Ne.symm same]
  · simp [reached]

end

theorem overlap_negative {d : NodeData} {o : Overlap} (h : Styling.overlap? d = some o) :
    o.value < 0.0 := by
  simp only [Styling.overlap?, Option.bind_eq_bind, Option.bind_eq_some_iff] at h
  obtain ⟨layout, -, direction, -, h⟩ := h
  split at h
  · next negative =>
    obtain rfl := Option.some.inj h
    exact negative
  · cases h

/-- **Children that overlap have a margin, but for drawings in components and the last child.**  In
the code of a tree that was made from a well-formed design, for every framework, options and assets
and without rules, take a box that is written and whose children overlap.  The overlap is below
zero, and for each child that is rendered

* the rule of a page has the overlap as its margin on the side of the main axis if and only if
  another child follows, rendered or not, and no other margin on this side or across;
* the classes of its element in a component after the clean-up have that of the overlap, on the
  scale, for their only margin, if another child follows, rendered or not, and the child is no
  drawing; otherwise they have no margin. -/
theorem overlap_carried (s : Session) {design : DesignNode} (proper : design.WellFormed)
    (r : Request) (h : s.Yields design r.root) (unruled : r.Unruled) (assets : Assets)
    {m c : StyledNode} (hm : m ∈ r.root.written) (box : (m.isDrawn || m.isText) = false)
    {o : Overlap} (ho : m.overlap = some o) {i : Nat} (hc : m.children[i]? = some c)
    (rendered : c.isRendered = true)
    (font : r.framework ≠ .htmlCss → c.isText = true → NamesFont c.source) :
    o.value < 0.0 ∧ r.CarriesOverlap assets m o i c := by
  have there := mem_overlapped_of_child box hc rendered r.root none hm
  have known := (written_sublist r.root).subset hm
  have child : c ∈ m.children := List.mem_of_getElem? hc
  have own := (faithful_of_yields h m known).overlap
  rw [ho] at own
  split at own
  · cases own
  next free =>
  have declared := declared_of_yields h m known (Bool.eq_false_iff.mpr free) c child
  refine ⟨overlap_negative own.symm, ?_⟩
  by_cases html : r.framework = .htmlCss
  · exact carriesOverlap_of_html unruled declared ho there html
  · refine carriesOverlap_of_react unruled declared ho there html fun _ => ?_
    cases text : c.isText with
    | true => exact font html text
    | false =>
      have inside : c ∈ r.root.preOrder := (written_sublist r.root).subset (by
        rw [← map_snd_overlapped r.root none]
        exact List.mem_map_of_mem there)
      obtain ⟨d, hd, source⟩ := exists_source_of_yields h c inside
      exact namesFont_of_fits (source ▸ (proper d hd).fits) (of_decide_eq_false text)

/-- two boxes in a row, the first below the second -/
theorem overlap_carried_card :
    let box (id : String) : DesignNode :=
      ⟨{ id, name := "Box", kind := .frame, payload := .container {} }, []⟩
    let row : DesignNode := ⟨{
      id := "1", name := "Row", kind := .frame
      payload := .container { layout := { mode := .horizontal, itemSpacing := -10.0 } } },
      [box "2", box "3"]⟩
    ∃ tree, ({} : Session).Yields row tree ∧ ∃ m ∈ tree.written, ∃ a b o, m.children = [a, b] ∧
      m.overlap = some o ∧ o.value < 0.0 ∧ ∀ framework,
        let r : Request := { root := tree, framework }
        r.CarriesOverlap {} m o 0 a ∧ r.CarriesOverlap {} m o 1 b := by
  intro box row
  have styled : (({} : Session).style row).1.map (fun tree => tree.written.any fun m =>
      !(m.isDrawn || m.isText) && m.overlap.isSome && m.children.map (fun c =>
        (c.isRendered, c.isText)) == [(true, false), (true, false)]) = some true := by
    decide
  obtain ⟨tree, h, found⟩ := Option.map_eq_some_iff.mp styled
  obtain ⟨m, hm, found⟩ := List.any_eq_true.mp found
  simp only [Bool.and_eq_true, Bool.not_eq_true', beq_iff_eq] at found
  obtain ⟨⟨open', overlap⟩, children⟩ := found
  obtain ⟨o, ho⟩ := Option.isSome_iff_exists.mp overlap
  obtain ⟨a, rest, pair, fa, children⟩ := List.map_eq_cons_iff.mp children
  obtain ⟨b, rfl, fb⟩ := List.map_eq_singleton_iff.mp children
  obtain ⟨⟨shownA, textA⟩, ⟨shownB, textB⟩⟩ := And.intro (Prod.mk.inj fa) (Prod.mk.inj fb)
  have carried (framework : Framework) {c : StyledNode} {i : Nat} (hc : m.children[i]? = some c)
      (shown : c.isRendered = true) (text : c.isText = false) :=
    overlap_carried {} (by decide) { root := tree, framework } (.styled h) ⟨rfl, rfl⟩ {} hm open' ho
      hc shown fun _ other => by rw [text] at other; cases other
  have first : m.children[0]? = some a := by rw [pair]; rfl
  have last : m.children[1]? = some b := by rw [pair]; rfl
  exact ⟨tree, .styled h, m, hm, a, b, o, pair, ho, (carried .htmlCss first shownA textA).1,
    fun framework =>
      ⟨(carried framework first shownA textA).2, (carried framework last shownB textB).2⟩⟩

/-- a drawing in a row below the box that follows it: there is no margin in its classes -/
theorem overlap_of_drawing :
    let dot : DesignNode := ⟨{
      id := "2", name := "Dot", kind := .vector, payload := .vector {} {} }, []⟩
    let box : DesignNode := ⟨{
      id := "3", name := "Box", kind := .frame, payload := .container {} }, []⟩
    let row : DesignNode := ⟨{
      id := "1", name := "Row", kind := .frame
      payload := .container { layout := { mode := .horizontal, itemSpacing := -10.0 } } },
      [dot, box]⟩
    row.WellFormed ∧ ∃ tree, (({} : Session).style row).1 = some tree ∧
      let r : Request := { root := tree, framework := .reactTailwind }
      let c := React.renderer r {}
      ∃ m ∈ r.root.written, m.overlap.isSome = true ∧
        m.children.map (fun n => (n.id, n.isRendered)) = [("2", true), ("3", true)] ∧
        ∃ n ∈ m.children, n.id = "2" ∧ ∃ e ∈ nodeElements (r.rootElement? {}).toList,
          ∃ classes others, e.attributes = dataMarkup n.toStyledData ++ c.classMarkup classes ++ others ∧
            margins (c.finalClasses classes) = [] := by
  intro dot box row
  have proper : row.WellFormed := by decide
  have styled : (({} : Session).style row).1.map (fun tree => tree.written.any fun m =>
      !(m.isDrawn || m.isText) && !m.isGroup && m.overlap.isSome && m.children.map (fun c =>
        (c.id, c.isRendered, c.isDrawn)) == [("2", true, true), ("3", true, false)])
          = some true := by
    decide
  obtain ⟨tree, h, found⟩ := Option.map_eq_some_iff.mp styled
  obtain ⟨m, hm, found⟩ := List.any_eq_true.mp found
  simp only [Bool.and_eq_true, Bool.not_eq_true', beq_iff_eq] at found
  obtain ⟨⟨⟨open', free⟩, overlap⟩, children⟩ := found
  obtain ⟨o, ho⟩ := Option.isSome_iff_exists.mp overlap
  obtain ⟨a, rest, pair, fa, children⟩ := List.map_eq_cons_iff.mp children
  obtain ⟨b, rfl, fb⟩ := List.map_eq_singleton_iff.mp children
  simp only [Prod.mk.injEq] at fa fb
  obtain ⟨⟨idA, shownA, drawnA⟩, ⟨idB, shownB, -⟩⟩ := And.intro fa fb
  have first : m.children[0]? = some a := by rw [pair]; rfl
  have child : a ∈ m.children := List.mem_of_getElem? first
  have declared := declared_of_yields (.styled h) m ((written_sublist tree).subset hm) free a child
  have there := mem_overlapped_of_child open' first shownA tree none hm
  let r : Request := { root := tree, framework := .reactTailwind }
  have carried : r.CarriesOverlap {} m o 0 a :=
    carriesOverlap_of_react ⟨rfl, rfl⟩ declared ho there nofun fun plain => by
      rw [drawnA] at plain
      cases plain
  obtain ⟨e, he, classes, others, attributes, left⟩ := carried
  refine ⟨proper, tree, h, m, hm, overlap, ?_, a, child, idA, e, he, classes, others,
    attributes, ?_⟩
  · rw [pair, List.map_cons, List.map_singleton, idA, idB, shownA, shownB]
  · rw [left, drawnA]
    exact if_neg fun both => nomatch both.2

end Request
end Handoff
