import Handoff.Proofs.Generation.Presence
import Handoff.Proofs.Styling.Overlaid
import Handoff.Proofs.Styling.Values

/-!
# The box that layers lie in

The layers of the fills of a node fill the box that they are placed in.  This is the element around
them if it has a position.  A component gives every element one, but for texts and the cells of
stacks; so layers in a cell fill some box further out, unless the cell has a position of its own.

* `React.positions`         the classes for the position of an element;
* `mem_finalClasses_iff`    whether one of them is left after the clean-up;
* `contains_layers_iff`     the elements that are the box of their layers;
* `layers_contained`        the boxes of the layers in a component;
* `layers_of_stacked_box`   a box on a stack, whose layers fill whatever is around the stack.
-/

namespace Handoff
open StyledNode Styling ClassList Utility

theorem position_word : "position" ∈ wordGroups := by decide

/-- the words for a position, and what the clean-up takes for them -/
def positionWords : List String := namesOf "position" ++ (namesOf "position").map ("-" ++ ·)

namespace Request

/-- no rule has a say -/
structure Unruled (r : Request) : Prop where
  rules : r.rules = []
  resolved : r.resolved = ∅

variable {r : Request}

theorem Unruled.evaluation (h : r.Unruled) (n : StyledData) :
    r.evaluation n = { emissions := ∅, matchedRules := [], conflicts := [] } := by
  unfold Request.evaluation
  rw [h.rules, h.resolved]
  rfl

theorem Unruled.styles (h : r.Unruled) (n : StyledData) : r.styles n = n.styles := by
  unfold Request.styles Request.ruleDeclarations
  rw [h.evaluation]
  rfl

theorem Unruled.ruleClasses (h : r.Unruled) (n : StyledData) : r.ruleClasses n = none := by
  unfold Request.ruleClasses
  rw [h.evaluation]
  rfl

end Request

namespace React

/-- the classes for the position of an element that is no drawing -/
def positions (n : StyledData) : List String :=
  (if !n.isText && !n.isAbsolute && !n.styles.contains "grid-area" then ["relative"] else [])
    ++ ((position? n.styles).map StyleValue.show).toList

theorem positions_known {n : StyledData} (settled : Settled n) :
    ∀ cls ∈ positions n, cls = "relative" ∨ cls = "absolute" := by
  refine List.forall_mem_append.mpr ⟨fun cls hc => ?_, fun cls hc => ?_⟩
  · split at hc
    · exact .inl (List.mem_singleton.mp hc)
    · cases hc
  · obtain ⟨v, hv, rfl⟩ := Option.map_eq_some_iff.mp (Option.mem_toList.mp hc)
    rcases position_of_settled settled hv with rfl | rfl
    · exact .inr rfl
    · exact .inl rfl

theorem isContaining_of_ne_none {n : StyledData} (settled : Settled n)
    (h : position? n.styles ≠ none) : n.isContaining = true := by
  obtain ⟨v, hv⟩ := Option.ne_none_iff_exists'.mp h
  rcases position_of_settled settled hv with rfl | rfl
  · exact isContaining_of_isAbsolute (isAbsolute_of_absolute hv)
  · exact isContaining_of_relative hv

theorem exists_positions_iff {n : StyledData} (settled : Settled n) (text : n.isText = false) :
    (∃ cls, cls ∈ positions n)
      ↔ n.isContaining = true ∨ n.styles.contains "grid-area" = false := by
  have own (h : n.isContaining = true) : ∃ cls, cls ∈ positions n := by
    cases hv : position? n.styles with
    | none => rw [isContaining_of_none hv] at h; cases h
    | some v =>
      refine ⟨v.show, List.mem_append_right _ ?_⟩
      rw [hv]
      exact List.mem_singleton_self _
  constructor
  · rintro ⟨cls, hc⟩
    rcases List.mem_append.mp hc with hc | hc
    · split at hc
      · next structural =>
        obtain ⟨-, area⟩ := Bool.and_eq_true_iff.mp structural
        exact .inr ((Bool.not_eq_true' _).mp area)
      · cases hc
    · refine .inl (isContaining_of_ne_none settled fun none => ?_)
      rw [none] at hc
      cases hc
  · rintro (containing | area)
    · exact own containing
    · cases absolute : n.isAbsolute with
      | true => exact own (isContaining_of_isAbsolute absolute)
      | false =>
        refine ⟨"relative", List.mem_append_left _ ?_⟩
        rw [text, absolute, area]
        exact List.mem_singleton_self _

namespace Renderer
variable (c : Renderer)

/-- an element has a position after the clean-up if it has one before, as long as there is no other
than these two -/
theorem mem_finalClasses_iff {classes : List String}
    (known : ∀ cls ∈ classes, IsWord "position" cls → cls = "relative" ∨ cls = "absolute") :
    ("relative" ∈ c.finalClasses classes ∨ "absolute" ∈ c.finalClasses classes)
      ↔ ∃ cls ∈ classes, IsWord "position" cls := by
  have same := c.lastBy_finalClasses_word position_word (grouped_word? "position")
    (fun _ => word?_eq_none) classes
  constructor
  · intro h
    have left : ∃ cls ∈ c.finalClasses classes, IsWord "position" cls := by
      rcases h with h | h
      · exact ⟨_, h, by decide⟩
      · exact ⟨_, h, by decide⟩
    obtain ⟨cls, hc, own⟩ := left
    obtain ⟨w, hw⟩ := Option.ne_none_iff_exists'.mp (same ▸ lastBy_word?_ne_none hc own)
    obtain ⟨cls', hc', found⟩ := exists_of_lastBy hw
    exact ⟨cls', hc', (word?_eq_some_iff.mp found).1⟩
  · rintro ⟨cls, hc, own⟩
    obtain ⟨w, hw⟩ := Option.ne_none_iff_exists'.mp (lastBy_word?_ne_none hc own)
    obtain ⟨a, ha, found⟩ := exists_of_lastBy hw
    obtain ⟨b, hb, left⟩ := exists_of_lastBy (same.trans hw)
    obtain ⟨own, rfl⟩ := word?_eq_some_iff.mp found
    obtain ⟨-, rfl⟩ := word?_eq_some_iff.mp left
    rcases known _ ha own with rfl | rfl
    · exact .inl hb
    · exact .inr hb

/-! ## classes for the position -/

theorem get?_shownStyles (n : StyledNode) {key : String}
    (other : key ∉ ["background-image", "background-size"]) :
    (c.shownStyles n).get? key = (c.request.styles n.toStyledData).get? key := by
  rw [List.mem_pair, not_or] at other
  unfold shownStyles
  dsimp only
  split
  · rfl
  · rw [Dict.get?_erase, if_neg other.2, Dict.get?_erase, if_neg other.1]
  · rw [Dict.get?_erase, if_neg other.2, Dict.get?_erase, if_neg other.1]

theorem apart_position : ∀ e ∈ leadTable, e.1 ∉ ["position"] → Apart e.2 positionWords := by
  decide +kernel

/-- styles for anything else have no class for the position -/
theorem not_position_of_declared {n : NodeData} (font : NamesFont n) {d : Declaration}
    (h : Declared n d ∨ Cell d) (other : d.1 ≠ "position") :
    ∀ cls ∈ classesOf d.1 d.2.show, ¬ IsWord "position" cls := by
  intro cls hc own
  have tame : Tame (propertyKey d.1) d.2.show := h.elim (tame_of_declared font) tame_of_cell
  have keys : ∀ key ∈ declaredKeys ++ cellKeys, key ≠ "position" →
      propertyKey key ∉ ["position"] := by decide
  have key : d.1 ∈ declaredKeys ++ cellKeys :=
    List.mem_append.mpr (h.imp key_of_declared key_of_cell)
  have word : Begins positionWords cls :=
    ⟨cls, mem_names_of_isWord position_word own, List.prefix_refl _⟩
  exact (begins_classesOf tame hc).not_begins (apart_leadsOf apart_position (keys _ key other)) word

theorem not_position_overlapClass (o : Overlap) : ¬ IsWord "position" (overlapClass o) := fun own =>
  not_word_of_bracket position_word _ (groupKey?_eq_some_iff.mp own).2

section
variable {n : StyledNode} (unruled : c.request.Unruled)
include unruled

/-- without rules and overlays the classes of an element are those of its structure and styles -/
theorem elementClasses_eq (made : Made n.toStyledData) (overlap : Option Overlap)
    (styles : Styles) : c.elementClasses overlap n styles = ["box-border"]
      ++ (if !n.isText && !n.isAbsolute && !styles.contains "grid-area" then ["relative"] else [])
      ++ ["shrink-0"] ++ (overlap.map overlapClass).toList
      ++ (if centersVectors n styles then ["flex", "items-center", "justify-center"] else [])
      ++ Utility.ofStyles styles := by
  unfold elementClasses responsiveClasses
  rw [made.responsive, made.presence, unruled.ruleClasses]
  simp only [Option.map_none, Option.getD_none, List.map_nil, List.append_nil]

/-- the classes for the position of an element come from its structure and its own position -/
theorem isWord_elementClasses_iff (made : Made n.toStyledData) (settled : Settled n.toStyledData)
    (font : NamesFont n.source) (overlap : Option Overlap) (cls : String) :
    cls ∈ c.elementClasses overlap n (c.shownStyles n) ∧ IsWord "position" cls
      ↔ cls ∈ positions n.toStyledData := by
  have styles {key : String} (other : key ∉ ["background-image", "background-size"]) :
      (c.shownStyles n).get? key = n.styles.get? key := by
    rw [c.get?_shownStyles n other, unruled.styles]
  have area : (c.shownStyles n).contains "grid-area" = n.styles.contains "grid-area" := by
    rw [Dict.contains, styles (by decide)]
    rfl
  rw [c.elementClasses_eq unruled made, area]
  constructor
  · rintro ⟨hc, own⟩
    simp only [List.mem_append] at hc
    rcases hc with ((((hc | hc) | hc) | hc) | hc) | hc
    · exact absurd (List.mem_singleton.mp hc ▸ own) (by decide)
    · exact List.mem_append_left _ hc
    · exact absurd (List.mem_singleton.mp hc ▸ own) (by decide)
    · obtain ⟨o, -, rfl⟩ := Option.map_eq_some_iff.mp (Option.mem_toList.mp hc)
      exact absurd own (not_position_overlapClass o)
    · have fixed : ∀ cls ∈ ["flex", "items-center", "justify-center"], ¬ IsWord "position" cls := by
        decide
      split at hc
      · exact absurd own (fixed cls hc)
      · cases hc
    · obtain ⟨⟨key, v⟩, hd, hc⟩ := List.mem_flatMap.mp hc
      have there : (key, v) ∈ n.styles.entries := by
        rw [← unruled.styles n.toStyledData]
        exact c.entries_shownStyles n hd
      by_cases place : key = "position"
      · subst place
        have hv : position? n.styles = some v := Dict.mem_entries_iff.mp there
        have word : classesOf "position" v.show = [v.show] := by
          rcases position_of_settled settled hv with rfl | rfl <;> decide
        rw [word] at hc
        refine List.mem_append_right _ ?_
        rw [hv]
        exact hc
      · exact absurd own (not_position_of_declared font (settled _ there) place cls hc)
  · intro hc
    have own : IsWord "position" cls := by
      rcases positions_known settled cls hc with rfl | rfl <;> decide
    refine ⟨?_, own⟩
    rcases List.mem_append.mp hc with hc | hc
    · simp only [List.mem_append]
      exact .inl (.inl (.inl (.inl (.inr hc))))
    · obtain ⟨v, hv, rfl⟩ := Option.map_eq_some_iff.mp (Option.mem_toList.mp hc)
      have set : (c.shownStyles n).text? "position" = some v.show := by
        rw [Styles.text?, styles (by decide), show n.styles.get? "position" = some v from hv]
        rfl
      refine List.mem_append_right _ (mem_ofStyles set ?_)
      rcases position_of_settled settled hv with rfl | rfl <;> decide

/-- the box of the layers of an element is the element itself, unless this is a cell of a stack that
has no position -/
theorem contains_layers_iff {tree : StyledNode} (plain : Plain tree) (made : AllMade tree)
    (hn : n ∈ tree.preOrder) (font : NamesFont n.source) (text : n.isText = false)
    (overlap : Option Overlap) :
    let final := c.finalClasses (c.elementClasses overlap n (c.shownStyles n))
    ("relative" ∈ final ∨ "absolute" ∈ final) ↔
      (¬ ∃ m ∈ tree.preOrder, m.isGroup = true ∧ n ∈ m.children)
        ∨ n.isAbsolute = true ∨ n.hasAbsolute = true := by
  intro final
  have settled := settled_of_plain plain hn
  have iff := c.isWord_elementClasses_iff unruled (made n hn) settled font overlap
  have known : ∀ cls ∈ c.elementClasses overlap n (c.shownStyles n), IsWord "position" cls →
      cls = "relative" ∨ cls = "absolute" :=
    fun cls hc own => positions_known settled cls ((iff cls).mp ⟨hc, own⟩)
  rw [c.mem_finalClasses_iff known, exists_congr iff]
  rw [exists_positions_iff settled text]
  rcases settled_cases plain hn with ⟨stacked, celled⟩ | ⟨free, declared⟩
  · have containing : n.isContaining = true ↔ n.isAbsolute = true ∨ n.hasAbsolute = true := by
      rw [celled.containing, Bool.or_eq_true]
    rw [containing, iff_false_intro (not_not.mpr stacked), false_or, or_iff_left_iff_imp]
    intro open'
    refine containing.mp (isContaining_of_ne_none settled fun none => ?_)
    rw [celled.area none] at open'
    cases open'
  · exact iff_of_true (.inr (no_area_of_declared declared)) (.inl free)

end

end Renderer
end React

/-! ## layers in the code of a request -/

namespace Request

/-- the element of a node holds the layers of its fills, and it is their box unless it is a cell of
a stack without a position -/
def HoldsLayers (r : Request) (assets : Assets) (n : StyledNode) (e : Element) : Prop :=
  let c := React.renderer r assets
  ∃ classes others inner,
    e = .block (elementTag n.toStyledData)
        (dataMarkup n.toStyledData ++ c.classMarkup classes ++ others)
        (c.layersElement n.toStyledData :: inner)
      ∧ ("relative" ∈ c.finalClasses classes ∨ "absolute" ∈ c.finalClasses classes ↔
        (¬ ∃ m ∈ r.root.preOrder, m.isGroup = true ∧ n ∈ m.children)
          ∨ n.isAbsolute = true ∨ n.hasAbsolute = true)

section
variable {s : Session} {design : DesignNode} {r : Request}

theorem holdsLayers_of_makes (proper : design.WellFormed) (h : (s.style design).1 = some r.root)
    (unruled : r.Unruled) (react : r.framework ≠ .htmlCss) {assets : Assets} {n : StyledNode}
    {e : Element} (hn : n ∈ r.root.written) (box : (n.isDrawn || n.isText) = false)
    (layers : needsLayers n = true) (element : r.Makes assets n e) : r.HoldsLayers assets n e := by
  have plain := declared_styleNode s.policy design {} 0.0 s.names r.root h
  have made := made_styleNode s.policy design {} 0.0 s.names r.root h
  obtain ⟨undrawn, text⟩ := Bool.or_eq_false_iff.mp box
  have there := (written_sublist r.root).subset hn
  obtain ⟨d, hd, source⟩ := exists_source_of_yields (.styled h) n there
  have font : NamesFont n.source :=
    namesFont_of_fits (source ▸ (proper d hd).fits) (of_decide_eq_false text)
  obtain ⟨overlap, rfl⟩ := (element.of_react react).exists_overlap _ undrawn
  rw [React.Renderer.nodeElement_layered _ text (if_pos layers)]
  exact ⟨_, _, _, rfl,
    React.Renderer.contains_layers_iff _ unruled plain made there font text overlap⟩

end

/-- **Layers of a component lie in the box of their node, but not on stacks.**  In a component of
the styled tree of a well-formed design, without rules and for any options and assets, there is one
element for each node that is written, with the data of this node; and if the node is no drawing and
no text and its fills need elements of their own, then its element holds them as layers, and its
classes after the clean-up have a position if and only if

* the node is no child of a stack, or
* it is absolute or has absolute children itself. -/
theorem layers_contained (s : Session) {design : DesignNode} (proper : design.WellFormed)
    (r : Request) (h : (s.style design).1 = some r.root) (unruled : r.Unruled)
    (react : r.framework ≠ .htmlCss) (assets : Assets) :
    List.Forall₂ (fun n e => dataOf e.attributes = dataMarkup n.toStyledData ∧
        ((n.isDrawn || n.isText) = false → needsLayers n = true → r.HoldsLayers assets n e))
      r.root.written (nodeElements (r.rootElement? assets).toList) := by
  refine ((List.forall₂_and_left _ _).mpr ⟨fun _ hn => hn, r.makes_rootElement? assets⟩).imp ?_
  rintro n e ⟨hn, element⟩
  exact ⟨dataOf_of_makes element, fun box layers =>
    holdsLayers_of_makes proper h unruled react hn box layers element⟩

/-- a card with one color over another: it is the box of both -/
theorem layers_contained_card :
    let red : Paint := { fill := .solid ⟨1.0, 0.0, 0.0, 1.0⟩ }
    let blue : Paint := { fill := .solid ⟨0.0, 0.0, 1.0, 1.0⟩ }
    let card : DesignNode := ⟨{
      id := "1", name := "Card", kind := .frame
      payload := .container { paints := { fills := [red, blue] } } }, []⟩
    ∃ tree, (({} : Session).style card).1 = some tree ∧ tree.written.map (fun n => n.id) = ["1"] ∧
      let r : Request := { root := tree, framework := .reactTailwind }
      let c := React.renderer r {}
      List.Forall₂ (fun n e => ∃ classes others inner,
          e = .block (elementTag n.toStyledData)
              (dataMarkup n.toStyledData ++ c.classMarkup classes ++ others)
              (c.layersElement n.toStyledData :: inner)
            ∧ ("relative" ∈ c.finalClasses classes ∨ "absolute" ∈ c.finalClasses classes))
        r.root.written (nodeElements (r.rootElement? {}).toList) := by
  intro red blue card
  have styled : (({} : Session).style card).1.map (fun tree =>
      (tree.written.map fun n => n.id, tree.preOrder.all fun n =>
        !n.isGroup && !n.isDrawn && !n.isText && needsLayers n))
        = some (["1"], true) := by decide
  obtain ⟨tree, h, found⟩ := Option.map_eq_some_iff.mp styled
  obtain ⟨ids, boxes⟩ := Prod.mk.inj found
  have box : ∀ n ∈ tree.preOrder, ((n.isGroup = false ∧ n.isDrawn = false) ∧ n.isText = false)
      ∧ needsLayers n = true := by
    simpa using boxes
  refine ⟨tree, h, ids, ?_⟩
  intro r c
  have contained := layers_contained {} (by decide) r h ⟨rfl, rfl⟩ nofun {}
  refine ((List.forall₂_and_left _ _).mpr ⟨fun _ hn => hn, contained⟩).imp ?_
  rintro n e ⟨hn, -, holds⟩
  obtain ⟨⟨⟨-, undrawn⟩, text⟩, layers⟩ := box n ((written_sublist tree).subset hn)
  obtain ⟨classes, others, inner, element, iff⟩ := holds (by rw [undrawn, text]; rfl) layers
  refine ⟨classes, others, inner, element, iff.mpr (.inl ?_)⟩
  rintro ⟨m, hm, group, -⟩
  rw [(box m hm).1.1.1] at group
  cases group

/-- two boxes on a stack, the first with one color over another: it is not the box of both -/
theorem layers_of_stacked_box :
    let red : Paint := { fill := .solid ⟨1.0, 0.0, 0.0, 1.0⟩ }
    let blue : Paint := { fill := .solid ⟨0.0, 0.0, 1.0, 1.0⟩ }
    let back : DesignNode := ⟨{
      id := "2", name := "Back", kind := .rectangle
      payload := .shape { fills := [red, blue] } {} {} }, []⟩
    let front : DesignNode := ⟨{
      id := "3", name := "Front", kind := .rectangle, payload := .shape {} {} {} }, []⟩
    let stack : DesignNode := ⟨{ id := "1", name := "Stack", kind := .group }, [back, front]⟩
    ∃ tree, (({} : Session).style stack).1 = some tree ∧
      tree.written.map (fun n => (n.id, n.fills.length)) = [("1", 0), ("2", 2), ("3", 0)] ∧
      let r : Request := { root := tree, framework := .reactTailwind }
      let c := React.renderer r {}
      List.Forall₂ (fun n e => n.id = "2" → ∃ classes others inner,
          e = .block (elementTag n.toStyledData)
              (dataMarkup n.toStyledData ++ c.classMarkup classes ++ others)
              (c.layersElement n.toStyledData :: inner)
            ∧ ¬ ("relative" ∈ c.finalClasses classes ∨ "absolute" ∈ c.finalClasses classes))
        r.root.written (nodeElements (r.rootElement? {}).toList) := by
  intro red blue back front stack
  have styled : (({} : Session).style stack).1.map (fun tree =>
      (tree.written.map fun n => (n.id, n.fills.length),
        tree.id != "2" && tree.preOrder.all fun n => (n.children.isEmpty || n.isGroup) && (n.id != "2" ||
          (!n.isDrawn && !n.isText && needsLayers n && !n.isAbsolute && !n.hasAbsolute))))
        = some ([("1", 0), ("2", 2), ("3", 0)], true) := by decide
  obtain ⟨tree, h, found⟩ := Option.map_eq_some_iff.mp styled
  obtain ⟨ids, facts⟩ := Prod.mk.inj found
  obtain ⟨root, nodes⟩ := Bool.and_eq_true_iff.mp facts
  refine ⟨tree, h, ids, ?_⟩
  intro r c
  refine ((List.forall₂_and_left _ _).mpr ⟨fun _ hn => hn, r.makes_rootElement? {}⟩).imp ?_
  rintro n e ⟨hn, element⟩ id
  have there : n ∈ tree.preOrder := (written_sublist tree).subset hn
  have own := (Bool.and_eq_true_iff.mp (List.all_eq_true.mp nodes n there)).2
  simp only [id, bne_self_eq_false, Bool.false_or, Bool.and_eq_true, Bool.not_eq_true'] at own
  obtain ⟨⟨⟨⟨undrawn, text⟩, layers⟩, static⟩, empty⟩ := own
  obtain ⟨classes, others, inner, shape, iff⟩ := holdsLayers_of_makes (r := r) (by decide) h
    ⟨rfl, rfl⟩ nofun hn (by rw [undrawn, text]; rfl) layers element
  refine ⟨classes, others, inner, shape, fun positioned => ?_⟩
  rcases iff.mp positioned with free | absolute | holds
  · refine free ?_
    rcases mem_preOrder there with rfl | ⟨m, hm, child⟩
    · exact absurd id (by simpa using root)
    · have inhabited := (Bool.and_eq_true_iff.mp (List.all_eq_true.mp nodes m hm)).1
      rw [List.isEmpty_eq_false_iff.mpr (List.ne_nil_of_mem child), Bool.false_or] at inhabited
      exact ⟨m, hm, inhabited, child⟩
  · rw [static] at absolute
    cases absolute
  · rw [empty] at holds
    cases holds

end Request
end Handoff
