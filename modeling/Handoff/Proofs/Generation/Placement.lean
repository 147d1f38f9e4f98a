import Handoff.Proofs.Generation.Elements
import Handoff.Proofs.Utility.LeadTable
import Handoff.Styling.Session

/-!
# The places of drawings

The element of a drawing takes over only some of the styles of its node.  All that place it are
among these but two: how far it is moved back to lie in the middle, and the layer it lies on.

* `begins_drawingClasses`   how the classes of a drawing begin;
* `subset_drawingClasses_iff`   whether they hold those of a placing style;
* `placement_carried`       the places of the drawings in the code of a request;
* `placement_of_centered_dot`   a drawing in the middle, which is not moved back.
-/

namespace Handoff
open Utility

/-- the styles that place a node -/
def placementStyles : List String := ["position", "top", "right", "bottom", "left", "translate",
  "z-index", "grid-area", "margin-left", "margin-top"]

namespace ClassList

/-- what begins with a word has a class that begins with it -/
theorem exists_begins_split {w : String} (hw : Solid w) (filled : w ≠ "") (rest : String) :
    ∃ cls ∈ split (w ++ rest), Begins [w] cls := by
  obtain ⟨_, p, ps, -, e⟩ := pieces_append hw rest.toList 0
  refine ⟨String.ofList (w.toList ++ p), List.mem_map.mpr ⟨_, List.mem_filter.mpr ⟨?_, ?_⟩, rfl⟩,
    w, List.mem_singleton_self _, ?_⟩
  · rw [String.toList_append, e]
    exact List.mem_cons_self
  · have front : w.toList ≠ [] := fun e => filled (String.toList_inj.mp e)
    simp [front]
  · rw [String.toList_ofList]
    exact List.prefix_append _ _

end ClassList

namespace React.Renderer

/-! ## how classes begin -/

/-- the styles that the classes of a drawing come from -/
def drawnStyles : List String := "width" :: "height" :: placementKeys

/-- the beginnings of the other classes of a drawing -/
def plainLeads : List String := ["block", "max-w-none", "w-", "h-", "hidden", "md:", "lg:"]

/-- the beginnings of all classes of a drawing -/
def drawingLeads : List String := plainLeads ++ drawnStyles.flatMap leadsOf

theorem plain_drawnStyles : ∀ key ∈ drawnStyles,
    propertyKey key ∉ ["zindex", "gridcolumn", "gridrow", "fontfamily"] := by decide

theorem leadsOf_subset {key : String} (h : key ∈ drawnStyles) : leadsOf key ⊆ drawingLeads :=
  fun _ mem => List.mem_append_right _ (List.mem_flatMap.mpr ⟨key, h, mem⟩)

theorem begins_of_plain {leads : List String} {cls : String} (h : Begins leads cls)
    (plain : leads ⊆ plainLeads) : Begins drawingLeads cls :=
  h.mono fun _ mem => List.mem_append_left _ (plain mem)

theorem begins_of_drawn {key v cls : String} (h : key ∈ drawnStyles) (hc : cls ∈ classesOf key v) :
    Begins drawingLeads cls :=
  (begins_classesOf (tame_of_plain (plain_drawnStyles key h) v) hc).mono (leadsOf_subset h)

theorem begins_sideClasses {property utility : String} (h : property ∈ drawnStyles)
    (styles : Styles) (extent : Float) : ∀ cls ∈ sideClasses styles property utility extent,
      Begins ((utility ++ "-") :: leadsOf property) cls := by
  have own : ∀ cls ∈ (if 0.0 < extent then
        [utility ++ "-[" ++ Decimal.plain extent.round ++ "px]"] else []),
      Begins ((utility ++ "-") :: leadsOf property) cls := by
    split
    · refine List.forall_mem_singleton.mpr ⟨utility ++ "-", List.mem_cons_self, ?_⟩
      exact ⟨("[" ++ Decimal.plain extent.round ++ "px]").toList, by simp⟩
    · exact List.forall_mem_nil _
  unfold sideClasses
  dsimp only
  split
  · next v _ =>
    split
    · have tame := tame_of_plain (plain_drawnStyles property h) v
      exact fun cls hc => (begins_classesOf tame hc).mono fun _ => List.mem_cons_of_mem _
    · exact own
  · exact own

theorem begins_side {property utility : String} (h : property ∈ drawnStyles)
    (hu : utility ++ "-" ∈ plainLeads) (styles : Styles) (extent : Float) :
    ∀ cls ∈ sideClasses styles property utility extent, Begins drawingLeads cls := fun cls hc =>
  (begins_sideClasses h styles extent cls hc).mono
    (List.cons_subset.mpr ⟨List.mem_append_left _ hu, leadsOf_subset h⟩)

theorem begins_visibilityClasses (p : Presence) :
    ∀ cls ∈ visibilityClasses p, Begins ["hidden", "md:", "lg:"] cls := by
  obtain ⟨mobile, tablet, desktop⟩ := p
  cases mobile <;> cases tablet <;> cases desktop <;> decide

theorem begins_drawingClasses (n : StyledData) (styles : Styles) :
    ∀ cls ∈ drawingClasses n styles, Begins drawingLeads cls := by
  have box : ∀ cls ∈ ["block", "max-w-none"], Begins ["block", "max-w-none"] cls := by decide
  unfold drawingClasses
  refine List.forall_mem_append.mpr ⟨List.forall_mem_append.mpr ⟨List.forall_mem_append.mpr
    ⟨List.forall_mem_append.mpr ⟨fun cls hc => begins_of_plain (box cls hc) (by decide),
      begins_side (by decide) (by decide) _ _⟩, begins_side (by decide) (by decide) _ _⟩, ?_⟩, ?_⟩
  · intro cls hc
    obtain ⟨key, hkey, hc⟩ := List.mem_flatMap.mp hc
    cases found : styles.text? key with
    | none => rw [found] at hc; cases hc
    | some v =>
      rw [found, Option.map_some, Option.getD_some] at hc
      exact begins_of_drawn (List.mem_cons_of_mem _ (List.mem_cons_of_mem _ hkey)) hc
  · cases n.presence with
    | none => exact List.forall_mem_nil _
    | some presence =>
      exact fun cls hc => begins_of_plain (begins_visibilityClasses presence cls hc) (by decide)

/-! ## what a drawing takes over -/

/-- a move and a layer begin as nothing else does -/
def missedLeads : List String := moveLeads "x" ++ moveLeads "y" ++ ["z-"]

theorem apart_drawingLeads : Apart drawingLeads missedLeads := by
  have plain : Apart plainLeads missedLeads := by decide
  have drawn : ∀ key ∈ drawnStyles, Apart (leadsOf key) missedLeads := by decide
  intro lead hl
  rcases List.mem_append.mp hl with hl | hl
  · exact plain lead hl
  · obtain ⟨key, hkey, hl⟩ := List.mem_flatMap.mp hl
    exact drawn key hkey lead hl

/-- a layer that is set has a class -/
theorem exists_begins_zIndex {v : String} (h : classesOf "z-index" v ≠ []) :
    ∃ cls ∈ classesOf "z-index" v, Begins ["z-"] cls := by
  have spelled (w : String) : ∃ rest, zIndex w = "z-" ++ rest := by
    unfold zIndex
    split
    · exact ⟨w, rfl⟩
    · exact ⟨"[" ++ w ++ "]", String.toList_inj.mp (by simp)⟩
  have entry : utilities.lookup (propertyKey "z-index") = some zIndex := by rfl
  unfold classesOf ofDeclaration at h ⊢
  dsimp only at h ⊢
  rw [entry] at h ⊢
  split
  · next none =>
    rw [if_pos none] at h
    exact absurd rfl h
  · obtain ⟨rest, e⟩ := spelled (Text.trim v)
    dsimp only
    rw [e]
    exact ClassList.exists_begins_split (by decide) (by decide) rest

theorem begins_translate {v : String} :
    ∀ cls ∈ classesOf "translate" v, Begins missedLeads cls := by
  intro cls hc
  have same : leadsOf "translate" = moveLeads "x" ++ moveLeads "y" := by rfl
  have moves := begins_classesOf (tame_of_plain (by decide) v) hc
  rw [same] at moves
  exact moves.mono (List.subset_append_left _ _)

/-- a drawing takes over all that places it, but neither a move nor a layer -/
theorem subset_drawingClasses_iff (n : StyledData) {styles : Styles} {key v : String}
    (hkey : key ∈ placementStyles) (hv : styles.text? key = some v) :
    classesOf key v ⊆ drawingClasses n styles
      ↔ key ∉ ["translate", "z-index"] ∨ classesOf key v = [] := by
  have missed : ∀ cls ∈ drawingClasses n styles, ¬ Begins missedLeads cls := fun cls hc =>
    (begins_drawingClasses n styles cls hc).not_begins apart_drawingLeads
  constructor
  · intro taken
    by_cases other : key ∉ ["translate", "z-index"]
    · exact .inl other
    · refine .inr (by_contra fun some => ?_)
      rcases List.mem_cons.mp (not_not.mp other) with rfl | other
      · obtain ⟨cls, rest, e⟩ := List.exists_cons_of_ne_nil some
        have hc : cls ∈ classesOf "translate" v := e ▸ List.mem_cons_self
        exact missed cls (taken hc) (begins_translate cls hc)
      · obtain rfl := List.mem_singleton.mp other
        obtain ⟨cls, hc, begins⟩ := exists_begins_zIndex some
        exact missed cls (taken hc) (begins.mono (List.subset_append_right _ _))
  · rintro (other | none)
    · have carried : ∀ key ∈ placementStyles,
          key ∉ ["translate", "z-index"] → key ∈ placementKeys := by decide
      intro cls hc
      unfold drawingClasses
      refine List.mem_append_left _ (List.mem_append_right _ (List.mem_flatMap.mpr
        ⟨key, carried key hkey other, ?_⟩))
      rw [hv, Option.map_some, Option.getD_some]
      exact hc
    · rw [none]
      exact List.nil_subset _

end React.Renderer

/-! ## drawings in the code of a request -/

namespace Request

/-- the element of a drawing takes over what places the drawing, but no move and no layer -/
def CarriesPlace (r : Request) (assets : Assets) (n : StyledNode) (e : Element) : Prop :=
  let styles := r.styles n.toStyledData
  let classes := React.Renderer.drawingClasses n.toStyledData styles
  (∃ others, e = .closed "img" (dataMarkup n.toStyledData
      ++ (React.renderer r assets).classMarkup classes ++ others)) ∧
    ∀ key ∈ placementStyles, ∀ v, styles.text? key = some v →
      (classesOf key v ⊆ classes ↔ key ∉ ["translate", "z-index"] ∨ classesOf key v = [])

/-- **Components place drawings by all of their styles but a move and a layer.**  For every tree,
rules and assets there is one element for each node that is written, with the data of this node; and
if the node is a drawing, its element is an image whose classes hold those of each style that places
it, unless this is how far it is moved back or the layer it lies on and has any classes at all. -/
theorem placement_carried (r : Request) (react : r.framework ≠ .htmlCss) (assets : Assets) :
    List.Forall₂ (fun n e => dataOf e.attributes = dataMarkup n.toStyledData ∧
        (n.isDrawn = true → r.CarriesPlace assets n e))
      r.root.written (nodeElements (r.rootElement? assets).toList) := by
  refine (r.makes_rootElement? assets).imp fun n e made => ⟨dataOf_of_makes made, fun drawn => ?_⟩
  cases made.of_react react with
  | drawing _ =>
    exact ⟨⟨_, rfl⟩, fun key hkey v hv =>
      React.Renderer.subset_drawingClasses_iff n.toStyledData hkey hv⟩
  | node plain _ =>
    rw [plain] at drawn
    cases drawn

/-- a badge that is pinned to a corner of a card: all that places it is there -/
theorem placement_carried_badge :
    let bounds : Rect := ⟨0.0, 0.0, 100.0, 100.0⟩
    let badge : DesignNode := ⟨{
      id := "2", name := "Badge", kind := .vector, bounds := some ⟨80.0, 0.0, 20.0, 20.0⟩
      constraints := some ⟨.max, .min⟩, payload := .vector {} {} }, []⟩
    let card : DesignNode := ⟨{
      id := "1", name := "Card", kind := .frame, bounds := some bounds
      payload := .container {} }, [badge]⟩
    ∃ tree, (({} : Session).style card).1 = some tree ∧
      (tree.written.map fun n => (n.id, n.isDrawn)) = [("1", false), ("2", true)] ∧
      let r : Request := { root := tree, framework := .reactTailwind }
      List.Forall₂ (fun n _ => n.isDrawn = true → ∀ key ∈ ["position", "right", "top"],
          ∃ v, (r.styles n.toStyledData).text? key = some v ∧ classesOf key v ⊆
            React.Renderer.drawingClasses n.toStyledData (r.styles n.toStyledData))
        r.root.written (nodeElements (r.rootElement? {}).toList) := by
  intro bounds badge card
  have styled : (({} : Session).style card).1.map (fun tree =>
      (tree.written.map fun n => (n.id, n.isDrawn), tree.written.all fun n => !n.isDrawn ||
        ["position", "right", "top"].all fun key =>
          ((({ root := tree, framework := .reactTailwind } : Request).styles
            n.toStyledData).text? key).isSome))
        = some ([("1", false), ("2", true)], true) := by decide
  obtain ⟨tree, h, found⟩ := Option.map_eq_some_iff.mp styled
  obtain ⟨nodes, set⟩ := Prod.mk.inj found
  refine ⟨tree, h, nodes, ?_⟩
  intro r
  have carried := placement_carried r nofun {}
  refine ((List.forall₂_and_left _ _).mpr ⟨fun _ hn => hn, carried⟩).imp ?_
  rintro n e ⟨hn, -, carries⟩ drawn key hkey
  have there : ((r.styles n.toStyledData).text? key).isSome = true := by
    have all := (List.all_eq_true.mp set) n hn
    rw [drawn, Bool.not_true, Bool.false_or] at all
    exact List.all_eq_true.mp all key hkey
  obtain ⟨v, hv⟩ := Option.isSome_iff_exists.mp there
  have placing : ∀ key ∈ ["position", "right", "top"], key ∈ placementStyles
      ∧ key ∉ ["translate", "z-index"] := by decide
  exact ⟨v, hv, ((carries drawn).2 key (placing key hkey).1 v hv).mpr (.inl (placing key hkey).2)⟩

/-- a dot in the middle of a card has to be moved back by half of its width, but its image is not -/
theorem placement_of_centered_dot :
    let bounds : Rect := ⟨0.0, 0.0, 100.0, 100.0⟩
    let dot : DesignNode := ⟨{
      id := "2", name := "Dot", kind := .vector, bounds := some ⟨40.0, 0.0, 20.0, 20.0⟩
      constraints := some ⟨.center, .min⟩, payload := .vector {} {} }, []⟩
    let card : DesignNode := ⟨{
      id := "1", name := "Card", kind := .frame, bounds := some bounds
      payload := .container {} }, [dot]⟩
    ∃ tree, (({} : Session).style card).1 = some tree ∧
      let r : Request := { root := tree, framework := .reactTailwind }
      ∃ n ∈ r.root.written, n.isDrawn = true ∧
        (r.styles n.toStyledData).text? "translate" = some "-50% 0" ∧
        classesOf "translate" "-50% 0" = ["-translate-x-1/2"] ∧
        "-translate-x-1/2" ∉
          React.Renderer.drawingClasses n.toStyledData (r.styles n.toStyledData) := by
  intro bounds dot card
  have styled : (({} : Session).style card).1.map (fun tree => tree.written.any fun n =>
      n.isDrawn && (({ root := tree, framework := .reactTailwind } : Request).styles
        n.toStyledData).is "translate" "-50% 0") = some true := by decide
  obtain ⟨tree, h, found⟩ := Option.map_eq_some_iff.mp styled
  obtain ⟨n, hn, moved⟩ := List.any_eq_true.mp found
  obtain ⟨drawn, moved⟩ := Bool.and_eq_true_iff.mp moved
  have classes : classesOf "translate" "-50% 0" = ["-translate-x-1/2"] := by decide
  refine ⟨tree, h, n, hn, drawn, eq_of_beq moved, classes, fun taken => ?_⟩
  have missed := React.Renderer.subset_drawingClasses_iff n.toStyledData
    (by decide : "translate" ∈ placementStyles) (eq_of_beq moved)
  rw [classes] at missed
  exact absurd (missed.mp (List.cons_subset.mpr ⟨taken, List.nil_subset _⟩)) (by decide)

end Request
end Handoff
