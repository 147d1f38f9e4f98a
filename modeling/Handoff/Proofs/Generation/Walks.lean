import Handoff.Proofs.Generation.Elements
import Handoff.Proofs.Generation.Needs
import Handoff.Proofs.React.Drawings
import Handoff.Proofs.Styling.Texts

/-!
# Four walks over one tree

Pages and components are made by recursion, the drawings of a component are prepared with a stack,
and what a tree needs is collected once more.  All of them come to the same nodes in the same order.

* `walks_agree`   the nodes that are shown become elements, and the drawings among them are those
                  that are prepared and collected.
-/

namespace Handoff.Request
open StyledNode

/-- **All walks over a tree come to the same nodes.**  For every framework, rules, options and assets,
in the code of a tree that was made from a well-formed design, with overlays or without:

* the elements are made one by one for the nodes that are shown, in the order of the walk; these
  are the nodes that are rendered, below nodes that are rendered and no drawings;
* the drawings among them are those that are prepared for a component, in the same order;
* the source of each is known when its element is written;
* and their ids are those that are collected, each once. -/
theorem walks_agree (s : Session) {design : DesignNode} (proper : design.WellFormed) (r : Request)
    (h : s.Yields design r.root) (assets : Assets) :
    List.Forall₂ (fun n e => r.Makes assets n e ∧ dataOf e.attributes = dataMarkup n.toStyledData)
        r.root.shown (nodeElements (r.rootElement? assets).toList) ∧
      React.Drawings.visited [r.root] = (r.root.shown.filter isDrawn).map toStyledData ∧
      (∀ n ∈ r.root.shown, n.isDrawn = true →
        ((React.renderer r assets).drawings.sources.get? n.id).isSome = true) ∧
      (AssetNeeds.of r.root).drawings
        = ((React.Drawings.visited [r.root]).map StyledData.id).eraseDups := by
  have labels := Styling.textsAreLabels_of_yields proper h
  have written : r.root.written = r.root.emitted :=
    written_eq_emitted r.root fun m hm text => (labels m hm text).leaf
  have visited : React.Drawings.visited [r.root]
      = (r.root.emitted.filter isDrawn).map toStyledData := React.Drawings.visited_root r.root
  rw [shown_eq_emitted]
  refine ⟨?_, visited, fun n hn drawn => ?_, ?_⟩
  · rw [← written]
    exact (r.makes_rootElement? assets).imp fun n e made => ⟨made, dataOf_of_makes made⟩
  · refine React.Drawings.isSome_source r.options.svgMode assets ?_
    rw [visited]
    exact List.mem_map_of_mem (List.mem_filter.mpr ⟨hn, drawn⟩)
  · rw [AssetNeeds.drawings_of, visited, List.map_map]
    rfl

/-- a card with a title and an arrow, for every framework -/
theorem walks_agree_card :
    let title : DesignNode := ⟨{
      id := "2", name := "Title", kind := .text, payload := .text "Hello" {} {} }, []⟩
    let arrow : DesignNode := ⟨{
      id := "3", name := "Arrow", kind := .vector, payload := .vector {} {} }, []⟩
    let card : DesignNode := ⟨{
      id := "1", name := "Card", kind := .frame, payload := .container {} }, [title, arrow]⟩
    card.WellFormed ∧ ∃ tree, ({} : Session).Yields card tree ∧
      tree.shown.map (fun n => n.id) = ["1", "2", "3"] ∧
      ∀ framework, let r : Request := { root := tree, framework }
        List.Forall₂
            (fun n e => r.Makes {} n e ∧ dataOf e.attributes = dataMarkup n.toStyledData)
            r.root.shown (nodeElements (r.rootElement? {}).toList) ∧
          React.Drawings.visited [r.root] = (r.root.shown.filter isDrawn).map toStyledData ∧
          (∀ n ∈ r.root.shown, n.isDrawn = true →
            ((React.renderer r {}).drawings.sources.get? n.id).isSome = true) ∧
          (AssetNeeds.of r.root).drawings
            = ((React.Drawings.visited [r.root]).map StyledData.id).eraseDups := by
  intro title arrow card
  have proper : card.WellFormed := by decide
  have styled : (({} : Session).style card).1.map (fun t => t.shown.map fun n => n.id)
      = some ["1", "2", "3"] := by decide
  obtain ⟨tree, h, ids⟩ := Option.map_eq_some_iff.mp styled
  have yields : ({} : Session).Yields card tree := .styled h
  exact ⟨proper, tree, yields, ids, fun framework =>
    walks_agree {} proper { root := tree, framework } yields {}⟩

end Handoff.Request
