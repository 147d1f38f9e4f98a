import Handoff.Generation.Code
import Handoff.Proofs.Html.Elements
import Handoff.Proofs.React.Elements

/-!
# The elements of generated code

The markup of a request is printed from one element, whatever the framework.  All frameworks have
elements for the same nodes in the same order.

* `Request.rootElement?`       the element that the markup is printed from;
* `dataLists_rootElement?`     the nodes that there are elements for;
* `makes_rootElement?`         and these elements themselves, one for each node.
-/

namespace Handoff

/-- the data attributes of a design node -/
def nodeMarkup (d : NodeData) : List Attribute := dataMarkup { source := d, uniqueName := "" }

namespace Request

/-- the element that the markup of a request is printed from -/
def rootElement? (r : Request) (assets : Assets) : Option Element :=
  match r.framework with
  | .reactTailwind | .reactTailwindV4 => (React.renderer r assets).root?
  | .htmlCss => (⟨r, assets⟩ : Html.Page).root?

/-- there are elements for the nodes that are written, in their order -/
theorem dataLists_rootElement? (r : Request) (assets : Assets) :
    dataLists (r.rootElement? assets).toList
      = (r.root.written.map fun m => m.source).map nodeMarkup := by
  rw [List.map_map]
  unfold rootElement?
  cases r.framework with
  | reactTailwind => exact (React.renderer r assets).dataLists_element? r.root none
  | reactTailwindV4 => exact (React.renderer r assets).dataLists_element? r.root none
  | htmlCss => exact Html.Page.dataLists_element? ⟨r, assets⟩ r.root

/-- the elements that a node can be made into -/
def Makes (r : Request) (assets : Assets) (n : StyledNode) (e : Element) : Prop :=
  match r.framework with
  | .reactTailwind | .reactTailwindV4 => (React.renderer r assets).Makes n e
  | .htmlCss => (⟨r, assets⟩ : Html.Page).elementOf n = e

theorem Makes.of_react {r : Request} {assets : Assets} {n : StyledNode} {e : Element}
    (h : r.Makes assets n e) (react : r.framework ≠ .htmlCss) :
    (React.renderer r assets).Makes n e := by
  unfold Makes at h
  split at h
  · exact h
  · exact h
  · next html => exact absurd html react

/-- the element of a node carries its data -/
theorem dataOf_of_makes {r : Request} {assets : Assets} {n : StyledNode} {e : Element}
    (h : r.Makes assets n e) : dataOf e.attributes = dataMarkup n.toStyledData := by
  unfold Makes at h
  split at h
  · exact (React.renderer r assets).dataOf_of_makes h
  · exact (React.renderer r assets).dataOf_of_makes h
  · rw [← h]
    exact Html.Page.dataOf_nodeElement ⟨r, assets⟩ n _

/-- the elements of a component are made by the overlaps of the nodes -/
theorem nodeElements_of_react {r : Request} (react : r.framework ≠ .htmlCss) (assets : Assets) :
    nodeElements (r.rootElement? assets).toList
      = (r.root.overlapped none).map (React.renderer r assets).elementOf := by
  unfold rootElement?
  split
  · exact (React.renderer r assets).nodeElements_element? r.root none
  · exact (React.renderer r assets).nodeElements_element? r.root none
  · next html => exact absurd html react

/-- the nodes that are written are made into elements, one by one -/
theorem makes_rootElement? (r : Request) (assets : Assets) :
    List.Forall₂ (r.Makes assets) r.root.written
      (nodeElements (r.rootElement? assets).toList) := by
  unfold Makes rootElement?
  cases r.framework with
  | reactTailwind => exact (React.renderer r assets).makes_element? r.root none
  | reactTailwindV4 => exact (React.renderer r assets).makes_element? r.root none
  | htmlCss =>
    have page := Html.Page.nodeElements_element? ⟨r, assets⟩ r.root
    show List.Forall₂ _ _ (nodeElements (Html.Page.element? ⟨r, assets⟩ r.root).toList)
    rw [page]
    exact List.forall₂_map_right_iff.mpr (List.forall₂_same.mpr fun _ _ => rfl)

end Request
end Handoff
