import Handoff.Html.Page
import Handoff.Proofs.Markup.Walk
import Handoff.Proofs.Styled.Written

/-!
# The elements of a page

An element is made around the elements of its children.  What it has of its own is what is left when
there are none, so a page is made of the own parts of the nodes that are written.

* `attributeLists_nodeElement`   an element is its own part, and what is inside of it;
* `attributeLists_element?`      the attributes of a page, node by node;
* `nodeElements_element?`        the elements of a page that are there for nodes;
* `dataLists_element?`           the nodes that a page has elements for.
-/

namespace Handoff.Html
open StyledNode

theorem form_of_drawn {n : StyledNode} (h : n.isDrawn = true) : form n = .drawing := if_pos h

theorem form_of_not_drawn {n : StyledNode} (h : n.isDrawn = false) :
    form n = match soleImage? n with
      | some ref => .image ref
      | none => if n.isText then .text else .box (needsLayers n) :=
  if_neg (Bool.eq_false_iff.mp h)

theorem children_of_soleImage? {n : StyledNode} {ref : String} (h : soleImage? n = some ref) :
    n.children = [] := by
  unfold soleImage? at h
  split at h
  · next e => exact e
  · cases h

namespace Page
variable (p : Page)

/-- the attributes of the elements that a node has of its own: first those of its element, then
those of its layers -/
def ownLists (n : StyledNode) : List (List Attribute) := attributeLists [p.nodeElement n []]

theorem attributeLists_nodeElement (n : StyledNode) (es : List Element)
    (h : n.children = [] → es = []) :
    attributeLists [p.nodeElement n es] = p.ownLists n
      ++ if n.isDrawn || n.isText then [] else attributeLists es := by
  unfold ownLists
  cases drawn : n.isDrawn with
  | true =>
    unfold nodeElement
    rw [form_of_drawn drawn, Bool.true_or, if_pos rfl, List.append_nil]
  | false =>
    cases image : soleImage? n with
    | some ref =>
      rw [h (children_of_soleImage? image), attributeLists_nil, ite_self, List.append_nil]
    | none =>
      have hform := form_of_not_drawn drawn
      rw [image] at hform
      unfold nodeElement
      rw [hform, Bool.false_or]
      cases n.isText with
      | true =>
        dsimp only
        rw [if_pos rfl, if_pos rfl, List.append_nil]
      | false =>
        cases needsLayers n with
        | true =>
          dsimp only
          simp only [Bool.false_eq_true, if_false]
          rw [attributeLists_block, attributeLists_block, attributeLists_cons]
          rfl
        | false =>
          simp only [Bool.false_eq_true, if_false]
          split
          · next e => rw [h (List.isEmpty_iff.mp e)]; rfl
          · rw [attributeLists_block, attributeLists_block]
            rfl

theorem attributeLists_element? (n : StyledNode) :
    attributeLists (p.element? n).toList = n.written.flatMap p.ownLists := by
  induction n using forest
    (Q := fun ns => attributeLists (p.elements ns) = (writtenAll ns).flatMap p.ownLists) with
  | node d cs ih =>
    have none_of_none : cs = [] → p.elements cs = [] := fun e => by rw [e]; rfl
    cases rendered : d.isRendered with
    | false =>
      rw [written_hidden rendered, element?, rendered]
      rfl
    | true =>
      rw [element?, rendered, if_pos rfl]
      show attributeLists [p.nodeElement ⟨d, cs⟩ (p.elements cs)] = _
      rw [attributeLists_nodeElement p ⟨d, cs⟩ _ none_of_none]
      cases leaf : isDrawn ⟨d, cs⟩ || d.isText with
      | true =>
        rw [written_leaf rendered leaf, if_pos rfl, List.flatMap_singleton, List.append_nil]
      | false =>
        rw [written_box rendered leaf, if_neg Bool.false_ne_true, List.flatMap_cons, ih]
  | nil => rfl
  | cons n ns ih ihs =>
    show attributeLists ((p.element? n).toList ++ p.elements ns)
      = (n.written ++ writtenAll ns).flatMap p.ownLists
    rw [attributeLists_append, ih, ihs, List.flatMap_append]

/-! ## the own part of a node -/

def layersMarkup (n : StyledData) : List Attribute :=
  [⟨"class", .verbatim (layersClass n)⟩, ⟨"aria-hidden", .text "true"⟩]

theorem attributeLists_layersElement (n : StyledData) :
    attributeLists [p.layersElement n]
      = layersMarkup n :: n.fills.zipIdx.map fun e => (p.layerElement n e.1 e.2).attributes := by
  have layers (l : List (FillLayer × Nat)) :
      attributeLists (l.map fun e => p.layerElement n e.1 e.2)
        = l.map fun e => (p.layerElement n e.1 e.2).attributes := by
    induction l with
    | nil => rfl
    | cons e l ih =>
      rw [List.map_cons, attributeLists_cons, ih, List.map_cons]
      unfold layerElement
      cases e.1.kind <;> rfl
  rw [layersElement, attributeLists_block, layers]
  rfl

/-- the first of its own elements is the element of the node, the others are its layers -/
theorem ownLists_eq (n : StyledNode) : ∃ others, dataOf others = [] ∧
    p.ownLists n = (p.classMarkup n.toStyledData :: dataMarkup n.toStyledData ++ others)
      :: if form n = .box true then attributeLists [p.layersElement n.toStyledData] else [] := by
  have image (alt : String) (source : AttributeValue) :
      dataOf [⟨"alt", .text alt⟩, ⟨"src", source⟩] = [] := dataOf_eq_nil (by simp [plainNames])
  unfold ownLists nodeElement
  cases form n with
  | drawing => exact ⟨_, image _ _, rfl⟩
  | image ref => exact ⟨_, image _ _, rfl⟩
  | text => exact ⟨[], rfl, by rw [List.append_nil]; rfl⟩
  | box layered =>
    refine ⟨[], rfl, ?_⟩
    cases layered with
    | true => rw [if_pos rfl, List.append_nil]; exact attributeLists_block ..
    | false =>
      rw [List.append_nil, if_neg (by decide)]
      dsimp only
      split <;> rfl

theorem dataLists_layersElement (n : StyledData) : dataLists [p.layersElement n] = [] := by
  rw [dataLists, attributeLists_layersElement]
  refine dataIn_eq_nil
    (List.forall_mem_cons.mpr ⟨dataOf_eq_nil (by simp [layersMarkup, plainNames]), ?_⟩)
  intro as has
  obtain ⟨e, _, rfl⟩ := List.mem_map.mp has
  unfold layerElement
  cases e.1.kind <;> exact dataOf_eq_nil (by simp [Element.attributes, plainNames])

/-! ## elements for nodes -/

theorem dataOf_classMarkup (n : StyledData) : dataOf [p.classMarkup n] = [] :=
  dataOf_eq_nil (by simp [classMarkup, plainNames])

theorem dataOf_imageMarkup (n : StyledData) (source : AttributeValue) :
    dataOf (p.imageMarkup n source).attributes = dataMarkup n :=
  dataOf_around n [_] _ (p.dataOf_classMarkup n) (dataOf_eq_nil (by simp [plainNames]))

theorem dataOf_ownMarkup (n : StyledData) :
    dataOf (p.classMarkup n :: dataMarkup n) = dataMarkup n := by
  have own := dataOf_around n [_] [] (p.dataOf_classMarkup n) rfl
  rw [List.append_nil] at own
  exact own

/-- the element of a node carries its data -/
theorem dataOf_nodeElement (n : StyledNode) (es : List Element) :
    dataOf (p.nodeElement n es).attributes = dataMarkup n.toStyledData := by
  unfold nodeElement
  cases form n with
  | drawing => exact p.dataOf_imageMarkup ..
  | image ref => exact p.dataOf_imageMarkup ..
  | text => exact p.dataOf_ownMarkup _
  | box layered =>
    cases layered with
    | true => exact p.dataOf_ownMarkup _
    | false =>
      dsimp only
      split <;> exact p.dataOf_ownMarkup _

/-- what is inside of the element of a node, where it has an element around it -/
theorem nodeElements_nodeElement (n : StyledNode) (es : List Element)
    (h : n.children = [] → es = []) :
    nodeElements [p.nodeElement n es]
      = p.nodeElement n es :: if n.isDrawn || n.isText then [] else nodeElements es := by
  have own := p.dataOf_ownMarkup n.toStyledData
  have image (source : AttributeValue) : nodeElements [p.imageMarkup n.toStyledData source]
      = [p.imageMarkup n.toStyledData source] := nodeElements_closed (p.dataOf_imageMarkup ..) _
  cases drawn : n.isDrawn with
  | true =>
    unfold nodeElement
    rw [form_of_drawn drawn, Bool.true_or, if_pos rfl]
    exact image _
  | false =>
    cases sole : soleImage? n with
    | some ref =>
      have form : form n = .image ref := by rw [form_of_not_drawn drawn, sole]
      have inside : nodeElements es = [] := by rw [h (children_of_soleImage? sole)]; rfl
      rw [inside, ite_self]
      unfold nodeElement
      rw [form]
      exact image _
    | none =>
      have form := form_of_not_drawn drawn
      rw [sole] at form
      unfold nodeElement
      rw [form, Bool.false_or]
      cases n.isText with
      | true => exact nodeElements_leaf own ..
      | false =>
        cases needsLayers n with
        | true =>
          dsimp only
          simp only [Bool.false_eq_true, if_false]
          rw [nodeElements_block own, nodeElements_cons_of_plain (p.dataLists_layersElement _)]
        | false =>
          simp only [Bool.false_eq_true, if_false]
          split
          · next e =>
            rw [nodeElements_leaf own, h (List.isEmpty_iff.mp e)]
            rfl
          · rw [nodeElements_block own]

/-- the element that a node is made into -/
def elementOf (n : StyledNode) : Element := p.nodeElement n (p.elements n.children)

/-- fills that need elements of their own come before the elements of the children -/
theorem elementOf_layered {n : StyledNode} (h : form n = .box true) :
    p.elementOf n = .block (elementTag n.toStyledData)
      (p.classMarkup n.toStyledData :: dataMarkup n.toStyledData)
      (p.layersElement n.toStyledData :: p.elements n.children) := by
  unfold elementOf nodeElement
  rw [h]

/-- the nodes that are written are made into elements, one by one -/
theorem nodeElements_element? (n : StyledNode) :
    nodeElements (p.element? n).toList = n.written.map p.elementOf := by
  induction n using forest
    (Q := fun ns => nodeElements (p.elements ns) = (writtenAll ns).map p.elementOf) with
  | node d cs ih =>
    have none_of_none : cs = [] → p.elements cs = [] := fun e => by rw [e]; rfl
    cases rendered : d.isRendered with
    | false =>
      rw [written_hidden rendered, element?, rendered]
      rfl
    | true =>
      rw [element?, rendered, if_pos rfl]
      show nodeElements [p.nodeElement ⟨d, cs⟩ (p.elements cs)] = _
      rw [nodeElements_nodeElement p ⟨d, cs⟩ _ none_of_none]
      cases leaf : isDrawn ⟨d, cs⟩ || d.isText with
      | true => rw [written_leaf rendered leaf, if_pos rfl]; rfl
      | false =>
        rw [written_box rendered leaf, if_neg Bool.false_ne_true, ih]
        rfl
  | nil => rfl
  | cons n ns ih ihs =>
    show nodeElements ((p.element? n).toList ++ p.elements ns)
      = (n.written ++ writtenAll ns).map p.elementOf
    rw [nodeElements_append, ih, ihs, List.map_append]

/-- a page has elements for the nodes that are written, in their order -/
theorem dataLists_element? (n : StyledNode) :
    dataLists (p.element? n).toList = n.written.map fun m => dataMarkup m.toStyledData := by
  rw [dataLists_eq_map, nodeElements_element?, List.map_map]
  exact List.map_congr_left fun m _ => p.dataOf_nodeElement m _

end Page
end Handoff.Html
