import Handoff.Proofs.Markup.Walk
import Handoff.Proofs.Styled.Overlapped
import Handoff.React.Component
import Mathlib.Data.List.Forall2

/-!
# The elements of a component

The classes of an element depend on what surrounds its node, but the data attributes do not: they
are those of the nodes that are written, in their order, as in a page.  Much else of what is said of
the markup is gathered from its elements, each looked at without those inside of it; so it can be
gathered node by node, from the element that a node has on its own.

* `Renderer.Makes`          the elements that a node can be made into;
* `nodeElements_element?`, `makes_element?`   the elements of a component that are there for nodes;
* `dataLists_element?`      the nodes that a component has elements for;
* `Element.gather`          what is gathered from elements and from all that is inside of them;
* `Shallow`                 looks at an element and not inside of it;
* `gather_element?`         what is gathered from a component, node by node.
-/

namespace Handoff

/-- the classes of an element of a component, as they are written -/
def Element.className? (e : Element) : Option String :=
  e.attributes.findSome? fun a => match a.value with
    | .verbatim classes => if a.name = "className" then some classes else none
    | .text _ | .expression _ | .styles _ => none

namespace React
open StyledNode

namespace Renderer
variable (c : Renderer)

theorem dataOf_classMarkup (classes : List String) : dataOf (c.classMarkup classes) = [] := by
  unfold classMarkup
  dsimp only
  split
  · rfl
  · exact dataOf_eq_nil (by simp [plainNames])

theorem dataOf_maskMarkup (n : StyledData) : dataOf (c.maskMarkup n) = [] := by
  unfold maskMarkup
  split
  · exact dataOf_eq_nil (by simp [plainNames])
  · rfl

theorem dataOf_imageMarkup (n : StyledData) (unnamed : String) (source : AttributeValue) :
    dataOf [altMarkup n unnamed, ⟨"src", source⟩] = [] :=
  dataOf_eq_nil (by simp [altMarkup, plainNames])

theorem dataOf_drawingElement (n : StyledData) :
    dataOf (c.drawingElement n).attributes = dataMarkup n := by
  have own : dataOf (c.classMarkup (drawingClasses n (c.request.styles n))
      ++ [altMarkup n "svg", ⟨"src", c.drawingSource n⟩]) = [] := by
    rw [dataOf_append, dataOf_classMarkup, dataOf_imageMarkup]
    rfl
  show dataOf (dataMarkup n ++ _ ++ _) = _
  rw [List.append_assoc]
  exact dataOf_around n [] _ rfl own

theorem dataOf_imageElement (n : StyledData) (classes : List String) (ref : String)
    (mode : ScaleMode) : dataOf (c.imageElement n classes ref mode).attributes = dataMarkup n := by
  have own : dataOf (c.classMarkup (classes ++ ["object-" ++ mode.objectFit])
      ++ [altMarkup n "image", ⟨"src", c.imageSource n ref⟩]) = [] := by
    rw [dataOf_append, dataOf_classMarkup, dataOf_imageMarkup]
    rfl
  show dataOf (dataMarkup n ++ _ ++ _) = _
  rw [List.append_assoc]
  exact dataOf_around n [] _ rfl own

theorem dataOf_boxMarkup (n : StyledData) (classes : List String) :
    dataOf (dataMarkup n ++ c.classMarkup classes ++ c.maskMarkup n) = dataMarkup n := by
  have own : dataOf (c.classMarkup classes ++ c.maskMarkup n) = [] := by
    rw [dataOf_append, dataOf_classMarkup, dataOf_maskMarkup]
    rfl
  rw [List.append_assoc]
  exact dataOf_around n [] _ rfl own

theorem dataOf_textMarkup (n : StyledData) (classes : List String) :
    dataOf (dataMarkup n ++ c.classMarkup classes) = dataMarkup n :=
  dataOf_around n [] _ rfl (c.dataOf_classMarkup classes)

theorem dataOf_boxElement (n : StyledNode) (classes : List String) (es : List Element) :
    dataOf (c.boxElement n classes es).attributes = dataMarkup n.toStyledData := by
  unfold boxElement
  dsimp only
  split
  · exact c.dataOf_boxMarkup ..
  · split <;> exact c.dataOf_boxMarkup ..

/-- the element of a node carries its data -/
theorem dataOf_nodeElement (overlap : Option Overlap) (n : StyledNode) (es : List Element) :
    dataOf (c.nodeElement overlap n es).attributes = dataMarkup n.toStyledData := by
  unfold nodeElement
  dsimp only
  split
  · exact c.dataOf_textMarkup ..
  · split
    · exact c.dataOf_imageElement ..
    · exact c.dataOf_boxElement ..

/-! ## what is inside of an element -/

theorem dataLists_layersElement (n : StyledData) : dataLists [c.layersElement n] = [] := by
  have layers (corners : String) (l : List FillLayer) :
      ∀ as ∈ attributeLists (l.map (c.layerElement n corners)), dataOf as = [] := by
    induction l with
    | nil => exact List.forall_mem_nil _
    | cons layer l ih =>
      rw [List.map_cons, attributeLists_cons]
      refine List.forall_mem_append.mpr ⟨?_, ih⟩
      unfold layerElement
      cases layer.kind <;>
        exact List.forall_mem_singleton.mpr
          (dataOf_eq_nil (by simp [Element.attributes, plainNames]))
  unfold layersElement
  split
  rw [dataLists, attributeLists_block]
  exact dataIn_eq_nil
    (List.forall_mem_cons.mpr ⟨dataOf_eq_nil (by simp [plainNames]), layers _ _⟩)

theorem nodeElements_boxElement (n : StyledNode) (classes : List String) (es : List Element)
    (h : n.children = [] → es = []) :
    nodeElements [c.boxElement n classes es] = c.boxElement n classes es :: nodeElements es := by
  have own := c.dataOf_boxMarkup n.toStyledData classes
  unfold boxElement
  dsimp only
  split
  · rw [nodeElements_block own, nodeElements_cons_of_plain (c.dataLists_layersElement _)]
  · split
    · next e =>
      rw [nodeElements_closed own, h (List.isEmpty_iff.mp e)]
      rfl
    · rw [nodeElements_block own]

theorem nodeElements_nodeElement (overlap : Option Overlap) (n : StyledNode) (es : List Element)
    (h : n.children = [] → es = []) :
    nodeElements [c.nodeElement overlap n es]
      = c.nodeElement overlap n es :: if n.isText then [] else nodeElements es := by
  unfold nodeElement
  dsimp only
  cases n.isText with
  | true => exact nodeElements_leaf (c.dataOf_textMarkup ..) ..
  | false =>
    rw [if_neg Bool.false_ne_true, if_neg Bool.false_ne_true]
    split
    · next e =>
      rw [h (of_fillForm_image e).2.2]
      exact nodeElements_closed (c.dataOf_imageElement ..) _
    · exact nodeElements_boxElement c n _ es h

/-- fills that need elements of their own come before the elements of the children -/
theorem nodeElement_layered {n : StyledNode} (text : n.isText = false) (h : fillForm n = .layered)
    (overlap : Option Overlap) (es : List Element) :
    c.nodeElement overlap n es = .block (elementTag n.toStyledData)
      (dataMarkup n.toStyledData ++ c.classMarkup (c.elementClasses overlap n (c.shownStyles n))
        ++ c.maskMarkup n.toStyledData)
      (c.layersElement n.toStyledData :: es) := by
  unfold nodeElement boxElement
  rw [text, h]
  rfl

/-- an element has the data and the classes of its node; an image has one class more -/
theorem attributes_nodeElement (overlap : Option Overlap) (n : StyledNode) (es : List Element) :
    ∃ fit rest, (∀ cls ∈ fit, ∃ mode : ScaleMode, cls = "object-" ++ mode.objectFit) ∧
      (c.nodeElement overlap n es).attributes = dataMarkup n.toStyledData
        ++ c.classMarkup (c.elementClasses overlap n (c.shownStyles n) ++ fit) ++ rest := by
  unfold nodeElement
  dsimp only
  split
  · exact ⟨[], [], List.forall_mem_nil _, by simp [Element.attributes]⟩
  · split
    · next mode _ => exact ⟨_, _, List.forall_mem_singleton.mpr ⟨mode, rfl⟩, rfl⟩
    · refine ⟨[], c.maskMarkup n.toStyledData, List.forall_mem_nil _, ?_⟩
      rw [List.append_nil]
      unfold boxElement
      dsimp only
      split
      · rfl
      · split <;> rfl

/-- the elements that a node can be made into; `overlap` depends on its siblings -/
inductive Makes (n : StyledNode) : Element → Prop
  | drawing (drawn : n.isDrawn = true) : Makes n (c.drawingElement n.toStyledData)
  | node (plain : n.isDrawn = false) (overlap : Option Overlap) :
      Makes n (c.nodeElement overlap n (c.elements n.overlap n.children))

theorem dataOf_of_makes {n : StyledNode} {e : Element} (h : c.Makes n e) :
    dataOf e.attributes = dataMarkup n.toStyledData := by
  cases h with
  | drawing drawn => exact c.dataOf_drawingElement _
  | node plain overlap => exact c.dataOf_nodeElement ..

theorem Makes.exists_overlap {n : StyledNode} {e : Element} (h : c.Makes n e)
    (undrawn : n.isDrawn = false) :
    ∃ overlap, e = c.nodeElement overlap n (c.elements n.overlap n.children) := by
  cases h with
  | drawing drawn =>
    rw [undrawn] at drawn
    cases drawn
  | node _ overlap => exact ⟨overlap, rfl⟩

/-- the element that a node is made into, beside how far its next sibling reaches over it -/
def elementOf (entry : Option Overlap × StyledNode) : Element :=
  if entry.2.isDrawn then c.drawingElement entry.2.toStyledData
  else c.nodeElement entry.1 entry.2 (c.elements entry.2.overlap entry.2.children)

theorem makes_elementOf (entry : Option Overlap × StyledNode) :
    c.Makes entry.2 (c.elementOf entry) := by
  unfold elementOf
  split
  · next drawn => exact .drawing drawn
  · next plain => exact .node (Bool.eq_false_iff.mpr plain) entry.1

/-- the nodes that are written are made into elements by the overlaps that they have -/
theorem nodeElements_element? (n : StyledNode) : ∀ overlap : Option Overlap,
    nodeElements (c.element? overlap n).toList = (n.overlapped overlap).map c.elementOf := by
  induction n using forest
    (Q := fun ns => ∀ overlap : Option Overlap,
      nodeElements (c.elements overlap ns) = (overlappedAll overlap ns).map c.elementOf) with
  | node d cs ih =>
    intro overlap
    have none_of_none : cs = [] → c.elements d.overlap cs = [] := fun e => by rw [e]; rfl
    unfold element?
    cases rendered : d.isRendered with
    | false => rw [overlapped_hidden rendered]; rfl
    | true =>
      simp only [Bool.not_true, Bool.false_eq_true, if_false]
      cases drawn : isDrawn ⟨d, cs⟩ with
      | true =>
        rw [overlapped_leaf rendered (by rw [drawn]; rfl), if_pos rfl, Option.toList_some,
          List.map_singleton, elementOf, drawn, if_pos rfl]
        exact nodeElements_closed (c.dataOf_drawingElement d) _
      | false =>
        have own : c.elementOf (overlap, ⟨d, cs⟩)
            = c.nodeElement overlap ⟨d, cs⟩ (c.elements d.overlap cs) :=
          if_neg (by rw [drawn]; decide)
        rw [if_neg Bool.false_ne_true, Option.toList_some,
          nodeElements_nodeElement c overlap ⟨d, cs⟩ _ none_of_none]
        show _ :: (if d.isText then [] else _) = _
        cases text : d.isText with
        | true =>
          rw [overlapped_leaf rendered (by rw [drawn, text]; rfl), List.map_singleton, own]
          rfl
        | false =>
          rw [overlapped_box rendered (by rw [drawn, text]; rfl), List.map_cons, own,
            if_neg Bool.false_ne_true, ih]
  | nil _ => rfl
  | cons n ns ih ihs overlap =>
    show nodeElements ((c.element? (if ns.isEmpty then none else overlap) n).toList
        ++ c.elements overlap ns)
      = (n.overlapped (if ns.isEmpty then none else overlap) ++ overlappedAll overlap ns).map _
    rw [nodeElements_append, ih, ihs, List.map_append]

/-- the nodes that are written are made into elements, one by one -/
theorem makes_element? (n : StyledNode) (overlap : Option Overlap) :
    List.Forall₂ c.Makes n.written (nodeElements (c.element? overlap n).toList) := by
  rw [c.nodeElements_element?, ← map_snd_overlapped n overlap]
  exact List.forall₂_map_left_iff.mpr (List.forall₂_map_right_iff.mpr
    (List.forall₂_same.mpr fun entry _ => c.makes_elementOf entry))

/-- a component has elements for the nodes that are written, in their order -/
theorem dataLists_element? (n : StyledNode) (overlap : Option Overlap) :
    dataLists (c.element? overlap n).toList = n.written.map fun m => dataMarkup m.toStyledData := by
  rw [dataLists_eq_map]
  have each := c.makes_element? n overlap
  generalize n.written = ns at each ⊢
  generalize nodeElements (c.element? overlap n).toList = es at each ⊢
  induction each with
  | nil => rfl
  | cons made _ ih => rw [List.map_cons, List.map_cons, c.dataOf_of_makes made, ih]

end Renderer
end React

/-! ## what is found in a component, node by node -/

/-- what is gathered from elements and from all that is inside of them -/
def Element.gather {β : Type} (f : Element → List β) (es : List Element) : List β :=
  (Element.preOrderAll es).flatMap f

/-- looks at an element and not inside of it -/
def Shallow {β : Type} (f : Element → List β) : Prop :=
  ∀ tag as es es', f (.block tag as es) = f (.block tag as es')

namespace Element
variable {β : Type} {f : Element → List β}

theorem gather_append (a b : List Element) : gather f (a ++ b) = gather f a ++ gather f b := by
  unfold gather
  rw [preOrderAll_append, List.flatMap_append]

theorem gather_cons (e : Element) (es : List Element) :
    gather f (e :: es) = gather f [e] ++ gather f es := gather_append [e] es

theorem gather_closed (tag : String) (as : List Attribute) :
    gather f [.closed tag as] = f (.closed tag as) := List.append_nil _

theorem gather_leaf (tag : String) (as : List Attribute) (content : Content) :
    gather f [.leaf tag as content] = f (.leaf tag as content) := List.append_nil _

theorem gather_block (shallow : Shallow f) (tag : String) (as : List Attribute)
    (es : List Element) : gather f [.block tag as es] = f (.block tag as []) ++ gather f es := by
  show ((_ :: preOrderAll es) ++ []).flatMap _ = _
  rw [List.append_nil, List.flatMap_cons, shallow tag as es []]
  rfl

end Element

namespace React.Renderer
open StyledNode Element

variable (c : Renderer) {β : Type} {f : Element → List β} (shallow : Shallow f)

/-- the element of a node, without those of its children -/
def ownElement (entry : Option Overlap × StyledNode) : Element :=
  if entry.2.isDrawn then c.drawingElement entry.2.toStyledData
  else c.nodeElement entry.1 entry.2 []

include shallow

theorem gather_boxElement (n : StyledNode) (classes : List String) {es : List Element}
    (h : n.children = [] → es = []) :
    gather f [c.boxElement n classes es] = gather f [c.boxElement n classes []] ++ gather f es := by
  unfold boxElement
  dsimp only
  split
  · rw [gather_block shallow, gather_block shallow, gather_cons]
    exact (List.append_assoc ..).symm
  · split
    · next empty =>
      rw [h (List.isEmpty_iff.mp empty)]
      exact (List.append_nil _).symm
    · rw [gather_block shallow, gather_block shallow]
      exact congrArg (· ++ _) (List.append_nil _).symm

theorem gather_nodeElement (overlap : Option Overlap) (n : StyledNode) {es : List Element}
    (h : n.children = [] → es = []) :
    gather f [c.nodeElement overlap n es]
      = gather f [c.nodeElement overlap n []] ++ if n.isText then [] else gather f es := by
  unfold nodeElement
  dsimp only
  cases n.isText with
  | true => exact (List.append_nil _).symm
  | false =>
    simp only [Bool.false_eq_true, if_false]
    split
    · next form =>
      rw [h (of_fillForm_image form).2.2]
      exact (List.append_nil _).symm
    · exact c.gather_boxElement shallow n _ h

/-- what is gathered from a component, one node after the other -/
theorem gather_element? (n : StyledNode) : ∀ overlap, gather f (c.element? overlap n).toList
    = (n.overlapped overlap).flatMap fun entry => gather f [c.ownElement entry] := by
  induction n using forest (Q := fun ns => ∀ overlap, gather f (c.elements overlap ns)
    = (overlappedAll overlap ns).flatMap fun entry => gather f [c.ownElement entry]) with
  | node d cs ih =>
    intro overlap
    unfold element?
    cases rendered : d.isRendered with
    | false => rw [overlapped_hidden rendered]; rfl
    | true =>
      simp only [Bool.not_true, Bool.false_eq_true, if_false]
      cases drawn : isDrawn ⟨d, cs⟩ with
      | true =>
        rw [overlapped_leaf rendered (by rw [drawn]; rfl), if_pos rfl, List.flatMap_singleton,
          ownElement, drawn]
        rfl
      | false =>
        have inside : cs = [] → c.elements d.overlap cs = [] := fun e => by rw [e]; rfl
        have own : c.ownElement (overlap, ⟨d, cs⟩) = c.nodeElement overlap ⟨d, cs⟩ [] :=
          if_neg (by rw [drawn]; decide)
        rw [if_neg Bool.false_ne_true]
        refine (c.gather_nodeElement shallow overlap ⟨d, cs⟩ inside).trans ?_
        show _ ++ (if d.isText then [] else _) = _
        cases text : d.isText with
        | true =>
          rw [overlapped_leaf rendered (by rw [drawn, text]; rfl), List.flatMap_singleton, own]
          exact List.append_nil _
        | false =>
          rw [overlapped_box rendered (by rw [drawn, text]; rfl), List.flatMap_cons, own, ← ih]
          rfl
  | nil _ => rfl
  | cons n ns ih ihs overlap =>
    show gather f ((c.element? (if ns.isEmpty then none else overlap) n).toList
      ++ c.elements overlap ns) = (n.overlapped _ ++ overlappedAll overlap ns).flatMap _
    rw [gather_append, ih, ihs, List.flatMap_append]

end React.Renderer
end Handoff
