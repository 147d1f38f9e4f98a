import Handoff.Proofs.Markup.Walk
import Handoff.Proofs.Styled.Written
import Handoff.React.Component

/-!
# Expressions in the markup of a component

What stands between braces in the markup is a name.  Three functions write such names, each for one
node: the source of a drawing, the content of a text, and the source of an image.

* `codesIn`                  the names in several elements and in all that is inside of them;
* `Renderer.Mentions`        a node is shown by a name;
* `mentions_of_mem_codes`    every name in the markup is there for a node that is written.
-/

namespace Handoff

/-- what stands between braces, if it is a name -/
def Attribute.code? (a : Attribute) : Option String :=
  match a.value with
  | .expression code => some code
  | _ => none

/-- the names in an element itself -/
def Element.codes : Element → List String
  | .closed _ as | .block _ as _ => as.filterMap Attribute.code?
  | .leaf _ as (.expression code) => as.filterMap Attribute.code? ++ [code]
  | .leaf _ as _ => as.filterMap Attribute.code?

def codesIn (es : List Element) : List String := (Element.preOrderAll es).flatMap Element.codes

theorem codesIn_append (a b : List Element) : codesIn (a ++ b) = codesIn a ++ codesIn b := by
  unfold codesIn
  rw [Element.preOrderAll_append, List.flatMap_append]

theorem codesIn_cons (e : Element) (es : List Element) :
    codesIn (e :: es) = codesIn [e] ++ codesIn es := codesIn_append [e] es

theorem codesIn_closed (tag : String) (as : List Attribute) :
    codesIn [.closed tag as] = as.filterMap Attribute.code? := List.append_nil _

theorem codesIn_leaf (tag : String) (as : List Attribute) (content : Content) :
    codesIn [.leaf tag as content] = (Element.leaf tag as content).codes := List.append_nil _

theorem codesIn_block (tag : String) (as : List Attribute) (es : List Element) :
    codesIn [.block tag as es] = as.filterMap Attribute.code? ++ codesIn es := by
  show ((_ :: Element.preOrderAll es) ++ []).flatMap _ = _
  rw [List.append_nil, List.flatMap_cons]
  rfl

namespace React
open StyledNode

namespace Renderer
variable (c : Renderer)

/-- a node is shown by a name -/
inductive Mentions (n : StyledNode) (x : String) : Prop
  | drawing (drawn : n.isDrawn = true) (source : c.drawingSource n.toStyledData = .expression x)
  | text (plain : n.isDrawn = false) (content : c.textContent n.toStyledData = .expression x)
  | image (plain : n.isDrawn = false) (ref : String)
      (source : c.imageSource n.toStyledData ref = .expression x)

theorem codes_dataMarkup (n : StyledData) : (dataMarkup n).filterMap Attribute.code? = [] := by
  refine List.filterMap_eq_nil_iff.mpr fun a ha => ?_
  obtain ⟨e, _, rfl⟩ := List.mem_map.mp ha
  rfl

theorem codes_classMarkup (classes : List String) :
    (c.classMarkup classes).filterMap Attribute.code? = [] := by
  unfold classMarkup
  dsimp only
  split <;> rfl

theorem codes_maskMarkup (n : StyledData) :
    (c.maskMarkup n).filterMap Attribute.code? = [] := by
  unfold maskMarkup
  split <;> rfl

/-- the only attribute of an image that is a name is its source -/
theorem source_of_mem_codes {n : StyledData} {classes : List String} {unnamed x : String}
    {source : AttributeValue}
    (h : x ∈ codesIn [.closed "img" (dataMarkup n ++ c.classMarkup classes
      ++ [altMarkup n unnamed, ⟨"src", source⟩])]) : source = .expression x := by
  rw [codesIn_closed, List.filterMap_append, List.filterMap_append, codes_dataMarkup,
    codes_classMarkup] at h
  cases source with
  | expression code => rw [List.mem_singleton.mp h]
  | text | verbatim | styles => exact absurd h List.not_mem_nil

theorem codesIn_layersElement (n : StyledData) : codesIn [c.layersElement n] = [] := by
  have layers (corners : String) (l : List FillLayer) :
      codesIn (l.map (c.layerElement n corners)) = [] := by
    induction l with
    | nil => rfl
    | cons layer l ih =>
      rw [List.map_cons, codesIn_cons, ih, List.append_nil]
      unfold layerElement
      cases layer.kind <;> rfl
  unfold layersElement
  split
  rw [codesIn_block, layers]
  rfl

theorem mem_codes_boxElement {n : StyledNode} {classes : List String} {es : List Element}
    {x : String} (h : x ∈ codesIn [c.boxElement n classes es]) : x ∈ codesIn es := by
  have plain : (dataMarkup n.toStyledData ++ c.classMarkup classes
      ++ c.maskMarkup n.toStyledData).filterMap Attribute.code? = [] := by
    rw [List.filterMap_append, List.filterMap_append, codes_dataMarkup, codes_classMarkup,
      codes_maskMarkup]
    rfl
  unfold boxElement at h
  dsimp only at h
  split at h
  · rw [codesIn_block, plain, codesIn_cons, codesIn_layersElement] at h
    exact h
  · split at h
    · rw [codesIn_closed, plain] at h
      exact absurd h List.not_mem_nil
    · rw [codesIn_block, plain] at h
      exact h

theorem mem_codes_nodeElement {overlap : Option Overlap} {n : StyledNode} {es : List Element}
    {x : String} (plain : n.isDrawn = false) (h : x ∈ codesIn [c.nodeElement overlap n es]) :
    c.Mentions n x ∨ n.isText = false ∧ x ∈ codesIn es := by
  unfold nodeElement at h
  dsimp only at h
  cases text : n.isText with
  | true =>
    rw [text, if_pos rfl, codesIn_leaf] at h
    left
    refine .text plain ?_
    have attributes : ∀ classes, (dataMarkup n.toStyledData ++ c.classMarkup classes).filterMap
        Attribute.code? = [] := fun classes => by
      rw [List.filterMap_append, codes_dataMarkup, codes_classMarkup]
      rfl
    cases content : c.textContent n.toStyledData with
    | expression code =>
      rw [content, Element.codes, attributes] at h
      rw [List.mem_singleton.mp h]
    | text | empty =>
      rw [content, Element.codes, attributes] at h
      · exact absurd h List.not_mem_nil
      · simp
  | false =>
    rw [text, if_neg Bool.false_ne_true] at h
    split at h
    · exact .inl (.image plain _ (c.source_of_mem_codes h))
    · exact .inr ⟨rfl, c.mem_codes_boxElement h⟩

/-- every name in the markup is there for a node that is written -/
theorem mentions_of_mem_codes (n : StyledNode) : ∀ overlap x,
    x ∈ codesIn (c.element? overlap n).toList → ∃ m ∈ n.written, c.Mentions m x := by
  induction n using forest (Q := fun ns => ∀ overlap x, x ∈ codesIn (c.elements overlap ns) →
    ∃ m ∈ writtenAll ns, c.Mentions m x) with
  | node d cs ih =>
    intro overlap x hx
    unfold element? at hx
    cases rendered : d.isRendered with
    | false =>
      rw [rendered] at hx
      exact absurd hx List.not_mem_nil
    | true =>
      rw [rendered] at hx
      simp only [Bool.not_true, Bool.false_eq_true, if_false] at hx
      cases drawn : isDrawn ⟨d, cs⟩ with
      | true =>
        rw [drawn, if_pos rfl] at hx
        exact ⟨⟨d, cs⟩, mem_written_self rendered, .drawing drawn (c.source_of_mem_codes hx)⟩
      | false =>
        rw [drawn, if_neg Bool.false_ne_true] at hx
        rcases c.mem_codes_nodeElement drawn hx with own | ⟨text, inside⟩
        · exact ⟨⟨d, cs⟩, mem_written_self rendered, own⟩
        · obtain ⟨m, hm, mentions⟩ := ih d.overlap x inside
          have text : d.isText = false := text
          rw [written_box rendered (by rw [drawn, text]; rfl)]
          exact ⟨m, List.mem_cons_of_mem _ hm, mentions⟩
  | nil overlap x hx => exact absurd hx List.not_mem_nil
  | cons n ns ih ihs overlap x hx =>
    have hx : x ∈ codesIn ((c.element? (if ns.isEmpty then none else overlap) n).toList
      ++ c.elements overlap ns) := hx
    rw [codesIn_append] at hx
    rcases List.mem_append.mp hx with hx | hx
    · obtain ⟨m, hm, mentions⟩ := ih _ x hx
      exact ⟨m, List.mem_append_left _ hm, mentions⟩
    · obtain ⟨m, hm, mentions⟩ := ihs overlap x hx
      exact ⟨m, List.mem_append_right _ hm, mentions⟩

end Renderer
end React
end Handoff
