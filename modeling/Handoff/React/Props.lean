import Handoff.Generation.Attributes
import Handoff.Naming.Unique

/-!
# Props

Texts and images of a component can be handed in as props, with those of the design as defaults.
A prop is named for its layer.

* `fillForm`        how the fills of a node are shown;
* `Props.of`        the props of a tree by the ids of nodes, and the names in use.
-/

namespace Handoff.React

/-- how fills are shown: in the styles, as layers behind the children, or as the element itself -/
inductive FillForm where
  | styled
  | layered
  | image (layer : FillLayer)
deriving Repr, Inhabited

def fillForm (n : StyledNode) : FillForm :=
  if needsLayers n then .layered
  else match n.fills with
    | layer :: _ => if layer.imageRef?.isSome && n.children.isEmpty then .image layer else .styled
    | [] => .styled

/-- a node is an image by itself if that is its only fill and nothing is inside of it -/
theorem of_fillForm_image {n : StyledNode} {layer : FillLayer} (h : fillForm n = .image layer) :
    n.fills = [layer] ∧ layer.imageRef?.isSome = true ∧ n.children = [] := by
  unfold fillForm at h
  split at h
  · cases h
  next single =>
    split at h
    · next fill rest fills =>
      split at h
      · next image =>
        cases h
        have only : rest = [] := by
          unfold needsLayers at single
          rw [fills] at single
          cases rest with
          | nil => rfl
          | cons _ _ => simp at single
        obtain ⟨ref, leaf⟩ := Bool.and_eq_true_iff.mp image
        exact ⟨only ▸ fills, ref, List.isEmpty_iff.mp leaf⟩
      · cases h
    · cases h

/-! ## props -/

inductive PropKind where
  | text
  | image
deriving DecidableEq, Repr, Inhabited

structure Binding where
  name : String
  kind : PropKind
  default : String
deriving Repr, Inhabited

structure Props where
  bindings : Dict Binding := ∅
  used : List String := []
deriving Repr, Inhabited

namespace Props

def bind (ps : Props) (nodeId layer : String) (kind : PropKind) (default : String) : Props :=
  let name := Naming.freshIdentifier ps.used layer
  ⟨ps.bindings.set nodeId ⟨name, kind, default⟩, name :: ps.used⟩

/-- texts of fewer characters stay as they are -/
def minTextLength : Nat := 3

def bindText (ps : Props) (n : StyledData) : Props :=
  match n.characters? with
  | some text =>
    if n.isText && minTextLength ≤ (Chars.trim text.toList).length then
      ps.bind n.id n.name .text text
    else ps
  | none => ps

def bindImage (assets : Assets) (ps : Props) (n : StyledNode) : Props :=
  match fillForm n with
  | .image layer => match layer.imageRef?.bind assets.image? with
    | some url => ps.bind n.id n.name .image url
    | none => ps
  | _ => ps

mutual
/-- adds the props of a node and of those below it; hidden nodes and drawings have none -/
def add (assets : Assets) (ps : Props) (n : StyledNode) : Props :=
  match n with
  | ⟨d, cs⟩ =>
    if !d.isVisible || StyledNode.isDrawn ⟨d, cs⟩ then ps
    else addAll assets (bindImage assets (ps.bindText d) ⟨d, cs⟩) cs
termination_by structural n

def addAll (assets : Assets) (ps : Props) (ns : List StyledNode) : Props :=
  match ns with
  | [] => ps
  | n :: ns => addAll assets (add assets ps n) ns
termination_by structural ns
end

def of (assets : Assets) (root : StyledNode) : Props := add assets {} root

def isEmpty (ps : Props) : Bool := ps.bindings.isEmpty

/-- the prop of a node, if it is of that kind -/
def name? (ps : Props) (nodeId : String) (kind : PropKind) : Option String :=
  match ps.bindings.get? nodeId with
  | some b => if b.kind = kind then some b.name else none
  | none => none

def ofKind (ps : Props) (kind : PropKind) : List Binding :=
  ps.bindings.values.filter fun b => b.kind = kind

end Props
end Handoff.React
