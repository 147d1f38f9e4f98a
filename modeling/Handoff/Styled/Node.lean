import Handoff.Design.Node
import Handoff.Style

/-!
# Styled nodes

A styled node is a design node together with all that was worked out for its place in the output:
a name, styles, fill layers, and the data of an image or a drawing.  Vectors have a drawing and no
children.

* `StyledNode.preOrder`   a node and its descendants;
* `StyledNode.size`       how many these are;
* `StyledNode.isDrawn`    whether a node is one drawing;
* `StyledNode.emitted`    the nodes that become elements, each before those below it.
-/

namespace Handoff

inductive FillKind where
  | solid (color : Color)
  /-- a gradient in CSS -/
  | gradient (css : String)
  | image (ref : String) (scaleMode : ScaleMode)
deriving Repr, Inhabited

/-- a visible fill, of those from the bottom to the top -/
structure FillLayer where
  opacity : Float
  kind : FillKind
deriving Repr, Inhabited

def FillLayer.imageRef? (l : FillLayer) : Option String :=
  match l.kind with
  | .image ref _ => some ref
  | _ => none

/-- the topmost image among the fills of a node -/
structure ImageUse where
  ref : String
  nodeId : String
  scaleMode : ScaleMode
deriving Repr, Inhabited

/-- outlines and paints from which a vector can be drawn -/
structure Drawing where
  fillOutlines : List OutlinePath := []
  strokeOutlines : List OutlinePath := []
  fills : List Paint := []
  strokes : List Paint := []
  strokeWeight : Float := 0.0
  width : Float := 0.0
  height : Float := 0.0
deriving Repr, Inhabited

inductive Direction where
  | row
  | column
deriving DecidableEq, Repr, Inhabited

def Direction.name : Direction → String
  | .row => "row"
  | .column => "column"

/-- children that overlap, which a gap cannot express -/
structure Overlap where
  value : Float
  direction : Direction
deriving Repr, Inhabited

/-- styles that begin to hold at the middle and at the large width -/
structure ResponsiveStyles where
  md : Option Styles := none
  lg : Option Styles := none
deriving Repr, Inhabited

/-- the widths at which a node is there -/
structure Presence where
  mobile : Bool
  tablet : Bool
  desktop : Bool
deriving DecidableEq, Repr, Inhabited

namespace Presence

def isAnywhere (p : Presence) : Bool := p.mobile || p.tablet || p.desktop

/-- at some widths, but not at all of them -/
def isPartial (p : Presence) : Bool := p.isAnywhere && !(p.mobile && p.tablet && p.desktop)

end Presence

/-- all of a styled node but its children -/
structure StyledData where
  source : NodeData
  uniqueName : String
  styles : Styles := ∅
  /-- in degrees, with the rotations of all ancestors -/
  rotation : Float := 0.0
  isIcon : Bool := false
  fills : List FillLayer := []
  image : Option ImageUse := none
  drawing : Option Drawing := none
  maskImageRef : Option String := none
  overlap : Option Overlap := none
  responsive : Option ResponsiveStyles := none
  presence : Option Presence := none
deriving Inhabited

structure StyledNode extends StyledData where
  children : List StyledNode
deriving Inhabited

namespace StyledData

def id (n : StyledData) : String := n.source.id

def name (n : StyledData) : String := n.source.name

def kind (n : StyledData) : NodeKind := n.source.kind

def isVisible (n : StyledData) : Bool := n.source.visible

def isText (n : StyledData) : Bool := n.kind = .text

def isGroup (n : StyledData) : Bool := n.kind = .group

def isAbsolute (n : StyledData) : Bool := n.styles.is "position" "absolute"

def characters? (n : StyledData) : Option String := n.source.characters?

/-- hidden nodes are left out, unless they are known to be there at some width -/
def isRendered (n : StyledData) : Bool :=
  n.isVisible || (n.presence.map Presence.isAnywhere).getD false

end StyledData

/-! ## walks -/

mutual
/-- a node and its descendants, each before its own descendants -/
def StyledNode.preOrder (n : StyledNode) : List StyledNode :=
  match n with
  | ⟨d, cs⟩ => ⟨d, cs⟩ :: StyledNode.preOrderAll cs
termination_by structural n

def StyledNode.preOrderAll (ns : List StyledNode) : List StyledNode :=
  match ns with
  | [] => []
  | n :: ns => n.preOrder ++ StyledNode.preOrderAll ns
termination_by structural ns
end

theorem StyledNode.preOrderAll_append (a b : List StyledNode) :
    StyledNode.preOrderAll (a ++ b) = StyledNode.preOrderAll a ++ StyledNode.preOrderAll b := by
  induction a with
  | nil => rfl
  | cons n a ih =>
    show n.preOrder ++ StyledNode.preOrderAll (a ++ b) = (n.preOrder ++ _) ++ _
    rw [ih, List.append_assoc]

def StyledNode.size (n : StyledNode) : Nat := n.preOrder.length

/-- replaces the styles -/
def StyledNode.restyle (f : Styles → Styles) (n : StyledNode) : StyledNode :=
  { n with styles := f n.styles }

/-!
## nodes that become elements

A vector, and an icon that is made of vectors only, is one drawing.  Nodes that are rendered become
elements, but what lies below a drawing is part of it.
-/

mutual
/-- a vector, or a node that holds vectors and nothing else -/
def StyledNode.holdsDrawing (n : StyledNode) : Bool :=
  match n with
  | ⟨d, cs⟩ => !d.isText && d.image.isNone
      && (d.drawing.isSome || (!cs.isEmpty && StyledNode.allHoldDrawings cs))
termination_by structural n

def StyledNode.allHoldDrawings (ns : List StyledNode) : Bool :=
  match ns with
  | [] => true
  | n :: ns => n.holdsDrawing && StyledNode.allHoldDrawings ns
termination_by structural ns
end

def StyledNode.isDrawn (n : StyledNode) : Bool :=
  n.drawing.isSome || (n.isIcon && !n.children.isEmpty && StyledNode.allHoldDrawings n.children)

mutual
def StyledNode.emitted (n : StyledNode) : List StyledNode :=
  match n with
  | ⟨d, cs⟩ =>
    if !d.isRendered then []
    else if StyledNode.isDrawn ⟨d, cs⟩ then [⟨d, cs⟩]
    else ⟨d, cs⟩ :: StyledNode.emittedAll cs
termination_by structural n

def StyledNode.emittedAll (ns : List StyledNode) : List StyledNode :=
  match ns with
  | [] => []
  | n :: ns => n.emitted ++ StyledNode.emittedAll ns
termination_by structural ns
end

/-- the extent of the drawing, or else of the node -/
def StyledData.extent (n : StyledData) : Float × Float :=
  match n.drawing with
  | some d => (d.width, d.height)
  | none => (n.source.boundsOrZero.width, n.source.boundsOrZero.height)

end Handoff
