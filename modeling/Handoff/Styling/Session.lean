import Handoff.Naming.Unique
import Handoff.Styling.Paint
import Handoff.Styling.General
import Handoff.Styling.Group
import Handoff.Styling.Typography

/-!
# From designs to styled trees

The names of elements are unique over all trees of a session, so a session hands out names and keeps
a registry of them.  What the trees depend on besides is its policy: the variables, what becomes of
hidden nodes, and how small an icon is.

* `Session.style`       the styled tree of a design, if anything of it is left;
* `styleNode`           the same for a node in some context;
* `settle`              what the children of a node change in it and in each other.
-/

namespace Handoff

inductive HiddenMode where
  | drop
  | preserve
deriving DecidableEq, Repr, Inhabited

namespace HiddenMode

def names : List (String × HiddenMode) := [("drop", .drop), ("preserve", .preserve)]

def parse? (s : String) : Option HiddenMode := names.lookup s

def name : HiddenMode → String
  | .drop => "drop"
  | .preserve => "preserve"

end HiddenMode

/-- how large icons may be: nodes that are marked for export, and components -/
structure IconLimits where
  exported : Float := 64.0
  component : Float := 48.0
deriving Repr, Inhabited

def IconLimits.ofJson? : Decoder IconLimits := fun v => do
  let r ← Record.ofJson? ["max_export_size", "max_component_size"] v
  return ⟨← r.orElse "max_export_size" 64.0 Decode.float,
    ← r.orElse "max_component_size" 48.0 Decode.float⟩

structure Policy where
  variableTable : Variables := ∅
  hidden : HiddenMode := .drop
  icons : IconLimits := {}
deriving Inhabited

namespace Policy

def keeps (p : Policy) (n : NodeData) : Bool := n.visible || p.hidden = .preserve

/-- vectors are icons, and so are small nodes that are exported or components -/
def isIcon (p : Policy) (n : NodeData) : Bool :=
  let bounds := n.boundsOrZero
  let fits := fun (limit : Float) => bounds.width <= limit && bounds.height <= limit
  n.kind.isVector ||
    (fits p.icons.exported &&
      (n.hasExportSettings || (n.kind.isComponent && fits p.icons.component)))

end Policy

namespace Styling

/-- the styles of a node that is no group; what is written later wins -/
def nodeStyles (vs : Variables) (parent : ParentContext) (n : NodeData) (hasChildren : Bool) :
    Styles :=
  let painted : Styles := Styles.write ∅
    (general vs n ++ layout n parent hasChildren ++ fills vs n ++ strokes vs n)
  (effects n painted).write
    (typography n ++ shape n
      ++ declareIf (n.rotationDegrees != 0.0) "transform" (rotateText n.rotationDegrees))

def nodeData (p : Policy) (parent : ParentContext) (rotation : Float) (n : NodeData)
    (hasChildren : Bool) (name : String) : StyledData where
  source := n
  uniqueName := name
  styles := nodeStyles p.variableTable parent n hasChildren
  rotation
  isIcon := p.isIcon n
  fills := fillLayers n
  image := topImage? n
  drawing := drawing? n
  overlap := overlap? n

/-! ## children -/

/-- children in reverse order of painting: the first lies on top -/
def reversePainting (children : List StyledNode) : List StyledNode :=
  let count := children.length
  children.zipIdx.map fun e =>
    e.1.restyle fun s => s.set "z-index" (.num (Float.ofNat (count - e.2)))

/-- a child that takes part in the stacking order of its parent -/
def makeRelative (n : StyledNode) : StyledNode :=
  if n.isAbsolute then n else n.restyle fun s => s.put "position" "relative"

/-- a node with absolute children, or with children on top of its image, is the box that they are
placed in -/
def settle (n : StyledNode) : StyledNode :=
  let reversed := (n.source.autoLayout?.map AutoLayout.reverseZIndex).getD false
  let children :=
    if reversed && 1 < n.children.length then reversePainting n.children else n.children
  let holds := children.any (fun c => c.isAbsolute) || (n.image.isSome && !children.isEmpty)
  if holds && !n.isAbsolute then
    { n with
      styles := n.styles.put "position" "relative"
      children := children.map makeRelative }
  else { n with children }

/-- the stack of a group, unless it is empty -/
def stack? (parent : ParentContext) (rotation : Float) (group : NodeData) (mask : Option String)
    (name : String) (children : List (NodeData × StyledNode)) : Option StyledNode :=
  if children.isEmpty then none
  else some {
    source := group
    uniqueName := name
    styles := stackStyles group parent
    rotation
    children := children.map fun c => onStack group mask c.1 c.2 }

/-- the data of the children that are kept -/
def keptData (p : Policy) (ns : List DesignNode) : List NodeData :=
  (ns.map DesignNode.toNodeData).filter p.keeps

mutual
/-- the styled tree of a node, and the names that are then in use -/
def styleNode (p : Policy) (parent : ParentContext) (rotation : Float) (n : DesignNode)
    (names : NameRegistry) : Option StyledNode × NameRegistry :=
  match n with
  | ⟨d, cs⟩ =>
    let rotation := rotation + d.rotationDegrees
    if !p.keeps d then (none, names)
    else if d.kind = .group then
      match keptData p cs with
      | [] => (none, names)
      | [only] =>
        let (children, names) := styleAll p parent rotation false cs names
        (children.head?.map fun c => c.2.restyle (inlinePatch d only parent).apply, names)
      | first :: _ =>
        let (name, names) := names.issue d.name
        let (children, names) := styleAll p (stackContext d parent) rotation true cs names
        (stack? parent rotation d (maskImage? first) name children, names)
    else
      let (name, names) := names.issue d.name
      let data := nodeData p parent rotation d (!cs.isEmpty) name
      if d.kind.isVector then (some ⟨data, []⟩, names)
      else
        let (children, names) := styleAll p (.of d) rotation false cs names
        (some (settle ⟨data, children.map Prod.snd⟩), names)
termination_by structural n

/-- the styled trees of nodes, each beside the data of its own node; where `masked`, a mask in front
of the other nodes that are kept is left out -/
def styleAll (p : Policy) (parent : ParentContext) (rotation : Float) (masked : Bool)
    (ns : List DesignNode) (names : NameRegistry) : List (NodeData × StyledNode) × NameRegistry :=
  match ns with
  | [] => ([], names)
  | n :: ns =>
    if masked && p.keeps n.toNodeData && n.isMask then styleAll p parent rotation false ns names
    else
      let (styled, names) := styleNode p parent rotation n names
      let (rest, names) :=
        styleAll p parent rotation (masked && !p.keeps n.toNodeData) ns names
      (match styled with
        | some s => (n.toNodeData, s) :: rest
        | none => rest, names)
termination_by structural ns
end

end Styling

/-- a policy, and the names that were handed out under it -/
structure Session where
  policy : Policy := {}
  names : NameRegistry := ∅
deriving Inhabited

namespace Session

/-- the styled tree of a node in some context -/
def styleIn (s : Session) (parent : ParentContext) (rotation : Float) (n : DesignNode) :
    Option StyledNode × Session :=
  let (styled, names) := Styling.styleNode s.policy parent rotation n s.names
  (styled, { s with names })

def style (s : Session) (root : DesignNode) : Option StyledNode × Session :=
  s.styleIn {} 0.0 root

/-- forgets the names -/
def reset (s : Session) : Session := { s with names := ∅ }

end Session
end Handoff
