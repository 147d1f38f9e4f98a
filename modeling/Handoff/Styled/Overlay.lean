import Handoff.Json.Decode
import Handoff.Json.Basic
import Handoff.Styled.Node

/-!
# Responsive overlays

Overlays bring styles for wider screens, and the widths at which a node is there.  They are found by
the ids of nodes.

* `Overlays.apply`       the tree with its overlays;
* `Overlays.reached`     how many of its nodes have one.
-/

namespace Handoff

def Presence.ofJson? : Decoder Presence := fun v => do
  let r ← Record.ofJson? ["mobile", "tablet", "desktop"] v
  return ⟨← r.required "mobile" Decode.bool, ← r.required "tablet" Decode.bool,
    ← r.required "desktop" Decode.bool⟩

structure Overlay where
  styles : ResponsiveStyles := {}
  presence : Option Presence := none
deriving Repr, Inhabited

namespace Overlay

def ofJson? : Decoder Overlay := fun v => do
  let r ← Record.ofJson? ["md", "lg", "presence"] v
  let md ← r.orElse "md" none (Decode.nullable Styles.ofJson?)
  let lg ← r.orElse "lg" none (Decode.nullable Styles.ofJson?)
  let presence ← r.orElse "presence" none (Decode.nullable Presence.ofJson?)
  return ⟨⟨md, lg⟩, presence⟩

/-- an overlay without styles, or without presence, leaves those of the node -/
def onto (o : Overlay) (n : StyledData) : StyledData :=
  { n with
    responsive := if o.styles.md.isSome || o.styles.lg.isSome then some o.styles else n.responsive
    presence := o.presence.orElse fun _ => n.presence }

end Overlay

abbrev Overlays := Dict Overlay

namespace Overlays

def ofJson? : Decoder Overlays := Decode.dict Overlay.ofJson?

/-- what is read of a text with overlays -/
def shape : Json.Shape := .entries (.record [
  ("md", .entries .whole), ("lg", .entries .whole),
  ("presence", .record [("mobile", .whole), ("tablet", .whole), ("desktop", .whole)])])

def onData (os : Overlays) (n : StyledData) : StyledData :=
  match os.get? n.id with
  | some o => o.onto n
  | none => n

mutual
def apply (os : Overlays) (n : StyledNode) : StyledNode :=
  match n with
  | ⟨d, cs⟩ => ⟨os.onData d, applyAll os cs⟩
termination_by structural n

def applyAll (os : Overlays) (ns : List StyledNode) : List StyledNode :=
  match ns with
  | [] => []
  | n :: ns => apply os n :: applyAll os ns
termination_by structural ns
end

def reached (os : Overlays) (n : StyledNode) : Nat :=
  (n.preOrder.filter fun m => os.contains m.id).length

end Overlays
end Handoff
