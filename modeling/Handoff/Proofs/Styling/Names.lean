import Handoff.Proofs.Design.Walk
import Handoff.Proofs.Naming.Issued
import Handoff.Proofs.Styling.Role

/-!
# The names of all elements of a session

A styled tree takes its names from the registry of its session, in the order of its walk.  A group
asks for its name before its children are styled, so a stack that comes out empty has used one up;
names are lost in this way, but none is given twice.

* `handsOut_styleNode`    what styling a node does to the registry;
* `handsOut_styleEach`    the same for designs that are styled one after the other;
* `element_names`         all names of a session are distinct, and have the form of element names.
-/

namespace Handoff
open NameRegistry Naming

namespace Styling

/-- the names in a styled tree are handed out while it is made -/
theorem handsOut_styleNode (p : Policy) (n : DesignNode) : ∀ parent r names,
    HandsOut names (styleNode p parent r n names).2
      ((originsOf (styleNode p parent r n names).1).map Prod.snd) := by
  induction n using DesignNode.forest
    (Q := fun ns => ∀ masked parent r names,
      HandsOut names (styleAll p parent r masked ns names).2
        ((originsAll (styleAll p parent r masked ns names).1).map Prod.snd)) with
  | node d cs ih =>
    intro parent r names
    cases Role.of p d cs with
    | dropped hidden => rw [styleNode_dropped hidden]; exact HandsOut.refl names
    | emptyGroup kept group children =>
      rw [styleNode_emptyGroup kept group children]; exact HandsOut.refl names
    | wrapper kept group only children =>
      rw [styleNode_wrapper kept group children]
      dsimp only
      rw [originsOf_patched (length_styleAll_le_one children)]
      exact ih false parent (r + d.rotationDegrees) names
    | stack kept group first second rest children =>
      rw [styleNode_stack kept group children]
      dsimp only
      rw [originsOf_stack?]
      refine ((HandsOut.issue names d.name).trans (ih true (stackContext d parent)
        (r + d.rotationDegrees) (names.issue d.name).2)).lose ?_
      split
      · exact List.nil_sublist _
      · exact List.Sublist.refl _
    | drawing kept vector =>
      rw [styleNode_drawing kept vector]
      exact HandsOut.issue names d.name
    | box kept noGroup noVector =>
      rw [styleNode_box kept noGroup noVector]
      dsimp only
      rw [originsOf_settle]
      exact (HandsOut.issue names d.name).trans
        (ih false (.of d) (r + d.rotationDegrees) (names.issue d.name).2)
  | nil => exact HandsOut.refl _
  | cons n ns ih ihs masked parent r names =>
    cases h : masked && p.keeps n.toNodeData && n.isMask with
    | true =>
      simp only [Bool.and_eq_true] at h
      rw [h.1.1, styleAll_mask h.1.2 h.2]
      exact ihs false parent r names
    | false =>
      rw [styleAll_cons h]
      dsimp only
      rw [originsAll_append, originsAll_toList, List.map_append]
      exact (ih parent r names).trans (ihs _ parent r _)

end Styling

namespace Session
open Styling

/-- the styled trees of several designs, one after the other in one session -/
def styleEach (s : Session) : List DesignNode → List (Option StyledNode) × Session
  | [] => ([], s)
  | root :: roots =>
    let (tree, s) := s.style root
    let (trees, s) := s.styleEach roots
    (tree :: trees, s)

/-- the names of all nodes of several trees -/
def elementNames (trees : List (Option StyledNode)) : List String :=
  (trees.flatMap fun tree => tree.toList.flatMap StyledNode.preOrder).map fun n => n.uniqueName

theorem elementNames_cons (tree : Option StyledNode) (trees : List (Option StyledNode)) :
    elementNames (tree :: trees)
      = (originsOf tree).map Prod.snd ++ elementNames trees := by
  rw [elementNames, List.flatMap_cons, List.map_append, map_originsOf]
  rfl

theorem handsOut_styleEach (roots : List DesignNode) : ∀ s : Session,
    HandsOut s.names (s.styleEach roots).2.names (elementNames (s.styleEach roots).1) := by
  induction roots with
  | nil => exact fun s => HandsOut.refl s.names
  | cons root roots ih =>
    intro s
    show HandsOut s.names ((s.style root).2.styleEach roots).2.names
      (elementNames ((s.style root).1 :: ((s.style root).2.styleEach roots).1))
    rw [elementNames_cons]
    exact (handsOut_styleNode s.policy root {} 0.0 s.names).trans (ih (s.style root).2)

/-- **Every element of a session has a name of its own.**  Over all trees that a session styles
without forgetting its names in between, the names are pairwise distinct, and each is a letter
followed by letters and digits, perhaps with an underscore and at least two digits behind them. -/
theorem element_names (s : Session) (roots : List DesignNode) :
    (elementNames (s.styleEach roots).1).Nodup ∧
      ∀ name ∈ elementNames (s.styleEach roots).1, IsElementName name :=
  ⟨(handsOut_styleEach roots s).nodup, (handsOut_styleEach roots s).form⟩

end Session
end Handoff
