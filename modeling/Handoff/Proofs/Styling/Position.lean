import Handoff.Styling.Group

/-!
# Who writes the position of a node

The position of a node decides whether its parent lays it out, and whether absolute children are
placed in its box.  A group hands it on to an only child, a stack gets its own, and takes those of its
children away unless they are pinned.

* `StyledData.isContaining`    a node with a position is the box of its absolute children;
* `position?_inlinePatch`      what a group hands on;
* `position?_stackStyles`      the position of a stack;
* `position?_cellPatch`        the position of a child of a stack.
-/

namespace Handoff

/-- whether absolute children are placed in the box of the node -/
def StyledData.isContaining (n : StyledData) : Bool :=
  n.isAbsolute || n.styles.is "position" "relative"

namespace Styling

def position? (s : Styles) : Option StyleValue := s.get? "position"

section
variable {n m : StyledData}

/-- only the position of a node counts -/
theorem isAbsolute_eq (n : StyledData) :
    n.isAbsolute = ((position? n.styles).map StyleValue.show == some "absolute") := rfl

theorem isContaining_eq (n : StyledData) :
    n.isContaining = ((position? n.styles).map StyleValue.show == some "absolute"
      || (position? n.styles).map StyleValue.show == some "relative") := rfl

theorem isAbsolute_congr (h : position? n.styles = position? m.styles) :
    n.isAbsolute = m.isAbsolute := by
  rw [isAbsolute_eq, h, isAbsolute_eq]

theorem isContaining_congr (h : position? n.styles = position? m.styles) :
    n.isContaining = m.isContaining := by
  rw [isContaining_eq, h, isContaining_eq]

theorem isAbsolute_of_absolute (h : position? n.styles = some (.text "absolute")) :
    n.isAbsolute = true := by
  rw [isAbsolute_eq, h]
  rfl

theorem isAbsolute_of_relative (h : position? n.styles = some (.text "relative")) :
    n.isAbsolute = false := by
  rw [isAbsolute_eq, h]
  decide

theorem isAbsolute_of_none (h : position? n.styles = none) : n.isAbsolute = false := by
  rw [isAbsolute_eq, h]
  rfl

theorem isContaining_of_isAbsolute (h : n.isAbsolute = true) : n.isContaining = true := by
  rw [StyledData.isContaining, h, Bool.true_or]

theorem isContaining_of_relative (h : position? n.styles = some (.text "relative")) :
    n.isContaining = true := by
  rw [isContaining_eq, h]
  decide

theorem isContaining_of_none (h : position? n.styles = none) : n.isContaining = false := by
  rw [isContaining_eq, h]
  rfl

end

theorem position?_put (s : Styles) (value : String) :
    position? (s.put "position" value) = some (.text value) := by
  rw [position?, Styles.put, Dict.get?_set, if_pos rfl]

/-- declarations of other properties leave the position -/
theorem position?_write {s : Styles} {ds : List Declaration} (h : ∀ d ∈ ds, d.1 ≠ "position") :
    position? (s.write ds) = position? s := Dict.get?_setAll_of_not_mem h

theorem write_append (s : Styles) (a b : List Declaration) :
    s.write (a ++ b) = (s.write a).write b := List.foldl_append

theorem position?_absolute {s : Styles} {ds : List Declaration}
    (h : ∀ d ∈ ds, d.1 ≠ "position") :
    position? (s.write (declare "position" "absolute" :: ds)) = some (.text "absolute") := by
  show position? ((s.put "position" "absolute").write ds) = _
  rw [position?_write h, position?_put]

/-! ## what groups declare -/

/-- the properties of offsets -/
def offsetKeys : List String := ["left", "right", "top", "bottom", "translate"]

theorem mem_offsetKeys {bounds parent : Rect} {c : Constraints} :
    ∀ d ∈ offsets bounds parent c, d.1 ∈ offsetKeys := by
  have axis (sides : AxisSides) (place : AxisPlace) (c : Constraint) :
      ∀ d ∈ axisOffsets sides place c, d.1 = sides.start ∨ d.1 = sides.end := by
    cases c <;> simp only [axisOffsets] <;> (try split) <;> simp [declare]
  intro d hd
  rcases List.mem_append.mp hd with hd | hd
  · rcases List.mem_append.mp hd with hd | hd
    · rcases axis _ _ _ d hd with e | e <;> rw [e] <;> decide
    · rcases axis _ _ _ d hd with e | e <;> rw [e] <;> decide
  · have key : d.1 = "translate" := by
      unfold centering declare? at hd
      split at hd
      · rw [List.mem_singleton.mp hd]
        rfl
      · cases hd
    rw [key]
    decide

theorem offsets_ne_position {bounds parent : Rect} {c : Constraints} :
    ∀ d ∈ offsets bounds parent c, d.1 ≠ "position" := by
  intro d hd same
  have key := mem_offsetKeys d hd
  rw [same] at key
  exact absurd key (by decide)

theorem groupOpacity_ne_position {group : NodeData} :
    ∀ d ∈ groupOpacity group, d.1 ≠ "position" := by
  unfold groupOpacity
  split <;> simp

theorem groupPlace_ne_position {group child : NodeData} {parent : ParentContext} :
    ∀ d ∈ groupPlace group child parent, d.1 ≠ "position" := by
  have sizes (size : Option Vector2) : ∀ d ∈ sizeOf size, d.1 ≠ "position" := by
    cases size <;> simp [sizeOf, declare]
  unfold groupPlace
  split
  · exact List.forall_mem_append.mpr ⟨by simp [declare], sizes _⟩
  · split <;> simp [declare]

/-- an absolute group hands on its position to the child that it gives way to -/
theorem position?_inlinePatch (group child : NodeData) (parent : ParentContext) (s : Styles) :
    position? ((inlinePatch group child parent).apply s)
      = if group.isAbsolute then some (.text "absolute") else position? s := by
  have assigned (ds : List Declaration) :
      position? ((StylePatch.setAll ∅ ds).apply s) = position? (s.write ds) :=
    StylePatch.get?_apply_setAll ∅ ds s "position"
  unfold inlinePatch
  dsimp only
  rw [assigned]
  cases group.isAbsolute with
  | true =>
    rw [if_pos rfl, if_pos rfl, List.cons_append]
    exact position?_absolute
      (List.forall_mem_append.mpr ⟨groupPlace_ne_position, groupOpacity_ne_position⟩)
  | false =>
    rw [if_neg Bool.false_ne_true, if_neg Bool.false_ne_true, List.nil_append]
    exact position?_write groupOpacity_ne_position

/-- whether a stack is placed: it has bounds, and its parent has bounds and does not lay it out -/
def stackIsPlaced (group : NodeData) (parent : ParentContext) : Bool :=
  group.bounds.isSome && parent.bounds.isSome && (!parent.isAutoLayout || group.isAbsolute)

theorem position?_stackStyles (group : NodeData) (parent : ParentContext) :
    position? (stackStyles group parent)
      = if stackIsPlaced group parent then some (.text "absolute") else none := by
  unfold stackStyles stackIsPlaced
  rw [write_append, position?_write groupOpacity_ne_position, write_append]
  unfold stackPosition
  cases group.bounds with
  | none => rfl
  | some bounds =>
    cases parent.bounds with
    | none => rfl
    | some parentBounds =>
      simp only [Option.isSome_some, Bool.true_and]
      split
      · exact position?_absolute (List.forall_mem_cons.mpr ⟨by simp [declare],
          List.forall_mem_cons.mpr ⟨by simp [declare], offsets_ne_position⟩⟩)
      · rfl

/-- a child that is pinned to a side of the stack is absolute, any other has no position -/
theorem position?_cellPatch (child : NodeData) (group : Option Rect) (s : Styles) :
    position? ((cellPatch child group).apply s)
      = if isPinned child && child.bounds.isSome && group.isSome then some (.text "absolute")
        else none := by
  have cell {margins : List Declaration} (h : ∀ d ∈ margins, d.1 ≠ "position") :
      position? (((StylePatch.removeAll ∅
        ["position", "top", "left", "right", "bottom", "translate"]).setAll
          (declare "grid-area" "1 / 1" :: margins)).apply s) = none := by
    rw [position?, StylePatch.get?_apply_setAll]
    refine (position?_write (List.forall_mem_cons.mpr ⟨by simp [declare], h⟩)).trans ?_
    rw [position?, StylePatch.get?_apply_removeAll, if_pos List.mem_cons_self]
  have margins (bounds group : Rect) : ∀ d ∈ cellMargins bounds group, d.1 ≠ "position" := by
    unfold cellMargins positiveMargin declareIf
    refine List.forall_mem_append.mpr ⟨?_, ?_⟩ <;> split <;> simp [declare]
  unfold cellPatch
  cases child.bounds with
  | none =>
    rw [Option.isSome_none, Bool.and_false, Bool.false_and]
    exact cell (List.forall_mem_nil _)
  | some bounds =>
    cases group with
    | none =>
      rw [Option.isSome_none, Bool.and_false]
      exact cell (List.forall_mem_nil _)
    | some group =>
      simp only [Option.isSome_some, Bool.and_true]
      split
      · rw [pinnedPatch, position?, StylePatch.get?_apply_setAll]
        exact position?_absolute offsets_ne_position
      · exact cell (margins bounds group)

end Styling
end Handoff
