import Handoff.Fault
import Handoff.Json.Decode
import Handoff.Json.Basic
import Handoff.Styled.Node

/-!
# Images and exported drawings

What a tree needs is collected first, so that a source is asked once for all images and once for all
drawings.  What cannot be had is replaced later, and there is a warning.

* `AssetNeeds.of`       the images and drawings that a tree needs, each once, in its order;
* `Assets.resolve`      what a source has of them, and the warnings;
* `placeholderImage`    the address of an image of some size.
-/

namespace Handoff

structure AssetNeeds where
  images : List String := []
  drawings : List String := []
deriving Repr, DecidableEq, Inhabited

namespace AssetNeeds

def isEmpty (a : AssetNeeds) : Bool := a.images.isEmpty && a.drawings.isEmpty

/-- a reference that is there already is not added again -/
def addOnce (xs : List String) (x : String) : List String := if xs.contains x then xs else xs ++ [x]

/-- the images of a node: of its fills, its own, and its mask -/
def nodeImages (n : StyledData) : List String :=
  n.fills.filterMap FillLayer.imageRef? ++ (n.image.map ImageUse.ref).toList
    ++ n.maskImageRef.toList

mutual
/-- adds what a node and those below it need; a drawing needs nothing but itself -/
def add (a : AssetNeeds) (n : StyledNode) : AssetNeeds :=
  match n with
  | ⟨d, cs⟩ =>
    if !d.isRendered then a
    else if StyledNode.isDrawn ⟨d, cs⟩ then { a with drawings := addOnce a.drawings d.id }
    else addAll { a with images := (nodeImages d).foldl addOnce a.images } cs
termination_by structural n

def addAll (a : AssetNeeds) (ns : List StyledNode) : AssetNeeds :=
  match ns with
  | [] => a
  | n :: ns => addAll (add a n) ns
termination_by structural ns
end

def of (root : StyledNode) : AssetNeeds := add {} root

end AssetNeeds

/-! ## sources -/

/-- addresses of images by their references, and documents of drawings by the ids of nodes -/
structure AssetTable where
  images : Dict String := ∅
  drawings : Dict String := ∅
deriving Repr, Inhabited

def AssetTable.ofJson? : Decoder AssetTable := fun v => do
  let r ← Record.ofJson? ["images", "svgs"] v
  return ⟨← r.orElse "images" ∅ (Decode.dict Decode.string),
    ← r.orElse "svgs" ∅ (Decode.dict Decode.string)⟩

/-- what is read of a text with assets -/
def AssetTable.shape : Json.Shape :=
  .record [("images", .entries .whole), ("svgs", .entries .whole)]

/-- where assets come from: a table, or nowhere for some reason -/
inductive AssetSource where
  | table (entries : AssetTable)
  | failing (cause : Fault)

def AssetSource.empty : AssetSource := .table {}

structure Assets extends AssetTable where
  warnings : List String := []
deriving Repr, Inhabited

namespace Assets

/-- the entries for the keys that are there -/
def pick (table : Dict String) (keys : List String) : Dict String :=
  keys.foldl (fun acc k => match table.get? k with
    | some v => acc.set k v
    | none => acc) ∅

/-- the view of what is picked: the table, on the keys -/
theorem get?_pick (table : Dict String) (keys : List String) (k : String) :
    (pick table keys).get? k = if k ∈ keys then table.get? k else none := by
  have picked (acc : Dict String) : (keys.foldl (fun acc k => match table.get? k with
      | some v => acc.set k v
      | none => acc) acc).get? k
        = if k ∈ keys then (table.get? k).or (acc.get? k) else acc.get? k := by
    induction keys generalizing acc with
    | nil => rfl
    | cons j keys ih =>
      have step : (match table.get? j with
          | some v => acc.set j v
          | none => acc).get? k = if k = j then (table.get? k).or (acc.get? k) else acc.get? k := by
        by_cases same : k = j
        · subst same
          cases found : table.get? k with
          | none => rw [if_pos rfl]; rfl
          | some v => rw [if_pos rfl]; exact (Dict.get?_set ..).trans (if_pos rfl)
        · rw [if_neg same]
          cases table.get? j with
          | none => rfl
          | some v => exact (Dict.get?_set ..).trans (if_neg same)
      rw [List.foldl_cons, ih, step]
      by_cases same : k = j
      · rw [if_pos same, if_pos (List.mem_cons.mpr (.inl same)), ← Option.or_assoc, Option.or_self,
          ite_self]
      · simp only [same, if_false, List.mem_cons, false_or]
  exact (picked ∅).trans (by rw [Dict.get?_empty, Option.or_none])

/-- what a source has of one kind; a source that fails has nothing and gives a warning -/
def ask (source : AssetSource) (select : AssetTable → Dict String) (complaint : String)
    (keys : List String) : Dict String × List String :=
  match source with
  | .table entries => (pick (select entries) keys, [])
  | .failing cause => (∅, [complaint ++ cause.display])

def missingImage (ref : String) : String := "Image " ++ ref ++ " unresolved; placeholder used"

def resolveImages (source : AssetSource) (refs : List String) : Dict String × List String :=
  if refs.isEmpty then (∅, [])
  else
    let (images, warnings) :=
      ask source AssetTable.images "Image URLs could not be resolved: " refs
    (images, warnings ++ (refs.filter fun r => !images.contains r).map missingImage)

def resolveDrawings (source : AssetSource) (ids : List String) : Dict String × List String :=
  if ids.isEmpty then (∅, [])
  else ask source AssetTable.drawings "SVG export failed, rebuilding vectors locally: " ids

def resolve (needs : AssetNeeds) (source : AssetSource) : Assets :=
  let (images, imageWarnings) := resolveImages source needs.images
  let (drawings, drawingWarnings) := resolveDrawings source needs.drawings
  { images, drawings, warnings := imageWarnings ++ drawingWarnings }

def image? (a : Assets) (ref : String) : Option String := a.images.get? ref

def drawing? (a : Assets) (nodeId : String) : Option String := a.drawings.get? nodeId

end Assets

/-! ## placeholders -/

def placeholderImage (width height : Float) : String :=
  let side := fun (x default : Float) => Decimal.plain (if 1.0 <= x then x.round else default)
  "https://placehold.co/" ++ side width 300.0 ++ "x" ++ side height 200.0

/-- the address of an image, or else of a placeholder of some size -/
def Assets.imageOr (a : Assets) (ref : String) (width height : Float) : String :=
  (a.image? ref).getD (placeholderImage width height)

end Handoff
