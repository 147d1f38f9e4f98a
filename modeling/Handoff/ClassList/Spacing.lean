import Handoff.ClassList.Basic
import Handoff.Utility.Scale

/-!
# Padding and margin classes

A spacing class sets one side (`pt-2`), an axis (`px-2`) or all four sides (`p-2`).

* `expandOverridden`  a side that is set on its own is taken out of the shorthands over it;
* `snap`              bracketed pixels move to a nearby scale point;
* `consolidate`       equal sides on the scale are written as a shorthand.
-/

namespace Handoff.ClassList

inductive Box where
  | padding
  | margin
deriving DecidableEq, Repr

inductive Side where
  | top
  | right
  | bottom
  | left
deriving DecidableEq, Repr

def Box.letter : Box → Char
  | .padding => 'p'
  | .margin => 'm'

def Box.ofLetter? (c : Char) : Option Box :=
  if c = 'p' then some .padding else if c = 'm' then some .margin else none

namespace Side

def letter : Side → Char
  | .top => 't'
  | .right => 'r'
  | .bottom => 'b'
  | .left => 'l'

def ofLetter? (c : Char) : Option Side :=
  if c = 't' then some .top else if c = 'r' then some .right
  else if c = 'b' then some .bottom else if c = 'l' then some .left else none

def all : List Side := [.top, .right, .bottom, .left]

def opposite : Side → Side
  | .top => .bottom
  | .right => .left
  | .bottom => .top
  | .left => .right

/-- the letter of the axis shorthand over a side -/
def axis : Side → Char
  | .top | .bottom => 'y'
  | .right | .left => 'x'

end Side

/-- the sides under a shorthand: all of them, or those of an axis -/
def sidesOf? : List Char → Option (List Side)
  | [] => some Side.all
  | ['x'] => some [.left, .right]
  | ['y'] => some [.top, .bottom]
  | _ => none

/-- the sign of a base, and what follows it -/
def signed (base : String) : String × String :=
  match Text.dropPrefix? "-" base with
  | some rest => ("-", rest)
  | none => ("", base)

/-- box, sides and value of an unsigned shorthand -/
def shorthand? (base : String) : Option (Box × List Side × String) := do
  let (head, value) ← Text.cut? '-' base
  match head.toList with
  | c :: rest => return (← Box.ofLetter? c, ← sidesOf? rest, value)
  | [] => none

/-- box, side and value of an unsigned class for one side -/
def side? (base : String) : Option (Box × Side × String) := do
  let (head, value) ← Text.cut? '-' base
  match head.toList with
  | [c, s] => return (← Box.ofLetter? c, ← Side.ofLetter? s, value)
  | _ => none

/-- a class for one side -/
def sideClass (variant sign : String) (box : Box) (side : Side) (value : String) : String :=
  variant ++ sign ++ String.ofList [box.letter, side.letter] ++ "-" ++ value

/-! ## shorthands with a side of their own -/

/-- the side a class sets on its own, whatever its sign -/
def ownSide? (cls : String) : Option (String × Box × Side) :=
  (side? (Text.trimStartBy (· == '-') (baseOf cls))).map fun (box, side, _) =>
    (variantOf cls, box, side)

/-- a shorthand over a side in `own` becomes the classes of its other sides -/
def expandOne (own : List (String × Box × Side)) (cls : String) : List String :=
  let variant := variantOf cls
  let (sign, unsigned) := signed (baseOf cls)
  match shorthand? unsigned with
  | none => [cls]
  | some (box, sides, value) =>
    let overridden := fun s : Side => own.contains (variant, box, s)
    if sides.any overridden then
      (sides.filter fun s => !overridden s).map fun s => sideClass variant sign box s value
    else [cls]

def expandOverridden (classes : List String) : List String :=
  classes.flatMap (expandOne (classes.filterMap ownSide?))

/-! ## snapping -/

/-- the utilities whose bracketed pixels may move; left and top margins carry positions -/
def snappedUtilities : List String :=
  ["gap-x", "gap-y", "gap", "p", "px", "py", "pt", "pr", "pb", "pl", "m", "mx", "my", "mr", "mb"]

def snapOne (tolerance : Float) (cls : String) : String :=
  let snapped := snappedUtilities.findSome? fun u =>
    (Utility.arbitraryPx? (baseOf cls) u).bind fun px =>
      (Utility.nearestToken? px tolerance).map fun token => variantOf cls ++ u ++ "-" ++ token
  snapped.getD cls

def snap (tolerance : Float) (classes : List String) : List String :=
  classes.map (snapOne tolerance)

/-! ## equal sides -/

/-- a side class with a value on the scale, and its place in the list -/
structure ScaleSide where
  index : Nat
  variant : String
  box : Box
  side : Side
  token : String
deriving DecidableEq, Repr

def scaleSide? (entry : String × Nat) : Option ScaleSide :=
  (side? (baseOf entry.1)).bind fun (box, side, token) =>
    if (Utility.scalePx? token).isSome then
      some ⟨entry.2, variantOf entry.1, box, side, token⟩
    else none

/-- the last class for a side -/
def lastOn? (entries : List ScaleSide) (variant : String) (box : Box) (side : Side) :
    Option ScaleSide :=
  (entries.filter fun e => e.variant = variant && e.box = box && e.side = side).getLast?

/-- what becomes of one class when equal sides are joined; `none` removes it -/
def joined (entries : List ScaleSide) (entry : String × Nat) : Option String :=
  match scaleSide? entry with
  | none => some entry.1
  | some e =>
    let on := lastOn? entries e.variant e.box
    let equalTo := fun s => (on s).filter fun o => o.token = e.token
    if (on e.side).map ScaleSide.index ≠ some e.index then some entry.1
    else
      let four := Side.all.filterMap equalTo
      if four.length = 4 then
        if four.all fun o => e.index ≤ o.index then
          some (e.variant ++ String.ofList [e.box.letter] ++ "-" ++ e.token)
        else none
      else match equalTo e.side.opposite with
        | some o =>
          if e.index < o.index then
            some (e.variant ++ String.ofList [e.box.letter, e.side.axis] ++ "-" ++ e.token)
          else none
        | none => some entry.1

def consolidate (classes : List String) : List String :=
  let entries := classes.zipIdx.filterMap scaleSide?
  classes.zipIdx.filterMap (joined entries)

end Handoff.ClassList
