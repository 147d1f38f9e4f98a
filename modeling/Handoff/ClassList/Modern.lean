import Handoff.ClassList.Basic

/-!
# The newer spelling of classes

Version 4 of the utility language renames some scales, drops the opacity utilities, writes custom
properties in parentheses and puts the important marker at the end.  `modernize?` rewrites one
class; `none` means that the utility no longer exists.
-/

namespace Handoff.ClassList

def renames : List (String × String) := [
  ("shadow-sm", "shadow-xs"), ("shadow", "shadow-sm"), ("drop-shadow-sm", "drop-shadow-xs"),
  ("drop-shadow", "drop-shadow-sm"), ("blur-sm", "blur-xs"), ("blur", "blur-sm"),
  ("backdrop-blur-sm", "backdrop-blur-xs"), ("backdrop-blur", "backdrop-blur-sm"),
  ("rounded-sm", "rounded-xs"), ("rounded", "rounded-sm"), ("ring", "ring-3"),
  ("outline-none", "outline-hidden"), ("overflow-ellipsis", "text-ellipsis"),
  ("decoration-slice", "box-decoration-slice"), ("decoration-clone", "box-decoration-clone")]

/-- an opacity utility such as bg-opacity-50 -/
def isOpacityUtility (base : String) : Bool :=
  ["bg", "text", "border", "divide", "ring", "placeholder"].any fun u =>
    match Text.dropPrefix? (u ++ "-opacity-") base with
    | some n => n ≠ "" && Text.all Chars.isAsciiDigit n
    | none => false

/-- the custom property that a bracketed value names, alone or in a call of var -/
def customProperty? (value : String) : Option String :=
  if Text.startsWith "--" value then some value
  else do
    let args ← Text.dropPrefix? "var(" value
    let args ← Text.dropSuffix? ")" args
    let name := Text.trim ((Text.splitOn ',' args).headD "")
    if Text.startsWith "--" name then some name else none

/-- the type hint in front of a bracketed value, with its colon, and the value -/
def splitHint (inner : String) : String × String :=
  match Text.cut? ':' inner with
  | some (hint, value) =>
    if Text.all Chars.isAsciiAlpha hint then (hint ++ ":", value) else ("", inner)
  | none => ("", inner)

/-- a bracketed custom property, written in parentheses -/
def variableShorthand? (base : String) : Option String := do
  let (utility, rest) ← Text.cut? '[' base
  let inner ← Text.dropSuffix? "]" rest
  let (hint, value) := splitHint inner
  let name ← customProperty? value
  return utility ++ "(" ++ hint ++ name ++ ")"

/-- track lists separate their tracks by underscores -/
def isTrackList (base : String) : Bool :=
  (Text.startsWith "grid-cols-[" base || Text.startsWith "grid-rows-[" base)
    && Text.contains "," base

/-- the base of an important class; negative utilities keep their marker in front -/
def important? (base : String) : Option String :=
  (Text.dropPrefix? "!" base).filter fun rest => !Text.startsWith "-" rest

def modernizeBase? (base : String) : Option String :=
  match renames.lookup base with
  | some renamed => some renamed
  | none =>
    if isOpacityUtility base then none
    else match variableShorthand? base with
      | some short => some short
      | none =>
        if isTrackList base then some (Text.replaceChar ',' "_" base)
        else match important? base with
          | some rest => some (rest ++ "!")
          | none => some base

/-- what can become of a base -/
inductive Rewriting (base : String) : String → Prop
  | renamed {new : String} : (base, new) ∈ renames → Rewriting base new
  | parenthesized {short : String} : variableShorthand? base = some short → Rewriting base short
  | tracks : isTrackList base = true → Rewriting base (Text.replaceChar ',' "_" base)
  | marked {rest : String} : important? base = some rest → Rewriting base (rest ++ "!")
  | same : Rewriting base base

theorem mem_renames {base new : String} (h : renames.lookup base = some new) :
    (base, new) ∈ renames := by
  obtain ⟨l, l', e, -⟩ := List.lookup_eq_some_iff.mp h
  rw [e]
  exact List.mem_append_right _ List.mem_cons_self

theorem rewriting_of_modernizeBase? {base new : String} (h : modernizeBase? base = some new) :
    Rewriting base new := by
  unfold modernizeBase? at h
  split at h
  · next found => exact Option.some.inj h ▸ .renamed (mem_renames found)
  split at h
  · exact nomatch h
  split at h
  · next found => exact Option.some.inj h ▸ .parenthesized found
  split at h
  · next track => exact Option.some.inj h ▸ .tracks track
  split at h
  · next found => exact Option.some.inj h ▸ .marked found
  · exact Option.some.inj h ▸ .same

def modernize? (cls : String) : Option String :=
  (modernizeBase? (baseOf cls)).map (variantOf cls ++ ·)

def modernize (classes : List String) : List String := classes.filterMap modernize?

end Handoff.ClassList
