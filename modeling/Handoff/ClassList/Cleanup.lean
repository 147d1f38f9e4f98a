import Handoff.ClassList.Group
import Handoff.ClassList.Spacing

/-!
# Cleaning up a class list

The classes of an element come from several places: its structure, its styles, overlays and rules.
`finalize` settles what they say about the same property, snaps spacing to the scale and drops
what is a default anyway.
-/

namespace Handoff.ClassList

/-- how the names of gaps below zero begin -/
def negativeGapLeads : List String := ["gap-[-", "gap-x-[-", "gap-y-[-"]

/-- gaps below zero have no meaning -/
def dropNegativeGaps (classes : List String) : List String :=
  classes.filter fun c => !negativeGapLeads.any fun lead => Text.startsWith lead (baseOf c)

def flexDefaults : List String := ["flex-nowrap", "flex-row", "self-auto", "grow-0", "shrink"]

/-- a flex container without this kind of alignment starts at the start -/
def addUnless (lead cls : String) (classes : List String) : List String :=
  if classes.any (Text.startsWith lead) then classes else classes ++ [cls]

/-- defaults are dropped, and the alignment of flex containers is written out -/
def normalizeFlex (classes : List String) : List String :=
  let kept := classes.filter fun c => !flexDefaults.contains c
  if kept.contains "flex" || kept.contains "inline-flex" then
    addUnless "items-" "items-start" (addUnless "justify-" "justify-start" kept)
  else kept

/-- an element with a maximal width does not stretch -/
def dropStretch (classes : List String) : List String :=
  if classes.any (Text.startsWith "max-w-") then classes.filter (· ≠ "self-stretch") else classes

def finalize (tolerance : Float) (classes : List String) : List String :=
  dropStretch (consolidate (normalizeFlex (dropNegativeGaps (snap tolerance
    (dedupe (expandOverridden classes))))))

end Handoff.ClassList
