import Handoff.ClassList.Basic

/-!
# Groups of classes that exclude each other

Two classes of one group set the same property, so that only the later one counts.  A class whose
base begins with a minus belongs to the group of its positive form.
-/

namespace Handoff.ClassList

/-- classes whose group shows in the whole name -/
def exactGroups : List (String × String) := [
  ("flex", "display"), ("inline-flex", "display"), ("block", "display"),
  ("inline-block", "display"), ("grid", "display"), ("inline-grid", "display"),
  ("hidden", "display"), ("inline", "display"), ("contents", "display"),
  ("static", "position"), ("relative", "position"), ("absolute", "position"),
  ("fixed", "position"), ("sticky", "position"),
  ("flex-row", "flex-direction"), ("flex-col", "flex-direction"),
  ("flex-row-reverse", "flex-direction"), ("flex-col-reverse", "flex-direction"),
  ("flex-wrap", "flex-wrap"), ("flex-nowrap", "flex-wrap"), ("flex-wrap-reverse", "flex-wrap"),
  ("grow", "grow"), ("grow-0", "grow"), ("shrink", "shrink"), ("shrink-0", "shrink"),
  ("rounded", "rounded"), ("text-left", "text-align"), ("text-center", "text-align"),
  ("text-right", "text-align"), ("text-justify", "text-align"),
  ("italic", "font-style"), ("not-italic", "font-style")]

/-- classes whose group shows in the beginning of the name; the first that fits decides -/
def leadGroups : List (String × String) := [
  ("min-w-", "min-w"), ("max-w-", "max-w"), ("min-h-", "min-h"), ("max-h-", "max-h"),
  ("w-", "w"), ("h-", "h"), ("gap-x-", "gap-x"), ("gap-y-", "gap-y"), ("gap-", "gap"),
  ("px-", "px"), ("py-", "py"), ("pt-", "pt"), ("pr-", "pr"), ("pb-", "pb"), ("pl-", "pl"),
  ("p-", "p"), ("mx-", "mx"), ("my-", "my"), ("mt-", "mt"), ("mr-", "mr"), ("mb-", "mb"),
  ("ml-", "ml"), ("m-", "m"), ("top-", "top"), ("right-", "right"), ("bottom-", "bottom"),
  ("left-", "left"), ("z-", "z"), ("opacity-", "opacity"), ("rounded-tl", "rounded-tl"),
  ("rounded-tr", "rounded-tr"), ("rounded-br", "rounded-br"), ("rounded-bl", "rounded-bl"),
  ("rounded-", "rounded"), ("justify-", "justify"), ("items-", "items"), ("self-", "self"),
  ("leading-", "leading"), ("tracking-", "tracking"), ("overflow-x-", "overflow-x"),
  ("overflow-y-", "overflow-y"), ("overflow-", "overflow"), ("rotate-", "rotate"),
  ("backdrop-blur", "backdrop-blur")]

def fontWeightNames : List String :=
  ["thin", "extralight", "light", "normal", "medium", "semibold", "bold", "extrabold", "black"]

def fontSizeNames : List String :=
  ["xs", "sm", "base", "lg", "xl", "2xl", "3xl", "4xl", "5xl", "6xl", "7xl", "8xl", "9xl"]

/-- the group of what follows font- -/
def fontGroup? (rest : String) : Option String :=
  if fontWeightNames.contains rest then some "font-weight"
  else if Text.startsWith "['" rest then some "font-family"
  else none

/-- the group of what follows text- : only sizes have one -/
def textGroup? (rest : String) : Option String :=
  if fontSizeNames.contains rest || (Text.startsWith "[" rest && Text.endsWith "px]" rest) then
    some "font-size"
  else none

def group? (base : String) : Option String :=
  let base := (Text.dropPrefix? "-" base).getD base
  match exactGroups.lookup base with
  | some g => some g
  | none =>
    match leadGroups.find? fun e => Text.startsWith e.1 base with
    | some e => some e.2
    | none =>
      match Text.dropPrefix? "font-" base with
      | some rest => fontGroup? rest
      | none =>
        match Text.dropPrefix? "text-" base with
        | some rest => textGroup? rest
        | none => if base = "blur" || Text.startsWith "blur-" base then some "blur" else none

/-- variant and group of a class: two classes with the same key exclude each other -/
def groupKey? (cls : String) : Option (String × String) :=
  (group? (baseOf cls)).map fun g => (variantOf cls, g)

/-- keeps the last class of every group, and the first of equal classes without a group -/
def dedupeAfter (seen : List String) : List String → List String
  | [] => []
  | c :: cs =>
    if (groupKey? c).isSome && cs.any fun d => groupKey? d == groupKey? c then dedupeAfter seen cs
    else if seen.contains c then dedupeAfter seen cs
    else c :: dedupeAfter (c :: seen) cs

def dedupe (classes : List String) : List String := dedupeAfter [] classes

end Handoff.ClassList
