import Handoff.Decimal.Notation
import Handoff.Naming.Case

/-!
# Names that are used once

* `fresh`           the first of `name`, `name2`, `name3`, … that is not in use;
* `NameRegistry`    element names: a repeated name gets a counter behind an underscore.

Among one more candidates than there are used names, one is free, so `fresh` looks no further.
-/

namespace Handoff
namespace Naming

/-- the candidates for a name, in the order in which they are tried -/
def candidate (base : String) (i : Nat) : String :=
  if i = 0 then base else base ++ toString (i + 1)

def fresh (used : List String) (base : String) : String :=
  (((List.range (used.length + 1)).map (candidate base)).find? fun n => !used.contains n).getD base

/-- the identifier of a property: camel case, never beginning with a digit -/
def identifierBase (name : String) : String :=
  Text.onChars (fun cs =>
    let c := camelChars cs
    if startsWithDigit c then ['p', 'r', 'o', 'p'] ++ c else c) name

def freshIdentifier (used : List String) (name : String) : String :=
  fresh used (identifierBase name)

/-- the variable of a vector image: camel case over the blanks of a name -/
def variableBase (name : String) : String :=
  Text.onChars (fun cs =>
    let words := Chars.words (cs.filter fun c => Chars.isAsciiAlnum c || Chars.isBlank c)
    let joined := camelWords words
    if joined.isEmpty then ['v', 'e', 'c', 't', 'o', 'r']
    else if startsWithDigit joined then ['s', 'v', 'g'] ++ joined else joined) name

def freshVariable (used : List String) (name : String) : String := fresh used (variableBase name)

end Naming

/-- the base names that were given out, with repetitions -/
structure NameRegistry where
  issued : List String := []
deriving Repr

namespace NameRegistry

instance : EmptyCollection NameRegistry := ⟨⟨[]⟩⟩

/-- the name of the `n`-th element with a base name, counted from zero -/
def numbered (base : String) (n : Nat) : String :=
  if n = 0 then base else base ++ "_" ++ Decimal.padLeft 2 n

/-- a name for a layer, and the registry that knows it -/
def issue (r : NameRegistry) (layer : String) : String × NameRegistry :=
  let base := Naming.identifier layer
  (numbered base (r.issued.count base), ⟨base :: r.issued⟩)

def size (r : NameRegistry) : Nat := r.issued.length

end NameRegistry
end Handoff
