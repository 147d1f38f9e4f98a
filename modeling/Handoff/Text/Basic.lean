import Handoff.Text.Chars
import Handoff.Text.Lowercase

/-!
# Operations on strings

The operations of `Handoff.Chars`, taken to strings and back.
-/

namespace Handoff.Text

def onChars (f : List Char → List Char) (s : String) : String := String.ofList (f s.toList)

@[simp] theorem toList_onChars (f : List Char → List Char) (s : String) :
    (onChars f s).toList = f s.toList := by
  simp [onChars]

def trim (s : String) : String := onChars Chars.trim s

def trimBy (p : Char → Bool) (s : String) : String := onChars (Chars.trimBy p) s

def trimStartBy (p : Char → Bool) (s : String) : String := onChars (Chars.trimStartBy p) s

def trimEndBy (p : Char → Bool) (s : String) : String := onChars (Chars.trimEndBy p) s

def lowercase (s : String) : String := onChars Chars.lowercase s

/-- lower case on the ASCII letters only -/
def asciiLower (s : String) : String := onChars (List.map Char.toLower) s

/-- upper case on the ASCII letters only -/
def asciiUpper (s : String) : String := onChars (List.map Char.toUpper) s

def dropPrefix? (piece s : String) : Option String :=
  (Chars.dropPrefix? piece.toList s.toList).map String.ofList

def dropSuffix? (piece s : String) : Option String :=
  (Chars.dropSuffix? piece.toList s.toList).map String.ofList

def startsWith (piece s : String) : Bool := Chars.startsWith piece.toList s.toList

def endsWith (piece s : String) : Bool := Chars.endsWith piece.toList s.toList

def contains (piece s : String) : Bool := Chars.contains piece.toList s.toList

def pair (p : List Char × List Char) : String × String := (String.ofList p.1, String.ofList p.2)

def cut? (c : Char) (s : String) : Option (String × String) := (Chars.cut? c s.toList).map pair

theorem cut?_eq_some_iff {c : Char} {s a b : String} :
    cut? c s = some (a, b) ↔ s.toList = a.toList ++ c :: b.toList ∧ c ∉ a.toList := by
  rw [cut?, Option.map_eq_some_iff]
  constructor
  · rintro ⟨⟨x, y⟩, h, e⟩
    obtain ⟨rfl, rfl⟩ := Prod.mk.inj e
    rw [String.toList_ofList, String.toList_ofList]
    exact Chars.cut?_eq_some_iff.mp h
  · intro h
    refine ⟨(a.toList, b.toList), Chars.cut?_eq_some_iff.mpr h, ?_⟩
    rw [pair, String.ofList_toList, String.ofList_toList]

def cutLast? (c : Char) (s : String) : Option (String × String) :=
  (Chars.cutLast? c s.toList).map pair

def cutAt? (piece s : String) : Option (String × String) :=
  (Chars.cutAt? piece.toList s.toList).map pair

def splitWhere (p : Char → Bool) (s : String) : List String :=
  (Chars.splitWhere p s.toList).map String.ofList

def splitOn (c : Char) (s : String) : List String := splitWhere (· == c) s

def words (s : String) : List String := (Chars.words s.toList).map String.ofList

def joinWith (sep : String) (ps : List String) : String :=
  String.ofList (Chars.joinWith sep.toList (ps.map String.toList))

def replaceAll (piece new s : String) : String :=
  onChars (Chars.replaceAll piece.toList new.toList) s

def replaceChar (c : Char) (new s : String) : String := onChars (Chars.replaceChar c new.toList) s

def all (p : Char → Bool) (s : String) : Bool := s.toList.all p

end Handoff.Text
