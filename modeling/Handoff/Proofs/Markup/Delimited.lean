import Handoff.Markup
import Handoff.Proofs.Markup.Walk
import Handoff.Proofs.Text.Unquoted
import Handoff.Proofs.Text.Members

/-!
# The texts between the delimiters of markup

An attribute is written as one text between quotes, as an object of styles with a text between quotes
for each, or as an expression without any.  The texts of all elements are found in what is printed.

* `Delimited`               a text as it is written, and how it is enclosed;
* `Delimited.Kept`          a reader takes it for what it was meant to be;
* `AttributeValue.delimited`, `delimitedIn`, `delimitedTexts`   those of attributes and elements;
* `within_render`           each of them stands in the markup, between its delimiters;
* `kept_of_ordinary`, `kept_attributeValue`, `kept_script`   texts that are kept.
-/

namespace Handoff
open Text

/-- what stands on both sides of a text -/
def Enclosure.delimiter : Enclosure → String
  | .attribute | .script => "\""
  | .template => "`"

theorem Enclosure.toList_delimiter (e : Enclosure) : e.delimiter.toList = [e.mark] := by
  cases e <;> decide

/-- a text between delimiters, as it is written -/
structure Delimited where
  enclosure : Enclosure
  text : String
deriving DecidableEq, Repr

namespace Delimited

def written (d : Delimited) : String := d.enclosure.delimiter ++ d.text ++ d.enclosure.delimiter

/-- a text between two others that end and begin with its delimiter -/
theorem within_around (e : Enclosure) (s front back : String) {opening closing : String}
    (ho : opening = front ++ e.delimiter) (hc : closing = e.delimiter ++ back) :
    Within (written ⟨e, s⟩) (opening ++ s ++ closing) := by
  have regrouped : opening ++ s ++ closing = front ++ written ⟨e, s⟩ ++ back := by
    simp only [ho, hc, written, String.append_assoc]
  exact regrouped ▸ within_middle front (written ⟨e, s⟩) back

/-- between its delimiters it is read as it is, whatever follows -/
def Kept (d : Delimited) : Prop := d.enclosure.Keeps d.text.toList

instance (d : Delimited) : Decidable d.Kept := inferInstanceAs (Decidable (Enclosure.Keeps _ _))

/-- a mark ends it inside of itself, or an interpolation begins there -/
def Broken (d : Delimited) : Prop := d.enclosure.read .plain d.text.toList = none

instance (d : Delimited) : Decidable d.Broken := inferInstanceAs (Decidable (_ = _))

theorem not_kept_of_broken {d : Delimited} (h : d.Broken) : ¬ d.Kept := by
  rw [Kept, Enclosure.keeps_iff, h]
  exact fun ⟨_, read, _⟩ => nomatch read

variable {s : String}

theorem kept_of_ordinary (e : Enclosure) (h : Ordinary s) : Kept ⟨e, s⟩ :=
  Enclosure.keeps_of_read (Enclosure.read_ordinary h)

theorem kept_attribute_iff : Kept ⟨.attribute, s⟩ ↔ Unquoted s := Enclosure.keeps_attribute_iff

theorem kept_attributeValue (s : String) : Kept ⟨.attribute, Escape.attributeValue s⟩ := by
  rw [Kept, Escape.attributeValue, Text.toList_onChars]
  exact Enclosure.keeps_attributeChars _

theorem kept_script (s : String) : Kept ⟨.script, Escape.script s⟩ := by
  rw [Kept, Escape.script, Text.toList_onChars]
  exact Enclosure.keeps_scriptChars _

end Delimited

/-! ## attributes -/

/-- the texts between quotes that a value is written with -/
def AttributeValue.delimited : AttributeValue → List Delimited
  | .text s => [⟨.attribute, Escape.attributeValue s⟩]
  | .verbatim s => [⟨.attribute, s⟩]
  | .expression _ => []
  | .styles entries => entries.map fun e => ⟨.script, e.2⟩

def delimitedIn (as : List Attribute) : List Delimited := as.flatMap fun a => a.value.delimited

theorem delimitedIn_append (a b : List Attribute) :
    delimitedIn (a ++ b) = delimitedIn a ++ delimitedIn b := List.flatMap_append

theorem Attribute.within_render {a : Attribute} {d : Delimited} (h : d ∈ a.value.delimited) :
    Within d.written a.render := by
  unfold Attribute.render
  refine Within.append_left ?_ _
  cases value : a.value with
  | text s =>
    rw [value] at h
    rw [List.mem_singleton.mp h]
    exact Within.refl _
  | verbatim s =>
    rw [value] at h
    rw [List.mem_singleton.mp h]
    exact Within.refl _
  | expression code =>
    rw [value] at h
    exact absurd h List.not_mem_nil
  | styles entries =>
    rw [value] at h
    obtain ⟨e, he, rfl⟩ := List.mem_map.mp h
    have entry : Within (Attribute.quotes e.2) (e.1 ++ ": " ++ Attribute.quotes e.2) :=
      (Within.refl _).append_left _
    have listed : Within (Attribute.quotes e.2) (String.intercalate ", "
        (entries.map fun e => e.1 ++ ": " ++ Attribute.quotes e.2)) :=
      entry.trans (within_intercalate (List.mem_map_of_mem he))
    exact (((listed.append_left " ").append_right " ").trans (within_middle "\x7b" _ "\x7d")).trans
      (within_middle "\x7b" _ "\x7d")

/-- the data of a node is escaped -/
theorem kept_dataMarkup (n : StyledData) : ∀ d ∈ delimitedIn (dataMarkup n), d.Kept := by
  intro d hd
  obtain ⟨a, ha, hd⟩ := List.mem_flatMap.mp hd
  obtain ⟨e, _, rfl⟩ := List.mem_map.mp ha
  rw [List.mem_singleton.mp hd]
  exact Delimited.kept_attributeValue _

/-! ## elements -/

/-- the texts between quotes in elements and in all that is inside of them -/
def delimitedTexts (es : List Element) : List Delimited := (attributeLists es).flatMap delimitedIn

theorem delimitedTexts_append (a b : List Element) :
    delimitedTexts (a ++ b) = delimitedTexts a ++ delimitedTexts b := by
  unfold delimitedTexts
  rw [attributeLists_append, List.flatMap_append]

theorem delimitedTexts_cons (e : Element) (es : List Element) :
    delimitedTexts (e :: es) = delimitedTexts [e] ++ delimitedTexts es := delimitedTexts_append [e] es

theorem delimitedTexts_closed (tag : String) (as : List Attribute) :
    delimitedTexts [.closed tag as] = delimitedIn as := List.append_nil _

theorem delimitedTexts_leaf (tag : String) (as : List Attribute) (content : Content) :
    delimitedTexts [.leaf tag as content] = delimitedIn as := List.append_nil _

theorem delimitedTexts_block (tag : String) (as : List Attribute) (es : List Element) :
    delimitedTexts [.block tag as es] = delimitedIn as ++ delimitedTexts es := by
  unfold delimitedTexts
  rw [attributeLists_block, List.flatMap_cons]

namespace Element

/-- induction along the recursion of the walks: from lists of elements to what is around them -/
theorem forest {P : Element → Prop} {Q : List Element → Prop}
    (closed : ∀ tag as, P (.closed tag as)) (leaf : ∀ tag as content, P (.leaf tag as content))
    (block : ∀ tag as es, Q es → P (.block tag as es)) (nil : Q [])
    (cons : ∀ e es, P e → Q es → Q (e :: es)) (e : Element) : P e :=
  Element.rec closed leaf block nil cons e

theorem within_opening {tag : String} {as : List Attribute} {d : Delimited}
    (h : d ∈ delimitedIn as) : Within d.written (opening tag as) := by
  obtain ⟨a, ha, hd⟩ := List.mem_flatMap.mp h
  exact (((Attribute.within_render hd).trans (within_intercalate
    (List.mem_cons_of_mem tag (List.mem_map_of_mem ha)))).append_left _)

theorem within_line (depth : Nat) (text : String) : Within text (line depth text) :=
  within_middle _ _ _

theorem within_render (e : Element) : ∀ (depth : Nat), ∀ d ∈ delimitedTexts [e],
    Within d.written (e.render depth) := by
  induction e using forest (Q := fun es => ∀ (depth : Nat), ∀ d ∈ delimitedTexts es,
    Within d.written (renderAll depth es)) with
  | closed tag as =>
    intro depth d hd
    rw [delimitedTexts_closed] at hd
    exact ((within_opening hd).append_right _).trans (within_line depth _)
  | leaf tag as content =>
    intro depth d hd
    rw [delimitedTexts_leaf] at hd
    refine Within.trans ?_ (within_line depth _)
    exact (((((within_opening hd).append_right _).append_right _).append_right _).append_right
      _).append_right _
  | block tag as es ih =>
    intro depth d hd
    rw [delimitedTexts_block] at hd
    rcases List.mem_append.mp hd with own | inside
    · exact ((((within_opening own).append_right _).trans
        (within_line depth _)).append_right _).append_right _
    · exact ((ih (depth + 1) d inside).append_left _).append_right _
  | nil depth d hd => exact absurd hd List.not_mem_nil
  | cons e es ih ihs depth d hd =>
    rw [delimitedTexts_cons] at hd
    rcases List.mem_append.mp hd with first | others
    · exact (ih depth d first).append_right _
    · exact (ihs depth d others).append_left _

end Element
end Handoff
