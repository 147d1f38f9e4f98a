import Handoff.Proofs.Naming.Properties
import Handoff.Proofs.Text.Members

/-!
# What references to variables mean

A style refers to a variable by a custom property, and the block of definitions gives the property
of each variable its value, in the order of the table.  The last definition of a property counts.
Names that are spelled differently may give one property, and then it has the value of the last of
these variables, whichever is referred to.

* `referred?`, `definitionsIn`   references and definitions, read from texts;
* `Variables.definitions`        what the block defines, and `definitionsIn_rootBlock`, that it is
                                 read so;
* `exists_entry`                 the entry of the table that an id is found at;
* `references_resolved_iff`      when a reference means the value of its own variable;
* `reference_to_other_blue`      a reference that does not.
-/

namespace Handoff
open Chars

/-! ## reading -/

/-- the custom property that a reference names -/
def referred? (s : String) : Option String := do
  let rest ← Text.dropPrefix? "var(--" s
  let (property, _) ← Text.cut? ',' rest
  some property

/-- the property that a line defines, and its value -/
def definition? (line : String) : Option (String × String) := do
  let rest ← Text.dropPrefix? "  --" line
  let body ← Text.dropSuffix? ";" rest
  let (property, value) ← Text.cut? ':' body
  let value ← Text.dropPrefix? " " value
  some (property, value)

def definitionsIn (block : String) : List (String × String) :=
  (Text.splitOn '\n' block).filterMap definition?

/-- the value that a property has in the end -/
def lastIn? (ds : List (String × String)) (property : String) : Option String :=
  ((ds.filter fun d => d.1 = property).getLast?).map Prod.snd

def definitionLine (d : String × String) : String := "  --" ++ d.1 ++ ": " ++ d.2 ++ ";"

/-- what was written as a definition is read as one -/
theorem definition?_line {property value : String} (h : ':' ∉ property.toList) :
    definition? (definitionLine (property, value)) = some (property, value) := by
  have line : definitionLine (property, value)
      = "  --" ++ (property ++ ": " ++ value ++ ";") := by
    simp only [definitionLine, String.append_assoc]
  have cut : Text.cut? ':' (property ++ ": " ++ value) = some (property, " " ++ value) := by
    refine Text.cut?_eq_some_iff.mpr ⟨?_, h⟩
    simp
  unfold definition?
  rw [line, Text.dropPrefix?_append]
  simp only [Option.bind_eq_bind, Option.bind_some, Text.dropSuffix?_append, cut, Text.dropPrefix?_append]

/-- behind an entry the last one with its property counts, or the entry itself -/
theorem lastIn?_map {α : Type} (property value : α → String) (before after : List α) (e : α) :
    lastIn? ((before ++ e :: after).map fun e => (property e, value e)) (property e)
      = some (value ((after.filter fun e' => property e' = property e).getLast?.getD e)) := by
  have own : (e :: after).filter (fun e' => decide (property e' = property e))
      = e :: after.filter fun e' => decide (property e' = property e) :=
    List.filter_cons_of_pos (decide_eq_true rfl)
  have shared : (fun d : String × String => decide (d.1 = property e))
      ∘ (fun e => (property e, value e)) = fun e' => decide (property e' = property e) := rfl
  rw [lastIn?, List.filter_map, shared, List.filter_append, own,
    List.getLast?_map, List.getLast?_append, List.getLast?_cons]
  rfl

/-! ## tables -/

namespace Variables

/-- the property of an entry: it is named for the variable, or made from the key -/
def ownProperty (e : String × Variable) : String :=
  let named := Naming.cssName e.2.name
  if named = "" then derivedProperty e.1 else named

/-- what the block defines, in the order of the table -/
def definitions (vs : Variables) : List (String × String) :=
  vs.entries.map fun e => (ownProperty e, e.2.cssValue)

section
variable {vs : Variables} {id : String} {v : Variable}

theorem customProperty_eq (h : vs.lookup? id = some v) :
    vs.customProperty id = ownProperty (id, v) := by
  rw [customProperty, h]
  rfl

theorem customProperty_of_mem {e : String × Variable} (h : e ∈ vs.entries) :
    vs.customProperty e.1 = ownProperty e := by
  refine customProperty_eq (v := e.2) ?_
  rw [lookup?, Dict.mem_entries_iff.mp h]
  rfl

/-- an id is found under a key: the id itself, or one with the same short form -/
theorem exists_entry (h : vs.lookup? id = some v) : ∃ k, (k, v) ∈ vs.entries ∧
    (k = id ∨ ∃ short, shortId? id = some short ∧ shortId? k = some short) := by
  unfold lookup? at h
  cases full : vs.get? id with
  | some w =>
    rw [full] at h
    obtain rfl : w = v := Option.some.inj h
    exact ⟨id, Dict.mem_entries_iff.mpr full, .inl rfl⟩
  | none =>
    rw [full] at h
    obtain ⟨short, hshort, h⟩ := Option.bind_eq_some_iff.mp h
    cases pair : vs.get? short with
    | some w =>
      rw [pair] at h
      obtain rfl : w = v := Option.some.inj h
      exact ⟨short, Dict.mem_entries_iff.mpr pair, .inr ⟨short, hshort, shortId?_short hshort⟩⟩
    | none =>
      rw [pair] at h
      obtain ⟨⟨k, w⟩, found, rfl⟩ := Option.map_eq_some_iff.mp h
      have same := List.find?_some found
      exact ⟨k, List.mem_of_find?_eq_some found, .inr ⟨short, hshort, eq_of_beq same⟩⟩

/-- the key does not matter beyond its short form -/
theorem ownProperty_congr {k : String}
    (h : k = id ∨ ∃ short, shortId? id = some short ∧ shortId? k = some short) :
    ownProperty (k, v) = ownProperty (id, v) := by
  rcases h with rfl | ⟨short, hid, hk⟩
  · rfl
  · unfold ownProperty
    rw [derivedProperty_congr hk hid]

end

theorem isProperty_ownProperty (e : String × Variable) : IsProperty (ownProperty e) := by
  unfold ownProperty
  dsimp only
  split
  · exact isProperty_derivedProperty e.1
  · exact Naming.isProperty_cssName e.2.name

theorem referred?_reference (vs : Variables) (id fallback : String) :
    referred? (vs.reference id fallback) = some (vs.customProperty id) := by
  have text : vs.reference id fallback
      = "var(--" ++ (vs.customProperty id ++ ", " ++ fallback ++ ")") := by
    simp only [reference, String.append_assoc]
  have noComma : ',' ∉ (vs.customProperty id).toList := fun comma =>
    absurd (vs.isProperty_customProperty id ',' comma) (by decide)
  have cut : Text.cut? ',' (vs.customProperty id ++ ", " ++ fallback ++ ")")
      = some (vs.customProperty id, " " ++ fallback ++ ")") := by
    refine Text.cut?_eq_some_iff.mpr ⟨?_, noComma⟩
    simp
  unfold referred?
  rw [text, Text.dropPrefix?_append]
  simp only [Option.bind_eq_bind, Option.bind_some, cut]

/-! ## the block of definitions -/

theorem rootBlock_eq {vs : Variables} (filled : vs.entries ≠ []) :
    vs.rootBlock = String.intercalate "\n"
      (":root \x7b" :: (vs.definitions.map definitionLine ++ ["\x7d"])) := by
  have entries : vs.isEmpty = false := Bool.eq_false_iff.mpr fun h => filled (List.isEmpty_iff.mp h)
  have lines : vs.entries.map (fun e => "  --" ++ vs.customProperty e.1 ++ ": " ++ e.2.cssValue
      ++ ";") = vs.definitions.map definitionLine := by
    rw [definitions, List.map_map]
    refine List.map_congr_left fun e he => ?_
    rw [customProperty_of_mem he]
    simp only [Function.comp_apply, definitionLine]
  rw [rootBlock, entries, if_neg Bool.false_ne_true, lines]
  rfl

theorem filterMap_definition? (vs : Variables) :
    (vs.definitions.map definitionLine).filterMap definition? = vs.definitions := by
  have each (e : String × Variable) : definition? (definitionLine (ownProperty e, e.2.cssValue))
      = some (ownProperty e, e.2.cssValue) :=
    definition?_line fun colon => absurd (isProperty_ownProperty e ':' colon) (by decide)
  rw [definitions, List.filterMap_map, List.filterMap_map]
  simp only [Function.comp_def, each]
  exact congrFun List.filterMap_eq_map vs.entries

/-- a definition takes up one line where its value does -/
theorem flat_definitionLine {e : String × Variable} (flat : '\n' ∉ e.2.cssValue.toList) :
    '\n' ∉ (definitionLine (ownProperty e, e.2.cssValue)).toList := by
  intro broken
  simp only [definitionLine, String.toList_append, List.mem_append] at broken
  rcases broken with (((front | own) | colon) | value) | stop
  · exact absurd front (by decide)
  · exact absurd (isProperty_ownProperty e '\n' own) (by decide)
  · exact absurd colon (by decide)
  · exact flat value
  · exact absurd stop (by decide)

/-- the block is read as it is meant, line by line, where each value is on one line -/
theorem definitionsIn_rootBlock (vs : Variables)
    (flat : ∀ e ∈ vs.entries, '\n' ∉ e.2.cssValue.toList) :
    definitionsIn vs.rootBlock = vs.definitions := by
  by_cases none : vs.entries = []
  · rw [rootBlock, definitions, Dict.isEmpty, none]
    rfl
  · have lines : ∀ l ∈ vs.definitions.map definitionLine, '\n' ∉ l.toList := by
      rw [definitions, List.map_map]
      exact List.forall_mem_map.mpr fun e he => flat_definitionLine (flat e he)
    have ends : definition? ":root \x7b" = Option.none ∧ definition? "\x7d" = Option.none := by
      constructor <;> rfl
    have whole : ∀ l ∈ ":root \x7b" :: (vs.definitions.map definitionLine ++ ["\x7d"]),
        '\n' ∉ l.toList := List.forall_mem_cons.mpr ⟨by decide,
      List.forall_mem_append.mpr ⟨lines, List.forall_mem_singleton.mpr (by decide)⟩⟩
    rw [definitionsIn, rootBlock_eq none, Text.splitOn_intercalate rfl (List.cons_ne_nil _ _) whole,
      List.filterMap_cons_none ends.1, List.filterMap_append, filterMap_definition?,
      List.filterMap_cons_none ends.2, List.filterMap_nil, List.append_nil]

/-- **When a reference means the value of its own variable.**  An id that is found in a table is
found at an entry of it.  The reference to the id names the property of that entry, and the block of
definitions defines the property with the value of the variable.  It is also the value that the
property has in the end exactly if the last of the later entries with this property, if there is
any, has the same value. -/
theorem references_resolved_iff (vs : Variables) {id : String} {v : Variable}
    (h : vs.lookup? id = some v) : ∃ before k after, vs.entries = before ++ (k, v) :: after ∧
      (k = id ∨ ∃ short, shortId? id = some short ∧ shortId? k = some short) ∧
      vs.customProperty id = ownProperty (k, v) ∧
      (∀ fallback, referred? (vs.reference id fallback) = some (vs.customProperty id)) ∧
      Text.Within ("  --" ++ vs.customProperty id ++ ": " ++ v.cssValue ++ ";") vs.rootBlock ∧
      (vs.customProperty id, v.cssValue) ∈ vs.definitions ∧
      (lastIn? vs.definitions (vs.customProperty id) = some v.cssValue ↔
        ∀ e, (after.filter fun e => ownProperty e = vs.customProperty id).getLast? = some e →
          e.2.cssValue = v.cssValue) ∧
      ((∀ e ∈ vs.entries, '\n' ∉ e.2.cssValue.toList) →
        definitionsIn vs.rootBlock = vs.definitions) := by
  obtain ⟨k, hk, key⟩ := exists_entry h
  obtain ⟨before, after, entries⟩ := List.append_of_mem hk
  have property : vs.customProperty id = ownProperty (k, v) :=
    (customProperty_eq h).trans (ownProperty_congr key).symm
  have defined : (ownProperty (k, v), v.cssValue) ∈ vs.definitions := List.mem_map_of_mem hk
  have written : Text.Within (definitionLine (ownProperty (k, v), v.cssValue)) vs.rootBlock := by
    rw [rootBlock_eq (List.ne_nil_of_mem hk)]
    exact Text.within_intercalate
      (List.mem_cons_of_mem _ (List.mem_append_left _ (List.mem_map_of_mem defined)))
  refine ⟨before, k, after, entries, key, property, vs.referred?_reference id, ?_, ?_, ?_,
    vs.definitionsIn_rootBlock⟩
  · simp only [definitionLine, ← property] at written
    exact written
  · rw [property]
    exact defined
  · rw [property, definitions, entries, lastIn?_map, Option.some_inj]
    cases last : (after.filter fun e => ownProperty e = ownProperty (k, v)).getLast? with
    | none => exact iff_of_true rfl fun e he => nomatch he
    | some e =>
      constructor
      · rintro same e' ⟨⟩
        exact same
      · exact fun same => same e rfl

/-- a variable that is found by the short form of an id, and whose name says nothing: both its
property and that of the reference are made from the short form -/
theorem references_resolved_short :
    let unnamed : Variable := { name := "!", value := .str "8px" }
    let vs : Variables := ⟨[("a/7:3", unnamed)], by decide⟩
    vs.lookup? "b/7:3" = some unnamed ∧
      vs.customProperty "b/7:3" = "var-7-3" ∧
      (vs.customProperty "b/7:3", "8px") ∈ vs.definitions := by
  intro unnamed vs
  have some : (vs.lookup? "b/7:3").isSome = true := by decide +kernel
  obtain ⟨v, found⟩ := Option.isSome_iff_exists.mp some
  obtain ⟨k, only, -⟩ := exists_entry found
  obtain ⟨-, rfl⟩ := Prod.mk.inj (List.mem_singleton.mp only)
  obtain ⟨_, _, _, _, _, _, _, _, defined, _⟩ := references_resolved_iff vs found
  exact ⟨found, by decide +kernel, defined⟩

/-- two blues have one property, so both of them are navy in the end -/
theorem reference_to_other_blue :
    let vs : Variables := ⟨[("1:1", { name := "Brand/Blue", value := .str "blue" }),
      ("1:2", { name := "Brand Blue", value := .str "navy" })], by decide⟩
    (vs.lookup? "1:1").map Variable.cssValue = some "blue" ∧
      referred? (vs.reference "1:1" "blue") = some "brand-blue" ∧
      definitionsIn vs.rootBlock = [("brand-blue", "blue"), ("brand-blue", "navy")] ∧
      lastIn? (definitionsIn vs.rootBlock) "brand-blue" = some "navy" := by
  decide +kernel

end Variables
end Handoff
