import Handoff.Generation.Attributes
import Handoff.Proofs.Text.Ascii
import Handoff.Proofs.Text.Members

/-!
# The data attributes of a node

The element of a node tells its layer and its id, and what its component properties are.  Properties
have names of their own, which become names of attributes and forget most of how they were written;
so a property can come to have the name under which the layer or the id is told.  It is then the
property that is told.

* `IsDashed`                lower-case letters with single dashes between them;
* `isDataName_of_dataKey?`  the names that properties get are of this form;
* `givenText?`              what properties and references say under a name;
* `ownText?`                what a node says of itself;
* `get?_dataAttributes`     of these the first comes before the second;
* `data_attributes`         the layer and the id are told unless something else is said instead.
-/

namespace Handoff
open Chars

/-! ## names -/

/-- lower-case letters with single dashes between them -/
inductive IsDashed : List Char → Prop
  | last {c : Char} (letter : isAsciiLower c = true) : IsDashed [c]
  | letter {c : Char} {cs : List Char} (letter : isAsciiLower c = true) (rest : IsDashed cs) :
      IsDashed (c :: cs)
  | dash {c : Char} {cs : List Char} (letter : isAsciiLower c = true) (rest : IsDashed cs) :
      IsDashed (c :: '-' :: cs)

/-- the names of data attributes -/
def IsDataName (name : String) : Prop := ∃ cs, name.toList = "data-".toList ++ cs ∧ IsDashed cs

/-- a word of lower-case letters -/
def IsLowerWord (w : List Char) : Prop := w ≠ [] ∧ ∀ c ∈ w, isAsciiLower c = true

theorem IsLowerWord.isDashed_append {w tail : List Char} (h : IsLowerWord w)
    (ends : ∀ c, isAsciiLower c = true → IsDashed (c :: tail)) : IsDashed (w ++ tail) := by
  obtain ⟨filled, letters⟩ := h
  induction w with
  | nil => exact absurd rfl filled
  | cons c w ih =>
    obtain ⟨letter, letters⟩ := List.forall_mem_cons.mp letters
    cases w with
    | nil => exact ends c letter
    | cons d w => exact .letter letter (ih (List.cons_ne_nil d w) letters)

theorem isDashed_joinWith {ws : List (List Char)} (filled : ws ≠ [])
    (h : ∀ w ∈ ws, IsLowerWord w) : IsDashed (joinWith ['-'] ws) := by
  induction ws with
  | nil => exact absurd rfl filled
  | cons w ws ih =>
    obtain ⟨word, h⟩ := List.forall_mem_cons.mp h
    cases ws with
    | nil => exact List.append_nil w ▸ word.isDashed_append fun _ => .last
    | cons v ws =>
      have rest : IsDashed (joinWith ['-'] (v :: ws)) := ih (List.cons_ne_nil v ws) h
      have joined := word.isDashed_append fun _ letter => .dash letter rest
      rwa [← List.singleton_append, ← List.append_assoc] at joined

/-- letters become lower-case, and what separates words becomes a dash; all else is dropped -/
theorem isDashed_attributeChars {cs : List Char} (filled : Naming.attributeChars cs ≠ []) :
    IsDashed (Naming.attributeChars cs) := by
  unfold Naming.attributeChars at filled ⊢
  dsimp only at filled ⊢
  generalize hs : cs.flatMap _ = spelled at filled ⊢
  have chars : ∀ d ∈ spelled, (d == '-') = true ∨ isAsciiLower d = true := by
    intro d hd
    obtain ⟨c, -, hd⟩ := List.mem_flatMap.mp (hs ▸ hd)
    split at hd
    · next upper =>
      rcases List.mem_cons.mp hd with rfl | hd
      · exact .inl rfl
      · have lower := isAsciiLower_toLower (isAsciiAlpha_iff.mpr (.inr upper))
        exact .inr (List.mem_singleton.mp hd ▸ lower)
    · next upper =>
      split at hd
      · next letter =>
        exact .inr (List.mem_singleton.mp hd ▸ (isAsciiAlpha_iff.mp letter).resolve_right upper)
      · split at hd
        · exact .inl (beq_iff_eq.mpr (List.mem_singleton.mp hd))
        · exact absurd hd List.not_mem_nil
  refine isDashed_joinWith (fun none => filled (by rw [none]; rfl)) fun w hw => ?_
  obtain ⟨piece, nonempty⟩ := List.mem_filter.mp hw
  refine ⟨by simpa using nonempty, fun c hc => ?_⟩
  refine (chars c (mem_of_mem_splitWhere piece hc)).resolve_left ?_
  rw [not_of_mem_splitWhere w piece c hc]
  exact Bool.false_ne_true

theorem isDataName_of_dataKey? {key name : String} (h : dataKey? key = some name) :
    IsDataName name := by
  unfold dataKey? at h
  dsimp only at h
  split at h
  · cases h
  · next filled =>
    cases h
    refine ⟨Naming.attributeChars key.toList, ?_, isDashed_attributeChars fun none => filled ?_⟩
    · rw [String.toList_append, Naming.attributeName, Text.toList_onChars]
    · rw [Naming.attributeName, Text.onChars, none]

/-! ## what is said under a name -/

/-- the text of the last item whose key becomes the name -/
def lastNamed? {α : Type} (key text : α → String) (name : String) (l : List α) : Option String :=
  (l.filter fun e => dataKey? (key e) = some name).getLast?.map text

/-- what properties say under a name, else what references say -/
def givenText? (n : StyledData) (name : String) : Option String :=
  let properties := n.source.componentProperties.entries
  let references := n.source.componentPropertyReferences.keys
  (lastNamed? Prod.fst (fun e => propertyText e.2.value) name properties).or
    (lastNamed? (fun key => key) (fun _ => "true") name references)

/-- what a node says of itself -/
def ownText? (n : StyledData) (name : String) : Option String :=
  if name = "data-layer" then some (Naming.shortLayer n.name)
  else if name = "data-node-id" then some n.id
  else none

/-- no property and no reference becomes the name -/
def IsUngiven (n : StyledData) (name : String) : Prop :=
  (∀ key ∈ n.source.componentProperties.keys, dataKey? key ≠ some name) ∧
    ∀ key ∈ n.source.componentPropertyReferences.keys, dataKey? key ≠ some name

section
variable {α : Type} (key text : α → String) (name : String) (l : List α)

theorem lastNamed?_eq_none_iff :
    lastNamed? key text name l = none ↔ ∀ e ∈ l, dataKey? (key e) ≠ some name := by
  rw [lastNamed?, Option.map_eq_none_iff, List.getLast?_eq_none_iff, List.filter_eq_nil_iff]
  simp only [decide_eq_true_eq, ne_eq]

theorem filter_named :
    ((l.filterMap fun e => (dataKey? (key e)).map fun n => (n, text e)).filter fun e => e.1 = name)
      = (l.filter fun e => dataKey? (key e) = some name).map fun e => (name, text e) := by
  induction l with
  | nil => rfl
  | cons e l ih =>
    rw [List.filterMap_cons, List.filter_cons]
    cases h : dataKey? (key e) with
    | none => simpa using ih
    | some n =>
      by_cases same : n = name
      · simp [same, ih]
      · simp [same, ih]

theorem getLast?_named :
    ((l.filterMap fun e => (dataKey? (key e)).map fun n => (n, text e)).filter
        fun e => e.1 = name).getLast?.map Prod.snd = lastNamed? key text name l := by
  rw [filter_named, List.getLast?_map, Option.map_map]
  rfl

end

theorem givenText?_eq_none_iff {n : StyledData} {name : String} :
    givenText? n name = none ↔ IsUngiven n name := by
  rw [givenText?, Option.or_eq_none_iff, lastNamed?_eq_none_iff, lastNamed?_eq_none_iff]
  simp only [IsUngiven, Dict.keys, List.forall_mem_map]

theorem ownText?_eq (n : StyledData) (name : String) :
    (([("data-layer", Naming.shortLayer n.name), ("data-node-id", n.id)].filter
      fun e => e.1 = name).getLast?).map Prod.snd = ownText? n name := by
  unfold ownText?
  by_cases layer : name = "data-layer"
  · subst layer
    simp
  · by_cases id : name = "data-node-id"
    · subst id
      simp
    · simp [Ne.symm layer, Ne.symm id, layer, id]

/-- what is said of a node in its properties comes before what it says of itself -/
theorem get?_dataAttributes (n : StyledData) (name : String) :
    (dataAttributes n).get? name = (givenText? n name).or (ownText? n name) := by
  rw [dataAttributes, Dict.ofList, Dict.get?_setAll, Dict.get?_empty, Option.or_none, dataEntries,
    List.filter_append, List.filter_append, List.getLast?_append, List.getLast?_append]
  simp only [Option.map_or]
  rw [getLast?_named Prod.fst, getLast?_named fun key => key, ownText?_eq, givenText?,
    Option.or_assoc]

/-- an attribute has what the node says of itself unless something else is said in its place -/
theorem get?_dataAttributes_eq_iff {n : StyledData} {name own : String}
    (h : ownText? n name = some own) :
    (dataAttributes n).get? name = some own
      ↔ ∀ text, givenText? n name = some text → text = own := by
  rw [get?_dataAttributes, h]
  cases givenText? n name with
  | none => exact iff_of_true rfl fun text given => by cases given
  | some text =>
    rw [Option.some_or, Option.some_inj]
    exact ⟨fun same _ given => Option.some.inj given ▸ same, fun same => same text rfl⟩

theorem mem_keys_dataAttributes {n : StyledData} {name : String} :
    name ∈ (dataAttributes n).keys
      ↔ name = "data-layer" ∨ name = "data-node-id" ∨ ¬ IsUngiven n name := by
  rw [Dict.mem_keys_iff, get?_dataAttributes, Option.isSome_or, Bool.or_eq_true,
    ← givenText?_eq_none_iff, Option.isSome_iff_ne_none, or_comm, ← or_assoc]
  refine or_congr ?_ Iff.rfl
  unfold ownText?
  split
  · next layer => exact iff_of_true rfl (.inl layer)
  · next layer =>
    split
    · next id => exact iff_of_true rfl (.inr id)
    · next id => exact iff_of_false Bool.false_ne_true (not_or.mpr ⟨layer, id⟩)

theorem isDataName_of_not_isUngiven {n : StyledData} {name : String} (h : ¬ IsUngiven n name) :
    IsDataName name :=
  Classical.byContradiction fun other => h
    ⟨fun _ _ named => other (isDataName_of_dataKey? named),
      fun _ _ named => other (isDataName_of_dataKey? named)⟩

/-- what a node says of itself could be the name of a property -/
theorem dataKey?_own :
    dataKey? "Layer" = some "data-layer" ∧ dataKey? "Node Id" = some "data-node-id" := by
  decide +kernel

theorem isDataName_of_mem_keys {n : StyledData} {name : String}
    (h : name ∈ (dataAttributes n).keys) : IsDataName name := by
  rcases mem_keys_dataAttributes.mp h with rfl | rfl | given
  · exact isDataName_of_dataKey? dataKey?_own.1
  · exact isDataName_of_dataKey? dataKey?_own.2
  · exact isDataName_of_not_isUngiven given

/-- Every attribute is named by letters and single dashes.  A property or a reference that has the
name of an attribute is told there, the last one of a name before the others and a property before
a reference; else the layer and the id are told. -/
theorem data_attributes (n : StyledData) :
    (∀ name, (dataAttributes n).get? name = (givenText? n name).or (ownText? n name)) ∧
    (∀ name, givenText? n name = none ↔ IsUngiven n name) ∧
    ((dataAttributes n).get? "data-layer" = some (Naming.shortLayer n.name)
      ↔ ∀ text, givenText? n "data-layer" = some text → text = Naming.shortLayer n.name) ∧
    ((dataAttributes n).get? "data-node-id" = some n.id
      ↔ ∀ text, givenText? n "data-node-id" = some text → text = n.id) ∧
    ∀ name ∈ (dataAttributes n).keys, IsDataName name :=
  ⟨get?_dataAttributes n, fun _ => givenText?_eq_none_iff, get?_dataAttributes_eq_iff rfl,
    get?_dataAttributes_eq_iff rfl, fun _ => isDataName_of_mem_keys⟩

/-- a property by the name of the layer and one by that of the id are told in their places -/
theorem attributes_of_properties :
    let card : StyledData := {
      source := {
        id := "1"
        name := "Card"
        componentProperties :=
          (Dict.set ∅ "Layer" { value := .str "Front" }).set "Node Id" { value := .str "Back" } }
      uniqueName := "card" }
    Naming.shortLayer card.name = "card" ∧ card.id = "1" ∧
      (dataAttributes card).get? "data-layer" = some "Front" ∧
      (dataAttributes card).get? "data-node-id" = some "Back" := by
  refine ⟨?_, rfl, ?_, ?_⟩ <;> decide +kernel

end Handoff
