import Handoff.Proofs.ClassList.Unquoted
import Handoff.Proofs.Html.Elements
import Handoff.Proofs.Markup.Delimited
import Handoff.Proofs.Naming.Ordinary

/-!
# The texts between the delimiters of a page

All attributes of a page are escaped but class lists and the addresses of drawings.  The classes that
are made of names are ordinary, and so are these addresses, so a text that is not kept is a class list
with a quote from a rule.

* `Page.delimited`        the texts between delimiters, and `within_code`, that they stand in the code;
* `Page.Exposes`          how a node brings a text into the code that is not kept;
* `Page.kept_iff`         all others are kept.
-/

namespace Handoff.Html
open Text StyledNode

/-- what is trimmed off at the end is nothing that ends in a character that stays -/
theorem within_trimEndBy {p : Char → Bool} {s t : String} {front : List Char} {c : Char}
    (hs : s.toList = front ++ [c]) (hc : p c = false) (h : Within s t) :
    Within s (Text.trimEndBy p t) := by
  obtain ⟨a, b, e⟩ := h
  rw [Within, Text.trimEndBy, Text.toList_onChars, Chars.trimEndBy, ← e, List.append_assoc,
    List.reverse_append, List.reverse_append]
  have stays : s.toList.reverse.dropWhile p = s.toList.reverse := by
    rw [hs, List.reverse_append]
    exact List.dropWhile_cons_of_neg (by rw [hc]; decide)
  rw [List.append_assoc, List.dropWhile_append]
  split
  · have own : (s.toList.reverse ++ a.reverse).dropWhile p = s.toList.reverse ++ a.reverse := by
      rw [List.dropWhile_append, stays, hs]
      simp
    rw [own, List.reverse_append, List.reverse_reverse, List.reverse_reverse]
    exact (List.suffix_append a s.toList).isInfix
  · rw [List.reverse_append, List.reverse_append, List.reverse_reverse, List.reverse_reverse]
    exact ⟨a, _, rfl⟩

namespace Page
variable (p : Page)

/-- the texts between delimiters that a page is written with -/
def delimited : List Delimited := delimitedTexts p.root?.toList

/-- each of them stands in the code, between its delimiters -/
theorem within_code : ∀ d ∈ p.delimited, Within d.written p.code := by
  intro d hd
  have printed : Within d.written ((p.root?.map (Element.render 0)).getD "") := by
    unfold delimited at hd
    cases h : p.root? with
    | none =>
      rw [h] at hd
      exact absurd hd List.not_mem_nil
    | some e =>
      rw [h] at hd
      exact e.within_render 0 d hd
  have last : d.written.toList
      = (d.enclosure.delimiter ++ d.text).toList ++ [d.enclosure.mark] := by
    rw [Delimited.written, String.toList_append, Enclosure.toList_delimiter]
  have stays : Chars.isBlank d.enclosure.mark = false := by cases d.enclosure <;> decide
  exact (((within_trimEndBy last stays printed).append_left _).append_right _).append_right _

/-! ## what nodes bring along -/

/-- how a node brings a text into the code that is not kept -/
inductive Exposes (n : StyledNode) : Delimited → Prop
  /-- by a quote in the classes of its rules -/
  | classes {rules : String} (given : p.request.ruleClasses n.toStyledData = some rules)
      (quoted : ¬ Unquoted rules) : Exposes n ⟨.attribute,
        String.intercalate " " (className n.toStyledData :: ClassList.split rules)⟩

variable {p} {n : StyledNode} {d : Delimited}

theorem unquoted_className (n : StyledData) : Unquoted (className n) :=
  (Naming.ordinary_kebab _).unquoted

theorem Exposes.not_kept (h : p.Exposes n d) : ¬ d.Kept := by
  cases h with
  | @classes rules _ quoted =>
    rw [Delimited.kept_attribute_iff]
    intro unquoted
    refine quoted (ClassList.unquoted_split_iff.mp fun cls hcls quote => unquoted ?_)
    exact (within_intercalate (List.mem_cons_of_mem _ hcls)).subset quote

theorem classMarkup_cases (n : StyledNode) :
    ∀ d ∈ delimitedIn [p.classMarkup n.toStyledData], d.Kept ∨ p.Exposes n d := by
  have written (extra : List String) (h : ∀ cls ∈ extra, Unquoted cls) : Delimited.Kept
      ⟨.attribute, String.intercalate " " (className n.toStyledData :: extra)⟩ :=
    Delimited.kept_attribute_iff.mpr (unquoted_intercalate (by decide)
      (List.forall_mem_cons.mpr ⟨unquoted_className _, h⟩))
  intro d hd
  rw [List.mem_singleton.mp hd]
  cases given : p.request.ruleClasses n.toStyledData with
  | none => exact .inl (written [] (List.forall_mem_nil _))
  | some rules =>
    rw [Option.map_some, Option.getD_some]
    by_cases unquoted : Unquoted rules
    · exact .inl (written _ (ClassList.unquoted_split_iff.mpr unquoted))
    · exact .inr (.classes given unquoted)

theorem ownMarkup_cases (n : StyledNode) :
    ∀ d ∈ delimitedIn (p.classMarkup n.toStyledData :: dataMarkup n.toStyledData),
      d.Kept ∨ p.Exposes n d :=
  List.forall_mem_append.mpr ⟨fun d hd => classMarkup_cases n d (List.mem_append_left _ hd),
    fun d hd => .inl (kept_dataMarkup _ d hd)⟩

theorem imageMarkup_cases (n : StyledNode) {source : AttributeValue}
    (hs : ∀ d ∈ source.delimited, d.Kept) :
    ∀ d ∈ delimitedTexts [p.imageMarkup n.toStyledData source], d.Kept ∨ p.Exposes n d := by
  unfold imageMarkup
  rw [delimitedTexts_closed, delimitedIn_append]
  refine List.forall_mem_append.mpr ⟨ownMarkup_cases n, fun d hd => .inl ?_⟩
  obtain ⟨a, ha, hd⟩ := List.mem_flatMap.mp hd
  rcases List.mem_cons.mp ha with rfl | ha
  · rw [List.mem_singleton.mp hd]
    exact Delimited.kept_attributeValue _
  · rw [List.mem_singleton.mp ha] at hd
    exact hs d hd

theorem kept_layersElement (n : StyledData) :
    ∀ d ∈ delimitedTexts [p.layersElement n], d.Kept := by
  have name : Ordinary (className n) := Naming.ordinary_kebab _
  have layer (layer : FillLayer) (i : Nat) :
      ∀ d ∈ delimitedTexts [p.layerElement n layer i], d.Kept := by
    have cls : Delimited.Kept ⟨.attribute, layerClass n i⟩ :=
      Delimited.kept_of_ordinary _ ((name.append (by decide)).append (ordinary_toString _))
    unfold layerElement
    cases layer.kind with
    | image ref mode =>
      exact List.forall_mem_cons.mpr ⟨cls, List.forall_mem_cons.mpr
        ⟨Delimited.kept_attributeValue _, List.forall_mem_singleton.mpr
          (Delimited.kept_attributeValue _)⟩⟩
    | solid color => exact List.forall_mem_singleton.mpr cls
    | gradient css => exact List.forall_mem_singleton.mpr cls
  have layers (l : List (FillLayer × Nat)) :
      ∀ d ∈ delimitedTexts (l.map fun e => p.layerElement n e.1 e.2), d.Kept := by
    induction l with
    | nil => exact List.forall_mem_nil _
    | cons e l ih =>
      rw [List.map_cons, delimitedTexts_cons]
      exact List.forall_mem_append.mpr ⟨layer e.1 e.2, ih⟩
  unfold layersElement
  rw [delimitedTexts_block]
  refine List.forall_mem_append.mpr ⟨List.forall_mem_cons.mpr ⟨?_, List.forall_mem_singleton.mpr
    (Delimited.kept_attributeValue _)⟩, layers _⟩
  exact Delimited.kept_of_ordinary _ (name.append (by decide))

/-- the own elements of a node -/
theorem ownLists_cases (n : StyledNode) :
    ∀ d ∈ (p.ownLists n).flatMap delimitedIn, d.Kept ∨ p.Exposes n d := by
  show ∀ d ∈ delimitedTexts [p.nodeElement n []], _
  have own := ownMarkup_cases (p := p) n
  unfold nodeElement
  cases form n with
  | drawing =>
    exact imageMarkup_cases n (List.forall_mem_singleton.mpr
      (Delimited.kept_of_ordinary _ (ordinary_svgUrl _)))
  | image ref =>
    exact imageMarkup_cases n (List.forall_mem_singleton.mpr (Delimited.kept_attributeValue _))
  | text => exact delimitedTexts_leaf .. ▸ own
  | box layered =>
    cases layered with
    | true =>
      dsimp only
      rw [delimitedTexts_block]
      exact List.forall_mem_append.mpr ⟨own, fun d hd => .inl (kept_layersElement _ d hd)⟩
    | false =>
      dsimp only
      split
      · exact delimitedTexts_leaf .. ▸ own
      · rw [delimitedTexts_block]
        exact List.forall_mem_append.mpr ⟨own, List.forall_mem_nil _⟩

/-- what is not kept is brought along by a node that is written -/
theorem kept_iff (p : Page) : ∀ d ∈ p.delimited,
    d.Kept ↔ ¬ ∃ n ∈ p.request.root.written, p.Exposes n d := by
  intro d hd
  refine ⟨fun kept ⟨n, _, exposed⟩ => exposed.not_kept kept, ?_⟩
  have listed : d ∈ (p.request.root.written.flatMap p.ownLists).flatMap delimitedIn := by
    rw [← attributeLists_element?]
    exact hd
  rw [List.flatMap_assoc] at listed
  obtain ⟨n, written, own⟩ := List.mem_flatMap.mp listed
  exact (ownLists_cases n d own).resolve_right ∘ fun h exposed => h ⟨n, written, exposed⟩

end Page
end Handoff.Html
