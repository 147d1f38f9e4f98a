import Handoff.Proofs.Html.Lookups
import Handoff.Proofs.Styled.Overlapped
import Handoff.Proofs.Text.Members

/-!
# What is written in a stylesheet

Every node that is written has a rule in the stylesheet, and the declarations of the rule are written
out.  So the address of an image in the rules of a node can be found in the stylesheet.

* `exists_rules`      the rules of a node are among those of the tree;
* `within_render`     a declaration of a rule is written in the stylesheet;
* `exists_address`    a known image in the rules of a node is in one of its declarations;
* `within_css`        its address is in the stylesheet.
-/

namespace Handoff.Html
open StyledNode Text

/-! ## declarations -/

theorem within_declarationText (property : String) (v : StyleValue) :
    Within v.show (declarationText (property, v)) := within_middle _ _ _

theorem StyleRule.within_render (indent : String) {rule : StyleRule} {d : Declaration}
    (h : d ∈ rule.styles.entries) : Within (declarationText d) (rule.render indent) := by
  have lines : Within (declarationText d) (String.intercalate "\n"
      (rule.styles.entries.map fun d => indent ++ "  " ++ declarationText d)) :=
    ((Within.refl _).append_left (indent ++ "  ")).trans
      (within_intercalate (List.mem_map_of_mem h))
  exact (((lines.append_left _).append_right _).append_right _).append_right _

theorem Stylesheet.within_render (definitions : Option String) {s : Stylesheet} {rule : StyleRule}
    (h : rule ∈ s.base) : Within (rule.render "") (s.render definitions) := by
  refine within_intercalate (List.mem_append_left _ (List.mem_append_left _ ?_))
  exact List.mem_append_right _ (List.mem_map_of_mem h)

/-! ## parts of stylesheets -/

/-- the rules of one stylesheet are among those of another, at each width -/
structure Stylesheet.Part (s t : Stylesheet) : Prop where
  base : s.base ⊆ t.base
  tablet : s.tablet ⊆ t.tablet
  desktop : s.desktop ⊆ t.desktop

namespace Stylesheet
variable {s t : Stylesheet}

theorem Part.refl (s : Stylesheet) : Part s s := ⟨fun _ => id, fun _ => id, fun _ => id⟩

theorem Part.trans {u : Stylesheet} (h : Part s t) (k : Part t u) : Part s u :=
  ⟨fun _ hr => k.base (h.base hr), fun _ hr => k.tablet (h.tablet hr),
    fun _ hr => k.desktop (h.desktop hr)⟩

theorem Part.append_left (h : Part s t) (u : Stylesheet) : Part s (u ++ t) :=
  ⟨fun _ hr => List.mem_append_right _ (h.base hr),
    fun _ hr => List.mem_append_right _ (h.tablet hr),
    fun _ hr => List.mem_append_right _ (h.desktop hr)⟩

theorem Part.append_right (h : Part s t) (u : Stylesheet) : Part s (t ++ u) :=
  ⟨fun _ hr => List.mem_append_left _ (h.base hr),
    fun _ hr => List.mem_append_left _ (h.tablet hr),
    fun _ hr => List.mem_append_left _ (h.desktop hr)⟩

end Stylesheet

namespace Page
variable (p : Page)

/-! ## the rules of the nodes -/

theorem part_nodeSheet_own (n : StyledNode) (overlap : Option Overlap) (s : Stylesheet) :
    (widthRules n.toStyledData (p.nodeStyles overlap n)).Part (p.nodeSheet overlap n s) := by
  unfold nodeSheet
  split
  · exact .refl _
  · exact .refl _
  · exact .refl _
  · exact ((Stylesheet.Part.refl _).append_right _).append_right _
  · exact (Stylesheet.Part.refl _).append_right _

theorem part_nodeSheet_inner {n : StyledNode} (overlap : Option Overlap)
    (box : (n.isDrawn || n.isText) = false) (inhabited : n.children ≠ []) {s t : Stylesheet}
    (h : s.Part t) : s.Part (p.nodeSheet overlap n t) := by
  obtain ⟨plain, text⟩ := Bool.or_eq_false_iff.mp box
  have sole : soleImage? n = none := by
    cases image : soleImage? n with
    | none => rfl
    | some ref => exact absurd (children_of_soleImage? image) inhabited
  unfold nodeSheet
  rw [form_of_not_drawn plain, sole, text]
  cases needsLayers n with
  | true => exact h.append_left _
  | false => exact h.append_left _

/-- the rules of a tree hold those of each node that is written, beside the rules of its inner -/
theorem exists_nodeSheet (n : StyledNode) : ∀ overlap : Option Overlap,
    ∀ entry ∈ n.overlapped overlap,
      ∃ inner, (p.nodeSheet entry.1 entry.2 inner).Part (p.sheet overlap n) := by
  induction n using forest
    (Q := fun ns => ∀ overlap : Option Overlap, ∀ entry ∈ overlappedAll overlap ns,
      ∃ inner, (p.nodeSheet entry.1 entry.2 inner).Part (p.sheets overlap ns)) with
  | node d cs ih =>
    intro overlap entry hentry
    unfold sheet
    cases rendered : d.isRendered with
    | false => rw [overlapped_hidden rendered] at hentry; cases hentry
    | true =>
      rw [if_pos rfl]
      have own : (p.nodeSheet overlap ⟨d, cs⟩ (p.sheets d.overlap cs)).Part
          (p.nodeSheet overlap ⟨d, cs⟩ (p.sheets d.overlap cs)) := .refl _
      cases leaf : isDrawn ⟨d, cs⟩ || d.isText with
      | true =>
        rw [overlapped_leaf rendered leaf] at hentry
        rw [List.mem_singleton.mp hentry]
        exact ⟨_, own⟩
      | false =>
        rw [overlapped_box rendered leaf] at hentry
        rcases List.mem_cons.mp hentry with rfl | hentry
        · exact ⟨_, own⟩
        · obtain ⟨inner, part⟩ := ih d.overlap entry hentry
          have inhabited : cs ≠ [] := fun e => by rw [e] at hentry; cases hentry
          exact ⟨inner, p.part_nodeSheet_inner overlap leaf inhabited part⟩
  | nil _ _ hentry => cases hentry
  | cons n ns ih ihs overlap entry hentry =>
    rw [sheets]
    rcases List.mem_append.mp hentry with hentry | hentry
    · obtain ⟨inner, part⟩ := ih _ entry hentry
      exact ⟨inner, part.append_right _⟩
    · obtain ⟨inner, part⟩ := ihs overlap entry hentry
      exact ⟨inner, part.append_left _⟩

/-- the rules of a tree hold those of each node that is written, by the overlap that it has -/
theorem part_sheet (n : StyledNode) (overlap : Option Overlap) {entry : Option Overlap × StyledNode}
    (h : entry ∈ n.overlapped overlap) :
    (widthRules entry.2.toStyledData (p.nodeStyles entry.1 entry.2)).Part (p.sheet overlap n) := by
  obtain ⟨inner, part⟩ := p.exists_nodeSheet n overlap entry h
  exact (p.part_nodeSheet_own entry.2 entry.1 inner).trans part

theorem exists_rules (n : StyledNode) (overlap : Option Overlap) (m : StyledNode)
    (hm : m ∈ n.written) : ∃ overlap' : Option Overlap,
      (widthRules m.toStyledData (p.nodeStyles overlap' m)).Part (p.sheet overlap n) := by
  rw [← map_snd_overlapped n overlap] at hm
  obtain ⟨entry, hentry, rfl⟩ := List.mem_map.mp hm
  exact ⟨entry.1, p.part_sheet n overlap hentry⟩

/-! ## images in the rules -/

theorem get?_put_of_ne {s : Styles} {key property value : String} (other : key ≠ property) :
    (s.put property value).get? key = s.get? key :=
  (Dict.get?_set ..).trans (if_neg other)

theorem get?_withOverlap (overlap : Option Overlap) (s : Styles) {key : String}
    (other : key ∉ ["margin-right", "margin-bottom"]) :
    (withOverlap overlap s).get? key = s.get? key := by
  rw [List.mem_pair, not_or] at other
  unfold withOverlap
  split
  · exact get?_put_of_ne other.1
  · exact get?_put_of_ne other.2
  · rfl

/-- the properties of a mask -/
def maskKeys : List String :=
  (maskDeclarations "-webkit-" "" ++ maskDeclarations "" "").map Prod.fst

theorem get?_withMask (n : StyledData) (s : Styles) {key : String} (other : key ∉ maskKeys) :
    (p.withMask n s).get? key = s.get? key := by
  unfold withMask
  split
  · next url _ =>
    refine Dict.get?_setAll_of_not_mem fun e he same => other ?_
    have mem : e.1 ∈ (maskDeclarations "-webkit-" url ++ maskDeclarations "" url).map Prod.fst :=
      List.mem_map_of_mem he
    exact same ▸ mem
  · rfl

theorem get?_withImage (n : StyledData) (s : Styles) {key : String}
    (other : key ≠ "background-image") : (p.withImage n s).get? key = s.get? key := by
  unfold withImage
  split
  · split
    · exact get?_put_of_ne other
    · rfl
  · rfl

theorem get?_formStyles (n : StyledNode) {key : String}
    (other : key ∉ ["background-image", "background-size", "object-fit", "position"]) :
    (p.formStyles n).get? key = (p.request.styles n.toStyledData).get? key := by
  simp only [List.mem_cons, List.not_mem_nil, or_false, not_or] at other
  obtain ⟨image, size, fit, position⟩ := other
  have without (s : Styles) : (withoutImage s).get? key = s.get? key := by
    rw [withoutImage, Dict.get?_erase, if_neg size, Dict.get?_erase, if_neg image]
  unfold formStyles
  dsimp only
  split
  · rfl
  · rfl
  · rfl
  · refine (Dict.get?_setAll_of_not_mem fun e he same => fit ?_).trans (without _)
    unfold declare? at he
    split at he
    · rw [← same, List.mem_singleton.mp he]
      rfl
    · cases he
  · refine Eq.trans ?_ (without _)
    rw [Styles.putDefault, Dict.setDefault]
    split
    · rfl
    · exact get?_put_of_ne position

theorem within_cssUrl (url : String) : Within url (cssUrl url) := within_middle _ _ _

theorem within_quotedCssUrl (url : String) : Within url (quotedCssUrl url) :=
  (within_middle _ _ _).trans (within_cssUrl _)

/-- a known image in the rules of a node is in one of its declarations -/
theorem exists_address {n : StyledNode} {ref url : String} (h : ref ∈ p.ruleImages n)
    (known : p.assets.image? ref = some url) (overlap : Option Overlap) :
    ∃ key value, key ≠ "display" ∧ (p.nodeStyles overlap n).get? key = some (.text value)
      ∧ Within url value := by
  rcases List.mem_append.mp h with h | h
  · split at h
    · next has =>
      refine ⟨"background-image", cssUrl url, by decide, ?_, within_cssUrl url⟩
      have shown : imageUrl p.assets n.toStyledData ref = url := by
        rw [imageUrl, Assets.imageOr, known]
        rfl
      unfold nodeStyles
      rw [get?_withMask p _ _ (by decide), get?_withOverlap _ _ (by decide), withImage,
        Option.mem_toList.mp h]
      dsimp only
      rw [if_pos has, shown]
      exact (Dict.get?_set ..).trans (if_pos rfl)
    · cases h
  · refine ⟨"mask-image", quotedCssUrl url, by decide, ?_, within_quotedCssUrl url⟩
    have mask : maskUrl? p.assets n.toStyledData = some url := by
      rw [maskUrl?, Option.mem_toList.mp h]
      exact known
    unfold nodeStyles withMask
    rw [mask]
    dsimp only
    rw [Styles.write, Dict.get?_setAll]
    rfl

theorem get?_withDisplay {key : String} (other : key ≠ "display") (shownAs : String)
    (change : Option Bool) (s : Styles) : (withDisplay shownAs change s).get? key = s.get? key := by
  unfold withDisplay
  split
  · exact get?_put_of_ne other
  · rfl

/-- a node that declares something, other than how it is displayed, has a rule for all widths that
declares the same -/
theorem exists_ownRule (n : StyledData) {styles : Styles} {key : String} {v : StyleValue}
    (other : key ≠ "display") (h : styles.get? key = some v) :
    ∃ own : Styles, ⟨className n, own⟩ ∈ (widthRules n styles).base ∧
      ∀ k, k ≠ "display" → own.get? k = styles.get? k := by
  obtain ⟨shownAs, change, base⟩ : ∃ shownAs change, (widthRules n styles).base
      = Stylesheet.rule (className n) (withDisplay shownAs change styles) := ⟨_, _, rfl⟩
  have entry : (key, v) ∈ (withDisplay shownAs change styles).entries :=
    Dict.mem_entries_iff.mpr ((get?_withDisplay other ..).trans h)
  have filled : (withDisplay shownAs change styles).isEmpty = false :=
    List.isEmpty_eq_false_iff.mpr (List.ne_nil_of_mem entry)
  refine ⟨withDisplay shownAs change styles, ?_, fun k hk => get?_withDisplay hk ..⟩
  rw [base, Stylesheet.rule, filled]
  exact List.mem_singleton_self _

theorem exists_declaration (n : StyledData) {styles : Styles} {key : String} {v : StyleValue}
    (other : key ≠ "display") (h : styles.get? key = some v) :
    ∃ rule ∈ (widthRules n styles).base, (key, v) ∈ rule.styles.entries := by
  obtain ⟨own, mem, same⟩ := exists_ownRule n other h
  exact ⟨_, mem, Dict.mem_entries_iff.mpr ((same key other).trans h)⟩

/-- the address of a known image in the rules of a node that is written is in the stylesheet -/
theorem within_css {n : StyledNode} (hn : n ∈ p.request.root.written) {ref url : String}
    (h : ref ∈ p.ruleImages n) (known : p.assets.image? ref = some url) : Within url p.css := by
  obtain ⟨overlap, own⟩ := p.exists_rules p.request.root none n hn
  obtain ⟨key, value, other, get, within⟩ := p.exists_address h known overlap
  obtain ⟨rule, hrule, entry⟩ := exists_declaration n.toStyledData other get
  have declared : Within url (declarationText (key, .text value)) :=
    within.trans (within_declarationText key (.text value))
  exact (declared.trans (StyleRule.within_render "" entry)).trans
    (Stylesheet.within_render p.request.rootVariables (own.base hrule))

end Page
end Handoff.Html
