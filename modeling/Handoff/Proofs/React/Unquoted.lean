import Handoff.Proofs.ClassList.Unquoted
import Handoff.React.Component

/-!
# Quotes in the classes of elements

The classes of an element are fixed words, measures, and what its styles, overlays and rules give.  So
a quote in them is a quote in one of these.

* `Request.classSources`       the values that the classes of a node are made from;
* `unquoted_elementClasses`, `unquoted_drawingClasses`   the classes of elements;
* `unquoted_classText`         the classes as they are written.
-/

namespace Handoff

namespace Request

def styleValues (s : Styles) : List String := s.entries.map fun d => d.2.show

/-- the values that the classes of a node are made from, and the classes of its rules -/
def classSources (r : Request) (n : StyledData) : List String :=
  styleValues (r.styles n)
    ++ [(n.responsive.getD {}).md, (n.responsive.getD {}).lg].flatMap
      (fun s => styleValues (s.getD ∅))
    ++ (r.ruleClasses n).toList

end Request

namespace React

theorem mem_entries_erase {s : Styles} {key : String} {d : Declaration}
    (h : d ∈ (s.erase key).entries) : d ∈ s.entries := List.mem_of_mem_filter h

/-! ## classes of fixed words -/

theorem unquoted_visibilityClasses (p : Option Presence) :
    ∀ cls ∈ (p.map visibilityClasses).getD [], Unquoted cls := by
  cases p with
  | none => exact List.forall_mem_nil _
  | some p =>
    obtain ⟨mobile, tablet, desktop⟩ := p
    revert mobile tablet desktop
    decide

namespace Renderer
variable (c : Renderer) {n : StyledNode}

theorem unquoted_shownAs (flex : Bool) {cls : String} (h : Unquoted cls) :
    Unquoted (shownAs flex cls) := by
  unfold shownAs
  split
  · exact h.replaceAll (by decide)
  · exact h

theorem unquoted_overlapClass (o : Overlap) : Unquoted (overlapClass o) := by
  unfold overlapClass
  refine ((Unquoted.append ?_ (by decide)).append (Decimal.ordinary_trimmed _).unquoted).append
    (by decide)
  cases o.direction <;> decide

/-! ## classes from styles, overlays and rules -/

/-- the classes of the value of a property, if it has one -/
theorem unquoted_text? {s : Styles} {property value : String}
    (h : ∀ v ∈ Request.styleValues s, Unquoted v) (hv : s.text? property = some value) :
    Unquoted value := by
  obtain ⟨v, get, rfl⟩ := Option.map_eq_some_iff.mp hv
  exact h _ (List.mem_map_of_mem (f := fun d : Declaration => d.2.show)
    (Dict.mem_entries_iff.mpr get))

theorem unquoted_sideClasses {s : Styles} (h : ∀ v ∈ Request.styleValues s, Unquoted v)
    (property : String) {utility : String} (hu : Unquoted utility) (extent : Float) :
    ∀ cls ∈ sideClasses s property utility extent, Unquoted cls := by
  have measured : ∀ cls ∈ (if 0.0 < extent then
      [utility ++ "-[" ++ Decimal.plain extent.round ++ "px]"] else []), Unquoted cls := by
    split
    · exact List.forall_mem_singleton.mpr (((hu.append (by decide)).append
        (Decimal.ordinary_plain _).unquoted).append (by decide))
    · exact List.forall_mem_nil _
  unfold sideClasses
  dsimp only
  split
  · next value hv =>
    split
    · exact ClassList.unquoted_classesOf property (unquoted_text? h hv)
    · exact measured
  · exact measured

theorem unquoted_placement {s : Styles} (h : ∀ v ∈ Request.styleValues s, Unquoted v)
    (key : String) : ∀ cls ∈ ((s.text? key).map (Utility.classesOf key)).getD [], Unquoted cls := by
  cases hv : s.text? key with
  | none => exact List.forall_mem_nil _
  | some value =>
    rw [Option.map_some, Option.getD_some]
    exact ClassList.unquoted_classesOf key (unquoted_text? h hv)

theorem unquoted_ruleClassList (responsive : List String) {rules : String} (h : Unquoted rules) :
    ∀ cls ∈ ruleClassList responsive rules, Unquoted cls := fun cls hcls =>
  ClassList.unquoted_split_iff.mpr h cls (List.mem_of_mem_filter hcls)

/-- a filled node shows some of its styles in other ways, and the others as they are -/
theorem mem_shownStyles {d : Declaration} (h : d ∈ (c.shownStyles n).entries) :
    d ∈ (c.request.styles n.toStyledData).entries := by
  unfold shownStyles at h
  dsimp only at h
  split at h
  · exact h
  · exact mem_entries_erase (mem_entries_erase h)
  · exact mem_entries_erase (mem_entries_erase h)

theorem unquoted_widthClasses {width : String} (hw : Unquoted width) {s : Styles}
    (h : ∀ v ∈ Request.styleValues s, Unquoted v) : ∀ cls ∈ widthClasses width s, Unquoted cls := by
  intro cls hcls
  obtain ⟨d, hd, hcls⟩ := List.mem_flatMap.mp hcls
  split at hcls
  · rw [List.mem_singleton.mp hcls]
    exact hw.append (by decide)
  · obtain ⟨base, hbase, rfl⟩ := List.mem_map.mp hcls
    exact (hw.append (by decide)).append
      (ClassList.unquoted_classesOf d.1 (h _ (List.mem_map_of_mem hd)) base hbase)

theorem unquoted_responsiveClasses {n : StyledData}
    (h : ∀ s ∈ [(n.responsive.getD {}).md, (n.responsive.getD {}).lg],
      ∀ v ∈ Request.styleValues (s.getD ∅), Unquoted v) :
    ∀ cls ∈ responsiveClasses n, Unquoted cls := by
  have width {lead : String} (hl : Unquoted lead) {s : Option Styles}
      (hs : ∀ v ∈ Request.styleValues (s.getD ∅), Unquoted v) :
      ∀ cls ∈ (s.map (widthClasses lead)).getD [], Unquoted cls := by
    cases s with
    | none => exact List.forall_mem_nil _
    | some s => exact unquoted_widthClasses hl hs
  unfold responsiveClasses
  split
  · next r given =>
    rw [given] at h
    exact List.forall_mem_append.mpr
      ⟨width (by decide) (h r.md (by simp)), width (by decide) (h r.lg (by simp))⟩
  · exact List.forall_mem_nil _

theorem unquoted_elementClasses (overlap : Option Overlap)
    (h : ∀ s ∈ c.request.classSources n.toStyledData, Unquoted s) :
    ∀ cls ∈ c.elementClasses overlap n (c.shownStyles n), Unquoted cls := by
  obtain ⟨hstyles, hrules⟩ := List.forall_mem_append.mp h
  obtain ⟨hown, hwidths⟩ := List.forall_mem_append.mp hstyles
  have shown : ∀ d ∈ (c.shownStyles n).entries, Unquoted d.2.show := fun d hd =>
    hown _ (List.mem_map_of_mem (c.mem_shownStyles hd))
  have widths : ∀ cls ∈ responsiveClasses n.toStyledData, Unquoted cls :=
    unquoted_responsiveClasses fun s hs v hv => hwidths v (List.mem_flatMap.mpr ⟨s, hs, hv⟩)
  have overlapped : ∀ cls ∈ (overlap.map overlapClass).toList, Unquoted cls := by
    cases overlap with
    | none => exact List.forall_mem_nil _
    | some o => exact List.forall_mem_singleton.mpr (unquoted_overlapClass o)
  have visible (flex : Bool) : ∀ cls ∈ ((n.presence.map visibilityClasses).getD []).map
      (shownAs flex), Unquoted cls := by
    intro cls hcls
    obtain ⟨base, hbase, rfl⟩ := List.mem_map.mp hcls
    exact unquoted_shownAs flex (unquoted_visibilityClasses _ base hbase)
  have ruled : ∀ cls ∈ ((c.request.ruleClasses n.toStyledData).map
      (ruleClassList (responsiveClasses n.toStyledData))).getD [], Unquoted cls := by
    cases hr : c.request.ruleClasses n.toStyledData with
    | none => exact List.forall_mem_nil _
    | some rules =>
      rw [hr] at hrules
      exact unquoted_ruleClassList _ (hrules rules List.mem_cons_self)
  unfold elementClasses
  dsimp only
  simp only [List.forall_mem_append]
  refine ⟨⟨⟨⟨⟨⟨⟨⟨by decide, ?_⟩, by decide⟩, overlapped⟩, ?_⟩,
    ClassList.unquoted_ofStyles shown⟩, widths⟩, visible _⟩, ruled⟩
  · split <;> decide
  · split <;> decide

theorem unquoted_drawingClasses {d : StyledData}
    (h : ∀ s ∈ c.request.classSources d, Unquoted s) :
    ∀ cls ∈ drawingClasses d (c.request.styles d), Unquoted cls := by
  have own := (List.forall_mem_append.mp (List.forall_mem_append.mp h).1).1
  have placed : ∀ cls ∈ placementKeys.flatMap (fun key =>
      (((c.request.styles d).text? key).map (Utility.classesOf key)).getD []), Unquoted cls := by
    intro cls hcls
    obtain ⟨key, -, hcls⟩ := List.mem_flatMap.mp hcls
    exact unquoted_placement own key cls hcls
  unfold drawingClasses
  simp only [List.forall_mem_append]
  exact ⟨⟨⟨⟨by decide, unquoted_sideClasses own _ (by decide) _⟩,
    unquoted_sideClasses own _ (by decide) _⟩, placed⟩, unquoted_visibilityClasses _⟩

/-- the classes that are written have no quotes that they are not given -/
theorem unquoted_classText {classes : List String} (h : ∀ cls ∈ classes, Unquoted cls) :
    Unquoted (c.classText classes) := by
  have final := ClassList.unquoted_finalize c.request.options.spacingTolerance h
  unfold classText
  dsimp only
  refine unquoted_intercalate (by decide) ?_
  split
  · exact ClassList.unquoted_modernize final
  · exact final

end Renderer
end React
end Handoff
