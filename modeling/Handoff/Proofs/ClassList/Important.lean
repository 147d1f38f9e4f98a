import Handoff.Proofs.ClassList.Margins
import Handoff.Proofs.ClassList.Shorthand

/-!
# The important marker in the newer spelling

The older spelling has the marker `!` in front of a base, the newer one behind it.  Whether a class
is marked would not matter to its base if the marker moved to the end and the base became what it
becomes alone (`MarkerMoves`).  But `modernizeBase?` does one rewriting at most: behind a marker no
base is renamed or dropped, no list of tracks is rewritten, and a custom property in parentheses
keeps the marker in front.

* `modernizeBase?_marked`        what becomes of a base behind a marker;
* `modernizeBase?_eq_self_iff`   the bases that stay as they are;
* `markerMoves_iff`              the marker moves just for these.
-/

namespace Handoff.ClassList

/-! ## bases with a marker -/

theorem toList_marked (b : String) : ("!" ++ b).toList = '!' :: b.toList := by simp

theorem renames_unmarked : ∀ e ∈ renames, e.1.toList.head? ≠ some '!' := by decide

theorem lookup_marked (b : String) : renames.lookup ("!" ++ b) = none := by
  refine Option.eq_none_iff_forall_ne_some.mpr fun new found => ?_
  have other := renames_unmarked _ (mem_renames found)
  rw [toList_marked] at other
  exact other rfl

/-- no piece that starts with another character begins a base with a marker -/
theorem not_prefix_marked (piece : String) (filled : piece ≠ "")
    (other : piece.toList.head? ≠ some '!') (b : String) :
    ¬ piece.toList <+: ("!" ++ b).toList := by
  rw [toList_marked]
  cases chars : piece.toList with
  | nil => exact absurd (String.toList_inj.mp chars) filled
  | cons c cs =>
    rw [chars] at other
    exact fun begins => other (congrArg some (List.cons_prefix_cons.mp begins).1)

theorem isTrackList_marked (b : String) : isTrackList ("!" ++ b) = false := by
  have cols := not_prefix_marked "grid-cols-[" (by decide) (by decide) b
  have rows := not_prefix_marked "grid-rows-[" (by decide) (by decide) b
  rw [isTrackList, Bool.eq_false_iff.mpr (mt startsWith_iff.mp cols),
    Bool.eq_false_iff.mpr (mt startsWith_iff.mp rows)]
  rfl

theorem isOpacityUtility_marked (b : String) : isOpacityUtility ("!" ++ b) = false := by
  have pieces : ∀ u ∈ ["bg", "text", "border", "divide", "ring", "placeholder"],
      u ++ "-opacity-" ≠ "" ∧ (u ++ "-opacity-").toList.head? ≠ some '!' := by decide
  rw [isOpacityUtility, List.any_eq_false]
  intro u hu
  rw [dropPrefix?_eq_none (not_prefix_marked _ (pieces u hu).1 (pieces u hu).2 b)]
  exact Bool.false_ne_true

/-- a reading with a marker in front of its utility -/
def Reading.marked (r : Reading) : Reading where
  utility := "!" ++ r.utility
  hint := r.hint
  value := r.value
  name := r.name
  utility_open := by simp [r.utility_open]
  isHint := r.isHint
  names := r.names

theorem Reading.base_marked (r : Reading) : r.marked.base = "!" ++ r.base := by
  simp only [Reading.base, Reading.marked, String.append_assoc]

theorem Reading.short_marked (r : Reading) : r.marked.short = "!" ++ r.short := by
  simp only [Reading.short, Reading.marked, String.append_assoc]

/-- a marker does not make a reading -/
theorem Reading.exists_unmarked {r : Reading} {b : String} (h : r.base = "!" ++ b) :
    ∃ r : Reading, r.base = b := by
  obtain ⟨utility, hint, value, name, opened, isHint, names⟩ := r
  have chars := congrArg String.toList h
  simp only [Reading.base, String.toList_append, List.append_assoc] at chars
  cases front : utility.toList with
  | nil =>
    rw [front] at chars
    exact absurd (List.cons.inj chars).1 (by decide)
  | cons c cs =>
    rw [front] at chars
    have closed : '[' ∉ (String.ofList cs).toList := by
      rw [String.toList_ofList]
      exact fun mem => opened (front ▸ List.mem_cons_of_mem c mem)
    refine ⟨⟨String.ofList cs, hint, value, name, closed, isHint, names⟩, ?_⟩
    have rest := (List.cons.inj chars).2
    rw [← String.toList_inj]
    simpa [Reading.base] using rest

/-! ## what becomes of them -/

theorem important?_marked {b : String} (positive : Text.startsWith "-" b = false) :
    important? ("!" ++ b) = some b := by
  rw [important?, Text.dropPrefix?_eq_some_iff.mpr rfl, Option.filter, positive]
  rfl

theorem modernizeBase?_marked_reading (r : Reading) :
    modernizeBase? ("!" ++ r.base) = some ("!" ++ r.short) := by
  rw [← r.base_marked, ← r.short_marked]
  exact modernizeBase?_base r.marked

theorem variableShorthand?_eq_none {b : String} (h : ¬ ∃ r : Reading, r.base = b) :
    variableShorthand? b = none := by
  refine Option.eq_none_iff_forall_ne_some.mpr fun short found => h ?_
  obtain ⟨r, hr, -⟩ := variableShorthand?_eq_some_iff.mp found
  exact ⟨r, hr⟩

/-- without a reading, the base behind a marker stays as it is -/
theorem modernizeBase?_marked {b : String} (h : ¬ ∃ r : Reading, r.base = b)
    (positive : Text.startsWith "-" b = false) : modernizeBase? ("!" ++ b) = some (b ++ "!") := by
  have unread : ¬ ∃ r : Reading, r.base = "!" ++ b := fun ⟨_, hr⟩ => h (Reading.exists_unmarked hr)
  rw [modernizeBase?, lookup_marked, isOpacityUtility_marked, variableShorthand?_eq_none unread,
    isTrackList_marked, important?_marked positive]
  rfl

theorem comma_of_trackList {b : String} (h : isTrackList b = true) : ',' ∈ b.toList :=
  Chars.mem_of_contains (Bool.and_eq_true_iff.mp h).2

theorem replaceComma_ne {b : String} (h : ',' ∈ b.toList) : Text.replaceChar ',' "_" b ≠ b := by
  intro same
  rw [← same, toList_replaceComma] at h
  obtain ⟨c, -, hc⟩ := List.mem_map.mp h
  split at hc
  · exact absurd hc (by decide)
  · next other => exact other hc

theorem renames_ne : ∀ e ∈ renames, e.2 ≠ e.1 := by decide

/-- a base stays as it is just if no rewriting is for it -/
theorem modernizeBase?_eq_self_iff {b : String} (unmarked : Text.startsWith "!" b = false) :
    modernizeBase? b = some b ↔ renames.lookup b = none ∧ isOpacityUtility b = false ∧
      (¬ ∃ r : Reading, r.base = b) ∧ isTrackList b = false := by
  have mild : important? b = none := by
    have none : Text.dropPrefix? "!" b = none :=
      dropPrefix?_eq_none fun begins => Bool.eq_false_iff.mp unmarked (startsWith_iff.mpr begins)
    rw [important?, none]
    rfl
  constructor
  · intro stays
    have unread : ¬ ∃ r : Reading, r.base = b := by
      rintro ⟨r, rfl⟩
      rw [modernizeBase?_base, Option.some.injEq] at stays
      have last := last_short r
      rw [stays, last_base] at last
      exact absurd last (by decide)
    rw [modernizeBase?, variableShorthand?_eq_none unread, mild] at stays
    cases renamed : renames.lookup b with
    | some new =>
      rw [renamed] at stays
      exact absurd (Option.some.inj stays) (renames_ne _ (mem_renames renamed))
    | none =>
      rw [renamed] at stays
      cases dropped : isOpacityUtility b with
      | true => rw [dropped] at stays; cases stays
      | false =>
        cases track : isTrackList b with
        | false => exact ⟨rfl, rfl, unread, rfl⟩
        | true =>
          rw [dropped, track] at stays
          exact absurd (Option.some.inj stays) (replaceComma_ne (comma_of_trackList track))
  · rintro ⟨renamed, lasting, unread, tracks⟩
    rw [modernizeBase?, renamed, lasting, variableShorthand?_eq_none unread, tracks, mild]
    rfl

/-! ## moving the marker -/

/-- with the marker in front, the base becomes what it becomes without, and the marker moves behind
it; a base that is dropped is dropped with it -/
def MarkerMoves (variant b : String) : Prop :=
  (∀ new, modernize? (variant ++ b) = some (variant ++ new) →
    modernize? (variant ++ ("!" ++ b)) = some (variant ++ (new ++ "!"))) ∧
  (modernize? (variant ++ b) = none → modernize? (variant ++ ("!" ++ b)) = none)

theorem modernize?_behind (cls : String) {b : String} (plain : variantOf b = "") :
    modernize? (variantOf cls ++ b) = (modernizeBase? b).map (variantOf cls ++ ·) := by
  have parts := splitVariant_replaced cls (variantOf_eq_empty_iff.mp plain)
  rw [modernize?, baseOf, variantOf, parts]

theorem variantOf_marked {b : String} (plain : variantOf b = "") : variantOf ("!" ++ b) = "" := by
  rw [variantOf_eq_empty_iff, String.toList_append]
  exact (cutVariant?_inert (by decide) _).mpr (variantOf_eq_empty_iff.mp plain)

theorem markerMoves_iff (cls : String) {b : String} (plain : variantOf b = "") :
    MarkerMoves (variantOf cls) b ↔
      modernizeBase? ("!" ++ b) = (modernizeBase? b).map (· ++ "!") := by
  rw [MarkerMoves, modernize?_behind cls plain, modernize?_behind cls (variantOf_marked plain)]
  cases modernizeBase? b with
  | none =>
    rw [Option.map_none, Option.map_none, Option.map_eq_none_iff]
    exact ⟨fun h => h.2 rfl, fun h => ⟨nofun, fun _ => h⟩⟩
  | some new =>
    rw [Option.map_some, Option.map_some]
    constructor
    · intro h
      obtain ⟨other, moved, same⟩ := Option.map_eq_some_iff.mp (h.1 new rfl)
      rw [moved, (String.append_right_inj _).mp same]
    · intro moved
      refine ⟨fun other same => ?_, nofun⟩
      rw [moved, ← (String.append_right_inj _).mp (Option.some.inj same)]
      rfl

/-- where a base is rewritten at all, what becomes of it behind a marker is something else -/
theorem moved_iff {b : String} (unmarked : Text.startsWith "!" b = false)
    (positive : Text.startsWith "-" b = false) :
    modernizeBase? ("!" ++ b) = (modernizeBase? b).map (· ++ "!") ↔
      modernizeBase? b = some b := by
  by_cases read : ∃ r : Reading, r.base = b
  · obtain ⟨r, rfl⟩ := read
    have bracket := last_base r
    have parenthesis := last_short r
    rw [modernizeBase?_marked_reading, modernizeBase?_base, Option.map_some, Option.some.injEq,
      Option.some.injEq]
    -- the marker stays in front, so the last characters differ
    refine iff_of_false (fun moved => ?_) (fun stays => ?_)
    · have marker : (r.short ++ "!").toList.getLast? = some '!' := last_append _ (by decide)
      rw [← moved, last_append "!" parenthesis] at marker
      exact absurd marker (by decide)
    · rw [stays, bracket] at parenthesis
      exact absurd parenthesis (by decide)
  · rw [modernizeBase?_marked read positive]
    cases modernizeBase? b with
    | none => exact iff_of_false nofun nofun
    | some new =>
      rw [Option.map_some, Option.some.injEq, Option.some.injEq, String.append_left_inj]
      exact eq_comm

/-- **The important marker and the newer spelling.**  Behind a marker a base with a reading is
written in parentheses, with the marker still in front; any other base stays as it is, and the
marker moves behind it.  So the marker moves, and the base becomes what it becomes alone, just if
alone it stays as it is: it is not renamed, not dropped, has no reading, and lists no tracks. -/
theorem important_marker (cls b : String) (plain : variantOf b = "")
    (unmarked : Text.startsWith "!" b = false) (positive : Text.startsWith "-" b = false) :
    let variant := variantOf cls
    (∀ r : Reading, r.base = b → modernize? (variant ++ b) = some (variant ++ r.short) ∧
      modernize? (variant ++ ("!" ++ b)) = some (variant ++ ("!" ++ r.short))) ∧
    ((¬ ∃ r : Reading, r.base = b) →
      modernize? (variant ++ ("!" ++ b)) = some (variant ++ (b ++ "!"))) ∧
    (MarkerMoves variant b ↔ modernize? (variant ++ b) = some (variant ++ b)) ∧
    (modernize? (variant ++ b) = some (variant ++ b) ↔
      renames.lookup b = none ∧ isOpacityUtility b = false ∧ (¬ ∃ r : Reading, r.base = b) ∧
        isTrackList b = false) := by
  intro variant
  have alone := modernize?_behind cls plain
  have marked := modernize?_behind cls (variantOf_marked plain)
  have stays : modernize? (variant ++ b) = some (variant ++ b) ↔ modernizeBase? b = some b := by
    rw [alone, Option.map_eq_some_iff]
    exact ⟨fun ⟨new, h, same⟩ => (String.append_right_inj _).mp same ▸ h, fun h => ⟨b, h, rfl⟩⟩
  refine ⟨?_, fun unread => ?_, ?_, stays.trans (modernizeBase?_eq_self_iff unmarked)⟩
  · rintro r rfl
    rw [alone, marked, modernizeBase?_base, modernizeBase?_marked_reading]
    exact ⟨rfl, rfl⟩
  · rw [marked, modernizeBase?_marked unread positive]
    rfl
  · rw [markerMoves_iff cls plain, moved_iff unmarked positive, stays]

/-- behind a width, a shadow with a marker is not renamed -/
theorem important_marker_shadow :
    let variant := variantOf "md:flex"
    (variantOf "shadow" = "" ∧ Text.startsWith "!" "shadow" = false ∧
      Text.startsWith "-" "shadow" = false) ∧
    modernize? (variant ++ ("!" ++ "shadow")) = some (variant ++ ("shadow" ++ "!")) ∧
      ¬ MarkerMoves variant "shadow" := by
  intro variant
  have plain : variantOf "shadow" = "" := by decide
  have unmarked : Text.startsWith "!" "shadow" = false := by decide
  have positive : Text.startsWith "-" "shadow" = false := by decide
  obtain ⟨-, bare, moves, -⟩ := important_marker "md:flex" "shadow" plain unmarked positive
  have unread : ¬ ∃ r : Reading, r.base = "shadow" := by
    rintro ⟨r, hr⟩
    have bracket := last_base r
    rw [hr] at bracket
    exact absurd bracket (by decide)
  have renamed : modernize? (variant ++ "shadow") ≠ some (variant ++ "shadow") := by decide
  exact ⟨⟨plain, unmarked, positive⟩, bare unread, mt moves.mp renamed⟩

/-- a base that is renamed, one that is dropped, one with a custom property and one with a list of
tracks: with a marker none of them becomes what it becomes without -/
theorem marker_of_rewritten_bases :
    (modernize? "shadow" = some "shadow-sm" ∧ modernize? "!shadow" = some "shadow!") ∧
    (modernize? "bg-opacity-50" = none ∧ modernize? "!bg-opacity-50" = some "bg-opacity-50!") ∧
    (modernize? "bg-[--brand]" = some "bg-(--brand)" ∧
      modernize? "!bg-[--brand]" = some "!bg-(--brand)") ∧
    (modernize? "grid-cols-[1fr,2fr]" = some "grid-cols-[1fr_2fr]" ∧
      modernize? "!grid-cols-[1fr,2fr]" = some "grid-cols-[1fr,2fr]!") ∧
    ∀ b ∈ ["shadow", "bg-opacity-50", "bg-[--brand]", "grid-cols-[1fr,2fr]"],
      ¬ MarkerMoves (variantOf "flex") b := by
  have other : ∀ b ∈ ["shadow", "bg-opacity-50", "bg-[--brand]", "grid-cols-[1fr,2fr]"],
      variantOf b = "" ∧ modernizeBase? ("!" ++ b) ≠ (modernizeBase? b).map (· ++ "!") := by decide
  refine ⟨by decide, by decide, by decide, by decide, fun b hb => ?_⟩
  exact mt (markerMoves_iff "flex" (other b hb).1).mp (other b hb).2

end Handoff.ClassList
