import Handoff.Styled.Node

/-!
# Presence and the cascade

What is said for one width holds for all wider ones until something else is said.  A node that is
there at some widths only begins or ceases to be shown where it differs from the width below.

* `cascade`             what holds at a width;
* `Presence.change`     what has to be said because a node begins or ceases to be there;
* `Presence.said`       what is said in all: by rules, by such changes, and by styles, the first of
                        them first;
* `cascade_of_absent`   where a node is absent it is hidden, unless styles say otherwise at a width
                        at which nothing changes;
* `cascade_of_present`  where it is present it is not hidden, unless it is hidden anyway.
-/

namespace Handoff

/-- the widths at which rules begin to hold -/
inductive Width where
  | mobile
  | tablet
  | desktop
deriving DecidableEq, Repr

/-- what holds at a width: what is said for it, or else for the nearest width below -/
def cascade {α : Type} (said : Width → Option α) : Width → Option α
  | .mobile => said .mobile
  | .tablet => (said .tablet).or (said .mobile)
  | .desktop => (said .desktop).or ((said .tablet).or (said .mobile))

namespace Presence

def isAt (p : Presence) : Width → Bool
  | .mobile => p.mobile
  | .tablet => p.tablet
  | .desktop => p.desktop

/-- whether the node begins or ceases to be there; below all widths it is there -/
def change (p : Presence) : Width → Option Bool
  | .mobile => if p.mobile then none else some false
  | .tablet => if p.tablet = p.mobile then none else some p.tablet
  | .desktop => if p.desktop = p.tablet then none else some p.desktop

/-- whether rules, changes and styles say that a node is shown; one that begins to be there is shown
as its styles say for all widths -/
def said (p : Presence) (shownAgain : Bool) (ruled own : Width → Option Bool) (w : Width) :
    Option Bool :=
  (ruled w).or (((p.change w).map (· && shownAgain)).or (own w))

variable {p : Presence} {shownAgain : Bool} {ruled own : Width → Option Bool} {w : Width}

theorem said_of_change (unruled : ruled w = none) (h : p.change w = some false) :
    p.said shownAgain ruled own w = some false := by
  rw [said, unruled, h]
  rfl

theorem said_of_same (unruled : ruled w = none) (same : p.change w = none) (h : own w = none) :
    p.said shownAgain ruled own w = none := by
  rw [said, unruled, same, h]
  rfl

/-! ## changes -/

theorem change_cases (p : Presence) (w : Width) :
    p.change w = some (p.isAt w) ∨ p.change w = none := by
  cases w with
  | mobile => cases h : p.mobile <;> simp [change, isAt, h]
  | tablet => unfold change; dsimp only; split <;> simp [isAt]
  | desktop => unfold change; dsimp only; split <;> simp [isAt]

theorem mobile_of_same (h : p.change .mobile = none) : p.mobile = true := by
  cases mobile : p.mobile with
  | true => rfl
  | false => rw [change, mobile] at h; cases h

theorem tablet_of_same (h : p.change .tablet = none) : p.tablet = p.mobile := by
  unfold change at h
  dsimp only at h
  split at h
  · assumption
  · cases h

theorem desktop_of_same (h : p.change .desktop = none) : p.desktop = p.tablet := by
  unfold change at h
  dsimp only at h
  split at h
  · assumption
  · cases h

/-! ## absent nodes -/

/-- where a node is absent it is hidden, unless styles say otherwise at a width at which nothing
changes -/
theorem cascade_of_absent (partly : p.isPartial = true) (unruled : ∀ w, ruled w = none)
    (absent : p.isAt w = false) (h : (p.change w).isSome = true ∨ own w = none) :
    cascade (p.said shownAgain ruled own) w = some false := by
  rcases p.change_cases w with change | same
  · rw [absent] at change
    have hidden : p.said shownAgain ruled own w = some false := said_of_change (unruled w) change
    cases w <;> simp only [cascade, hidden, Option.some_or]
  have silent : p.said shownAgain ruled own w = none :=
    said_of_same (unruled w) same (h.resolve_left (by rw [same]; decide))
  cases w with
  | mobile => exact absurd (mobile_of_same same) (by rw [show p.mobile = false from absent]; decide)
  | tablet =>
    have mobile : p.change .mobile = some false :=
      if_neg (by rw [← tablet_of_same same, show p.tablet = false from absent]; decide)
    rw [cascade, silent, Option.none_or]
    exact said_of_change (unruled _) mobile
  | desktop =>
    -- it is absent at the two wider widths, so it is there at the first
    have desktop : p.desktop = false := absent
    have tablet : p.tablet = false := desktop_of_same same ▸ desktop
    have mobile : p.mobile = true := by
      simpa [isPartial, isAnywhere, tablet, desktop] using partly
    have change : p.change .tablet = some false := by
      rw [Presence.change, if_neg (by rw [mobile, tablet]; decide), tablet]
    rw [cascade, silent, Option.none_or, said_of_change (unruled _) change, Option.some_or]

/-! ## present nodes -/

section
variable (again : shownAgain = true) (unruled : ∀ w, ruled w ≠ some false)
  (unhidden : ∀ w, own w ≠ some false)
include again unruled unhidden

theorem said_of_present (present : p.isAt w = true) :
    p.said shownAgain ruled own w ≠ some false ∧
      (p.said shownAgain ruled own w = none → p.change w = none) := by
  have first := unruled w
  unfold said
  cases hr : ruled w with
  | some shown =>
    rw [hr] at first
    rw [Option.some_or]
    exact ⟨first, nofun⟩
  | none =>
    rw [Option.none_or]
    rcases p.change_cases w with change | same
    · rw [change, present, again]
      exact ⟨nofun, nofun⟩
    · rw [same, Option.map_none, Option.none_or]
      exact ⟨unhidden w, fun _ => rfl⟩

omit again unruled unhidden in
theorem or_ne_hidden {a b : Option Bool} (ha : a ≠ some false) (hb : a = none → b ≠ some false) :
    a.or b ≠ some false := by
  cases a with
  | none => exact hb rfl
  | some _ => exact ha

/-- where a node is present it is not hidden, unless it is hidden anyway -/
theorem cascade_of_present (present : p.isAt w = true) :
    cascade (p.said shownAgain ruled own) w ≠ some false := by
  have atMobile (mobile : p.mobile = true) : p.said shownAgain ruled own .mobile ≠ some false :=
    (said_of_present again unruled unhidden (p := p) (w := .mobile) mobile).1
  have atTablet (tablet : p.tablet = true) :
      cascade (p.said shownAgain ruled own) .tablet ≠ some false := by
    obtain ⟨shown, silent⟩ :=
      said_of_present again unruled unhidden (p := p) (w := .tablet) tablet
    exact or_ne_hidden shown fun none => atMobile (tablet_of_same (silent none) ▸ tablet)
  cases w with
  | mobile => exact atMobile present
  | tablet => exact atTablet present
  | desktop =>
    obtain ⟨shown, silent⟩ :=
      said_of_present again unruled unhidden (p := p) (w := .desktop) present
    exact or_ne_hidden shown fun none => atTablet (desktop_of_same (silent none) ▸ present)

end

end Presence
end Handoff
