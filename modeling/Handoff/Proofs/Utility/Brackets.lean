import Handoff.Proofs.Text.Balanced
import Handoff.Proofs.Utility.Leads

/-!
# Brackets in the classes of a declaration

A class has square brackets where its utility writes them around a part of the value, and round ones
where this part has them.  So the classes of a value with balanced brackets are intact, as long as
the value is written as a whole.

* `Intact`       a class without blanks in which the brackets are balanced;
* `Calm`         a value whose round brackets are balanced and which has no square ones;
* `Shows`        a class with the brackets of a part of the value;
* `Sound`        a text of intact classes;
* `shows_scaleClass`, `careful_colorClass`, …   the utilities that write whole values.
-/

namespace Handoff.Utility

/-! ## words -/

/-- a word without blanks and without brackets -/
structure Plain (s : String) : Prop where
  solid : Solid s
  free : ∀ b, Free b s

/-- a word without blanks whose square brackets are balanced -/
structure Neat (s : String) : Prop where
  solid : Solid s
  square : Balanced .square s

structure Intact (s : String) : Prop extends Neat s where
  round : Balanced .round s

/-- a value whose round brackets are balanced and which has no square ones -/
structure Calm (v : String) : Prop where
  round : Balanced .round v
  square : Free .square v

instance (v : String) : Decidable (Calm v) :=
  decidable_of_iff (Balanced .round v ∧ Free .square v)
    ⟨fun ⟨round, square⟩ => ⟨round, square⟩, fun calm => ⟨calm.round, calm.square⟩⟩

/-- a class with the round brackets of a part of the value -/
structure Shows (part cls : String) : Prop extends Neat cls where
  round : Balanced .round cls ↔ Balanced .round part

/-- a text of intact classes -/
def Sound (text : String) : Prop :=
  ∃ classes : List String, text = Text.joinWith " " classes ∧ ∀ c ∈ classes, Intact c

/-- a utility whose classes are intact for every such value -/
def Careful (write : String → String) : Prop := ∀ {v : String}, Calm v → Sound (write v)

instance (s : String) : Decidable (Plain s) :=
  decidable_of_iff (Solid s ∧ Free .round s ∧ Free .square s)
    ⟨fun h => ⟨h.1, fun | .round => h.2.1 | .square => h.2.2⟩,
      fun h => ⟨h.solid, h.free _, h.free _⟩⟩

instance (s : String) : Decidable (Intact s) :=
  decidable_of_iff (Solid s ∧ Balanced .square s ∧ Balanced .round s)
    ⟨fun h => ⟨⟨h.1, h.2.1⟩, h.2.2⟩, fun h => ⟨h.solid, h.square, h.round⟩⟩

instance (v : String) : Decidable (Calm v) :=
  decidable_of_iff (Balanced .round v ∧ Free .square v)
    ⟨fun h => ⟨h.1, h.2⟩, fun h => ⟨h.round, h.square⟩⟩

section
variable {u v a b c part : String}

theorem Plain.append (ha : Plain a) (hb : Plain b) : Plain (a ++ b) :=
  ⟨ha.solid.append hb.solid, fun k => free_append_iff.mpr ⟨ha.free k, hb.free k⟩⟩

theorem Plain.neat (h : Plain a) : Neat a := ⟨h.solid, (h.free .square).balanced⟩

theorem Plain.intact (h : Plain a) : Intact a := ⟨h.neat, (h.free .round).balanced⟩

/-- such a word shows anything that is balanced itself -/
theorem Plain.shows (h : Plain c) (balanced : Balanced .round part) : Shows part c :=
  ⟨h.neat, iff_of_true h.intact.round balanced⟩

theorem plain_of_numeral (h : Numeral a) : Plain a := ⟨h.solid, fun _ => h.free⟩

theorem Shows.intact (h : Shows part c) (balanced : Balanced .round part) : Intact c :=
  ⟨h.toNeat, h.round.mpr balanced⟩

theorem Shows.congr {part' : String} (h : Shows part c)
    (same : Bracket.marks .round part = Bracket.marks .round part') : Shows part' c :=
  ⟨h.toNeat, h.round.trans (balanced_congr same)⟩

theorem sound_empty : Sound "" := ⟨[], rfl, List.forall_mem_nil _⟩

theorem Intact.sound (h : Intact c) : Sound c :=
  ⟨[c], by simp [Text.joinWith, Chars.joinWith], List.forall_mem_singleton.mpr h⟩

theorem Plain.sound (h : Plain c) : Sound c := h.intact.sound

theorem Calm.trim (h : Calm v) : Calm (Text.trim v) where
  round := (balanced_congr (marks_trim _ v)).mpr h.round
  square := (free_congr (marks_trim _ v)).mpr h.square

/-! ## bracketed values -/

/-- blanks and commas are no brackets -/
theorem marks_escapeArbitrary (k : Bracket) (v : String) :
    k.marks (escapeArbitrary v) = k.marks v := by
  have free : ∀ (k : Bracket) (s : String), s ∈ ["_", ", ", ","] → Free k s := by
    rintro (_ | _) <;> decide
  rw [escapeArbitrary, marks_words (free k _ (by decide)),
    marks_replaceAll (free k _ (by decide)) (free k _ (by decide)) (by decide), marks_trim]

theorem square_bracketed (ha : Free .square a) (hb : Free .square b) :
    Balanced .square (a ++ "[" ++ b ++ "]") := by
  have marks : Bracket.marks .square (a ++ "[" ++ b ++ "]") = Bracket.marks .square "[]" := by
    simp only [marks_append, free_iff_marks.mp ha, free_iff_marks.mp hb]
    rfl
  exact (balanced_congr marks).mpr (by decide)

/-- the square brackets around a part of the value are the only ones -/
theorem shows_bracketed (ha : Plain a) (hb : Plain b) (flat : Free .square v) :
    Shows v (a ++ "[" ++ (b ++ escapeArbitrary v) ++ "]") where
  solid := ((ha.solid.append (by decide)).append (hb.solid.append (solid_escapeArbitrary v))).append
    (by decide)
  square := square_bracketed (ha.free .square) (free_append_iff.mpr
    ⟨hb.free .square, (free_congr (marks_escapeArbitrary _ v)).mpr flat⟩)
  round := by
    refine balanced_congr ?_
    simp only [marks_append, marks_escapeArbitrary, free_iff_marks.mp (ha.free .round),
      free_iff_marks.mp (hb.free .round)]
    exact List.append_nil _

theorem shows_arbitrary (hu : Plain u) (flat : Free .square v) : Shows v (arbitrary u v) := by
  have e : arbitrary u v = u ++ "-" ++ "[" ++ ("" ++ escapeArbitrary v) ++ "]" :=
    String.toList_inj.mp (by simp [arbitrary])
  exact e ▸ shows_bracketed (hu.append (by decide)) (by decide) flat

theorem careful_arbitrary (hu : Plain u) : Careful (arbitrary u) := fun hv =>
  ((shows_arbitrary hu hv.square).intact hv.round).sound

theorem careful_bracketProperty {property : String} (hp : Plain property) :
    Careful (bracketProperty property) := by
  intro v hv
  have e : bracketProperty property v
      = "" ++ "[" ++ (property ++ ":" ++ escapeArbitrary v) ++ "]" :=
    String.toList_inj.mp (by simp [bracketProperty])
  exact e ▸ ((shows_bracketed (by decide) (hp.append (by decide)) hv.square).intact hv.round).sound

/-- a class with a fixed beginning in front of the value -/
theorem sound_bracketed (ha : Plain a) (hb : Plain b) (hv : Calm v)
    (e : c = a ++ "[" ++ (b ++ escapeArbitrary v) ++ "]") : Sound c :=
  e ▸ ((shows_bracketed ha hb hv.square).intact hv.round).sound

/-- numbers between brackets -/
theorem intact_bracketed (ha : Plain a) (hb : Plain b) (e : c = a ++ "[" ++ b ++ "]") :
    Intact c := by
  subst e
  refine ⟨⟨((ha.solid.append (by decide)).append hb.solid).append (by decide),
    square_bracketed (ha.free .square) (hb.free .square)⟩, Free.balanced (free_iff_marks.mpr ?_)⟩
  simp only [marks_append, free_iff_marks.mp (ha.free .round), free_iff_marks.mp (hb.free .round)]
  rfl

theorem intact_bracketPx (hu : Plain u) (px : Float) : Intact (bracketPx u px) :=
  intact_bracketed (a := u ++ "-") (b := Decimal.trimmed px ++ "px") (hu.append (by decide))
    ((plain_of_numeral (Decimal.numeral_trimmed px)).append (by decide))
    (String.toList_inj.mp (by simp [bracketPx]))

/-! ## keywords -/

theorem plain_lookup {α : Type} [BEq α] [LawfulBEq α] {table : List (α × String)} {key : α}
    (plain : ∀ e ∈ table, Plain e.2) (h : table.lookup key = some c) : Plain c :=
  plain _ (mem_of_lookup h)

theorem careful_keyword {table : List (String × String)} (plain : ∀ e ∈ table, Plain e.2) :
    Careful (keyword table) := by
  intro v _
  unfold keyword
  cases h : table.lookup v with
  | none => exact sound_empty
  | some word => exact (plain_lookup plain h).sound

theorem careful_keywordOr {table : List (String × String)} (plain : ∀ e ∈ table, Plain e.2)
    (hu : Plain u) : Careful (keywordOr table u) := by
  intro v hv
  unfold keywordOr
  cases h : table.lookup v with
  | none => exact careful_arbitrary hu hv
  | some word => exact (plain_lookup plain h).sound

theorem plain_named {lead : String} {words : List String} (hl : Plain lead)
    (hw : ∀ w ∈ words, Plain w) (v : String) : Plain (named lead words v) := by
  unfold named
  split
  · next known => exact hl.append (hw v (List.contains_iff_mem.mp known))
  · decide

theorem careful_named {lead : String} {words : List String} (hl : Plain lead)
    (hw : ∀ w ∈ words, Plain w) : Careful (named lead words) := fun _ =>
  (plain_named hl hw _).sound

/-! ## lengths -/

theorem free_of_numeral {k : Bracket} {s : String} (h : ∀ c ∈ s.toList, IsNumeral c ∨ c = '+') :
    Free k s := by
  intro c hc
  rcases h c hc with numeral | rfl
  · exact Bracket.isMark_of_numeral numeral
  · cases k <;> decide

/-- a length in pixels has no brackets -/
theorem free_of_parsePx? {k : Bracket} {px : Float} (h : parsePx? v = some px) : Free k v := by
  rw [← free_congr (marks_trim k v)]
  unfold parsePx? at h
  dsimp only at h
  split at h
  · next zero =>
    rw [zero]
    cases k <;> decide
  · obtain ⟨n, hn, h⟩ := Option.bind_eq_some_iff.mp h
    obtain ⟨cs, hcs, rfl⟩ := Option.map_eq_some_iff.mp hn
    have text : Text.trim v = String.ofList cs ++ "px" := by
      rw [← String.toList_inj, Chars.dropSuffix?_eq_some.mp hcs, String.toList_append,
        String.toList_ofList (l := cs)]
    rw [text, free_append_iff, ← free_congr (marks_trim k (String.ofList cs))]
    exact ⟨free_of_numeral (Decimal.numeral_of_parse? h), by cases k <;> decide⟩

theorem plain_tokenForPx? {px : Float} {token : String} (h : tokenForPx? px = some token) :
    Plain token :=
  token_of_scale (by decide) h

theorem shows_scaleClass (hu : Plain u) (flat : Free .square v) : Shows v (scaleClass u v) := by
  have trimmed : Free .square (Text.trim v) := (free_congr (marks_trim _ v)).mpr flat
  refine Shows.congr ?_ (marks_trim .round v)
  unfold scaleClass
  dsimp only
  split
  · split
    · next auto => exact (hu.append (by decide)).shows (by rw [auto]; decide)
    · exact shows_arbitrary hu trimmed
  · next px length =>
    have balanced : Balanced .round (Text.trim v) := (free_of_parsePx? length).balanced
    have shown {c : String} (h : Intact c) : Shows (Text.trim v) c :=
      ⟨h.toNeat, iff_of_true h.round balanced⟩
    split
    · split
      · next token =>
        exact ((((by decide : Plain "-").append hu).append (by decide)).append
          (plain_tokenForPx? token)).shows balanced
      · exact shown (intact_bracketPx hu _)
    · split
      · next token => exact ((hu.append (by decide)).append (plain_tokenForPx? token)).shows balanced
      · exact shown (intact_bracketPx hu _)

theorem careful_scaleClass (hu : Plain u) : Careful (scaleClass u) := fun hv =>
  ((shows_scaleClass hu hv.square).intact hv.round).sound

theorem careful_inset (hu : Plain u) : Careful (inset u) := by
  intro v hv
  unfold inset
  split
  · exact (hu.append (by decide)).sound
  · split
    · exact (hu.append (by decide)).sound
    · exact careful_scaleClass hu hv

theorem careful_size (hu : Plain u) : Careful (size u) := by
  intro v hv
  have plain : ∀ e ∈ sizeWords, Plain e.2 := by decide
  unfold size
  split
  · next word => exact ((hu.append (by decide)).append (plain_lookup plain word)).sound
  · split
    · exact Plain.sound (by decide)
    · split
      · exact Plain.sound (by decide)
      · exact careful_scaleClass hu hv

theorem careful_gap (hu : Plain u) : Careful (gap u) := by
  intro v hv
  unfold gap
  split
  · split
    · exact sound_empty
    · exact careful_scaleClass hu hv
  · exact careful_scaleClass hu hv

/-! ## grids and places -/

theorem careful_gridTemplate (hu : Plain u) : Careful (gridTemplate u) := by
  intro v hv
  unfold gridTemplate
  dsimp only
  split
  · exact ((hu.append (by decide)).append (plain_of_numeral (numeral_toString _))).sound
  · split
    · exact (hu.append (by decide)).sound
    · exact careful_arbitrary hu hv

theorem plain_of_isLineNumber (h : isLineNumber a = true) : Plain a := by
  rw [isLineNumber, Bool.and_eq_true] at h
  exact plain_of_numeral fun c hc =>
    .inl (Chars.isAsciiAlnum_of_digit (List.all_eq_true.mp h.2 c hc))

theorem careful_gridArea : Careful gridArea := by
  intro v hv
  have whole : Sound ("[grid-area:" ++ escapeArbitrary v ++ "]") :=
    sound_bracketed (a := "") (b := "grid-area:") (by decide) (by decide) hv
      (String.toList_inj.mp (by simp))
  unfold gridArea
  split
  · next row column e =>
    split
    · next lines =>
      rw [Bool.and_eq_true] at lines
      have first := (by decide : Plain "row-start-").append (plain_of_isLineNumber lines.1)
      have second := (by decide : Plain "col-start-").append (plain_of_isLineNumber lines.2)
      exact ⟨["row-start-" ++ row, "col-start-" ++ column],
        String.toList_inj.mp (by simp [Text.joinWith, Chars.joinWith]),
        List.forall_mem_cons.mpr ⟨first.intact, List.forall_mem_singleton.mpr second.intact⟩⟩
    · exact whole
  · exact whole

theorem shows_translateAxis (hu : Plain u) (flat : Free .square v) :
    Shows v (translateAxis u v) := by
  have lead : Plain ("translate-" ++ u) := (by decide : Plain "translate-").append hu
  have minus : Plain ("-translate-" ++ u) := (by decide : Plain "-translate-").append hu
  have none {w : String} (balanced : Balanced .round w) : Shows w "" :=
    Plain.shows (by decide) balanced
  unfold translateAxis
  split
  · exact none (by decide)
  · exact none (by decide)
  · exact none (by decide)
  · exact (minus.append (by decide)).shows (by decide)
  · exact (lead.append (by decide)).shows (by decide)
  · exact (minus.append (by decide)).shows (by decide)
  · exact (lead.append (by decide)).shows (by decide)
  · exact shows_arbitrary lead flat

theorem careful_translateAxis (hu : Plain u) : Careful (translateAxis u) := fun hv =>
  ((shows_translateAxis hu hv.square).intact hv.round).sound

theorem careful_aspectRatio : Careful aspectRatio := by
  intro v hv
  have whole : Sound (arbitrary "aspect" v) := careful_arbitrary (by decide) hv
  unfold aspectRatio
  split
  · split
    · exact Plain.sound (by decide)
    · split
      · exact Plain.sound (by decide)
      · exact whole
  · exact whole

/-! ## colors, borders and corners -/

/-- a color with a name or a hexadecimal form, so that it is not written out -/
def IsResolved (color : String) : Prop :=
  Text.startsWith "var(" color = false ∧
    (["transparent", "white", "black", "current"].contains color ∨
      ∃ c ∈ parseColor? color, ¬ c.2 < 1.0)

/-- a color that is not written out shows nothing of the value -/
theorem neat_colorClass (hu : Plain u) (flat : Free .square v) :
    Neat (colorClass u v) ∧
      (Balanced .round (colorClass u v) ↔ IsResolved v ∨ Balanced .round v) := by
  have names : ∀ e ∈ palette, Plain e.2 := by decide
  have known : ∀ w ∈ ["transparent", "white", "black", "current"], Plain w := by decide
  have shown {c : String} (other : ¬ IsResolved v) (h : Shows v c) :
      Neat c ∧ (Balanced .round c ↔ IsResolved v ∨ Balanced .round v) :=
    ⟨h.toNeat, by rw [or_iff_right other, h.round]⟩
  have resolved {c : String} (own : IsResolved v) (h : Intact c) :
      Neat c ∧ (Balanced .round c ↔ IsResolved v ∨ Balanced .round v) :=
    ⟨h.toNeat, iff_of_true h.round (.inl own)⟩
  unfold colorClass
  split
  · next variable' =>
    have other : ¬ IsResolved v := fun h => by rw [h.1] at variable'; cases variable'
    split
    · have e : "text-[color:" ++ escapeArbitrary v ++ "]"
          = "text-" ++ "[" ++ ("color:" ++ escapeArbitrary v) ++ "]" :=
        String.toList_inj.mp (by simp)
      rw [e]
      exact shown other (shows_bracketed (by decide) (by decide) flat)
    · exact shown other (shows_arbitrary hu flat)
  · next variable' =>
    have direct : Text.startsWith "var(" v = false := Bool.eq_false_iff.mpr variable'
    split
    · next named =>
      exact resolved ⟨direct, .inl named⟩
        ((hu.append (by decide)).append (known v (List.contains_iff_mem.mp named))).intact
    · next unnamed =>
      split
      · next unread =>
        refine shown (fun h => ?_) (shows_arbitrary hu flat)
        rcases h.2 with named | ⟨c, hc, -⟩
        · exact unnamed named
        · rw [unread] at hc
          cases hc
      · next hex alpha read =>
        split
        · next faded =>
          refine shown (fun h => ?_) (shows_arbitrary hu flat)
          rcases h.2 with named | ⟨c, hc, opaque'⟩
          · exact unnamed named
          · rw [read] at hc
            obtain rfl := Option.some.inj hc
            exact opaque' faded
        · next opaque' =>
          refine resolved ⟨direct, .inr ⟨_, read, opaque'⟩⟩ ?_
          split
          · next name => exact ((hu.append (by decide)).append (plain_lookup names name)).intact
          · obtain ⟨upper, capital, rfl⟩ := exists_of_parseColor? read
            exact intact_bracketed (a := u ++ "-") (b := "#" ++ upper) (hu.append (by decide))
              ((by decide : Plain "#").append (plain_of_numeral capital.numeral))
              (String.toList_inj.mp (by simp))

theorem careful_colorClass (hu : Plain u) : Careful (colorClass u) := fun hv =>
  have ⟨neat, round⟩ := neat_colorClass hu hv.square
  Intact.sound ⟨neat, round.mpr (.inr hv.round)⟩

theorem careful_background : Careful background := by
  intro v hv
  unfold background
  split
  · exact careful_arbitrary (by decide) hv
  · exact careful_colorClass (by decide) hv

theorem careful_backgroundSize : Careful backgroundSize := by
  intro v hv
  unfold backgroundSize
  split
  · next known =>
    have words : ∀ w ∈ ["cover", "contain", "auto"], Plain ("bg-" ++ w) := by decide
    exact (words v (List.contains_iff_mem.mp known)).sound
  · exact sound_bracketed (a := "bg-") (b := "length:") (by decide) (by decide) hv
      (String.toList_inj.mp (by simp))

theorem shows_borderWidth (hu : Plain u) (flat : Free .square v) : Shows v (borderWidth u v) := by
  unfold borderWidth
  split
  · exact shows_arbitrary hu flat
  · next px length =>
    have balanced : Balanced .round v := (free_of_parsePx? length).balanced
    dsimp only
    split
    · exact hu.shows balanced
    · split
      · exact ((hu.append (by decide)).append (plain_of_numeral (Decimal.numeral_trimmed _))).shows balanced
      · have width := intact_bracketPx hu px.round
        exact ⟨width.toNeat, iff_of_true width.round balanced⟩

theorem careful_borderWidth (hu : Plain u) : Careful (borderWidth u) := fun hv =>
  ((shows_borderWidth hu hv.square).intact hv.round).sound

theorem careful_radius (hu : Plain u) : Careful (radius u) := by
  intro v hv
  unfold radius
  split
  · exact (hu.append (by decide)).sound
  · split
    · exact careful_arbitrary hu hv
    · dsimp only
      split
      · next word => exact (hu.append (plain_lookup (by decide) word)).sound
      · split
        · exact (hu.append (by decide)).sound
        · exact (intact_bracketPx hu _).sound

/-! ## transforms, effects and texts -/

theorem careful_transform : Careful transform := by
  intro v hv
  unfold transform
  dsimp only
  split
  · exact careful_bracketProperty (by decide) hv
  · next degrees _ =>
    split
    · exact sound_empty
    · split
      · refine Plain.sound (Plain.append (Plain.append ?_ (by decide)) (plain_of_numeral (numeral_toString _)))
        split <;> decide
      · exact (intact_bracketed (a := "rotate-") (b := Decimal.trimmed degrees.round ++ "deg")
          (by decide) ((plain_of_numeral (Decimal.numeral_trimmed _)).append (by decide))
          (String.toList_inj.mp (by simp))).sound

theorem careful_opacity : Careful opacity := by
  intro v hv
  unfold opacity
  split
  · exact careful_arbitrary (by decide) hv
  · refine Plain.sound ?_
    repeat' split
    all_goals decide

theorem plain_blurStep (radius : Float) : Plain (blurStep radius) :=
  (by decide : ∀ step ∈ blurSteps, Plain step) _ (mem_blurSteps radius)

theorem careful_blur (hu : Plain u) {property : String} (hp : Plain property) :
    Careful (blur u property) := by
  intro v hv
  unfold blur
  dsimp only
  split
  · exact (hu.append (plain_blurStep _)).sound
  · exact careful_bracketProperty hp hv

theorem careful_fontSize : Careful fontSize := by
  intro v hv
  have names : ∀ e ∈ fontSizes, Plain e.2 := by decide
  unfold fontSize
  split
  · exact careful_arbitrary (by decide) hv
  · split
    · next name => exact ((by decide : Plain "text-").append (plain_lookup names name)).sound
    · exact (intact_bracketPx (by decide) _).sound

theorem careful_lineHeight : Careful lineHeight := by
  intro v hv
  have tokens : ∀ e ∈ lineHeights, Plain e.2 := by decide
  unfold lineHeight
  split
  · split
    · next token => exact ((by decide : Plain "leading-").append (plain_lookup tokens token)).sound
    · exact (intact_bracketPx (by decide) _).sound
  · exact careful_keywordOr (by decide) (by decide) hv

end

end Handoff.Utility
