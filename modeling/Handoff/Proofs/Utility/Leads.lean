import Handoff.Proofs.ClassList.Pieces
import Handoff.Proofs.Utility.Unquoted
import Handoff.Utility.Declaration

/-!
# How the classes of a declaration begin

Every utility writes words without blanks, each behind one of a few leads, so a class tells by its
beginning which property it is for.  Only family names, layers and grid lines are written as they
are, with the blanks that they may have.

* `Begins`, `Apart`   how a class begins, and beginnings that no class has both of;
* `Led`               a text of words that begin in some of these ways;
* `begins_of_led`     so do the classes of such a text;
* `led_scaleClass`, `led_gridSpan`, …   the utilities of boxes, grids and places.
-/

namespace Handoff.Utility

/-! ## leads -/

/-- a class begins in one of these ways -/
def Begins (leads : List String) (cls : String) : Prop := ∃ lead ∈ leads, lead.toList <+: cls.toList

instance (leads : List String) (cls : String) : Decidable (Begins leads cls) :=
  inferInstanceAs (Decidable (∃ lead ∈ leads, lead.toList <+: cls.toList))

theorem Begins.mono {leads leads' : List String} {cls : String} (h : Begins leads cls)
    (sub : leads ⊆ leads') : Begins leads' cls :=
  h.imp fun _ ⟨mem, begins⟩ => ⟨sub mem, begins⟩

/-- no lead of the one side begins with a lead of the other -/
def Apart (as bs : List String) : Prop :=
  ∀ a ∈ as, ∀ b ∈ bs, ¬ a.toList <+: b.toList ∧ ¬ b.toList <+: a.toList

/-- one of two texts begins with the other if they agree as far as both go -/
theorem prefix_or_prefix_iff {a b : List Char} :
    a <+: b ∨ b <+: a ↔ ∀ p ∈ a.zip b, p.1 = p.2 := by
  induction a generalizing b with
  | nil => simp
  | cons x a ih =>
    cases b with
    | nil => simp
    | cons y b =>
      rw [List.zip_cons_cons, List.forall_mem_cons, ← ih, List.cons_prefix_cons,
        List.cons_prefix_cons, eq_comm (a := y), ← and_or_left]

instance (as bs : List String) : Decidable (Apart as bs) :=
  decidable_of_iff (∀ a ∈ as, ∀ b ∈ bs, ¬ ∀ p ∈ a.toList.zip b.toList, p.1 = p.2) (by
    simp only [← prefix_or_prefix_iff, not_or]
    rfl)

theorem Begins.not_begins {as bs : List String} {cls : String} (h : Begins as cls)
    (apart : Apart as bs) : ¬ Begins bs cls := by
  obtain ⟨a, ha, begins⟩ := h
  rintro ⟨b, hb, begins'⟩
  obtain ⟨longer, shorter⟩ := apart a ha b hb
  exact (List.prefix_or_prefix_of_prefix begins begins').elim longer shorter

/-- a word without blanks that begins in one of these ways -/
structure LedWord (leads : List String) (w : String) : Prop where
  solid : Solid w
  led : Begins leads w

instance (leads : List String) (w : String) : Decidable (LedWord leads w) :=
  decidable_of_iff (Solid w ∧ Begins leads w)
    ⟨fun h => ⟨h.1, h.2⟩, fun h => ⟨h.solid, h.led⟩⟩

/-- a text of such words -/
def Led (leads : List String) (text : String) : Prop :=
  ∃ words : List String, text = Text.joinWith " " words ∧ ∀ w ∈ words, LedWord leads w

theorem begins_of_led {leads : List String} {text cls : String} (h : Led leads text)
    (hc : cls ∈ ClassList.split text) : Begins leads cls := by
  obtain ⟨words, rfl, led⟩ := h
  obtain ⟨w, hw, begins⟩ := ClassList.exists_word_of_mem_split (fun w hw => (led w hw).solid) hc
  obtain ⟨lead, hlead, front⟩ := (led w hw).led
  exact ⟨lead, hlead, front.trans begins⟩

section
variable {leads : List String} {a b s text : String}

theorem LedWord.mk' (mem : a ∈ leads) (ha : Solid a) (hb : Solid b)
    (e : s = a ++ b) : LedWord leads s where
  solid := e ▸ ha.append hb
  led := ⟨a, mem, by rw [e, String.toList_append]; exact List.prefix_append _ _⟩

theorem LedWord.mono {leads' : List String} (h : LedWord leads s) (sub : leads ⊆ leads') :
    LedWord leads' s :=
  ⟨h.solid, h.led.mono sub⟩

theorem led_empty (leads : List String) : Led leads "" := ⟨[], rfl, List.forall_mem_nil _⟩

theorem LedWord.led_text (h : LedWord leads s) : Led leads s :=
  ⟨[s], by simp [Text.joinWith, Chars.joinWith], List.forall_mem_singleton.mpr h⟩

theorem Led.mono {leads' : List String} (h : Led leads text) (sub : leads ⊆ leads') :
    Led leads' text := by
  obtain ⟨words, e, led⟩ := h
  exact ⟨words, e, fun w hw => (led w hw).mono sub⟩

/-- a text without a utility is empty -/
theorem led_joinWith {ws : List String} (h : ∀ w ∈ ws, w = "" ∨ LedWord leads w) :
    Led leads (Text.joinWith " " (ws.filter (· ≠ ""))) := by
  refine ⟨_, rfl, fun w hw => ?_⟩
  obtain ⟨hw, filled⟩ := List.mem_filter.mp hw
  exact (h w hw).resolve_left (by simpa using filled)

end

variable {u v : String} {leads : List String}

/-! ## keywords -/

theorem led_keyword {table : List (String × String)} (h : ∀ e ∈ table, LedWord leads e.2)
    (v : String) : Led leads (keyword table v) := by
  unfold keyword
  cases found : table.lookup v with
  | none => exact led_empty leads
  | some word => exact (h _ (mem_of_lookup found)).led_text

theorem led_named {lead : String} {words : List String} (mem : lead ∈ leads) (hl : Solid lead)
    (hw : ∀ w ∈ words, Solid w) (v : String) : Led leads (named lead words v) := by
  unfold named
  split
  · next known => exact (LedWord.mk' mem hl (hw v (List.contains_iff_mem.mp known)) rfl).led_text
  · exact led_empty leads

theorem solid_escapeArbitrary (v : String) : Solid (escapeArbitrary v) :=
  solid_joinWith (by decide) (solid_words _)

theorem ledWord_arbitrary (hu : Solid u) (v : String) : LedWord [u ++ "-"] (arbitrary u v) :=
  .mk' (b := "[" ++ escapeArbitrary v ++ "]") (List.mem_singleton_self _)
    (hu.append (by decide))
    (((by decide : Solid "[").append (solid_escapeArbitrary v)).append (by decide))
    (String.toList_inj.mp (by simp [arbitrary]))

theorem led_arbitrary (hu : Solid u) (v : String) : Led [u ++ "-"] (arbitrary u v) :=
  (ledWord_arbitrary hu v).led_text

theorem led_keywordOr {table : List (String × String)} (h : ∀ e ∈ table, LedWord leads e.2)
    (hu : Solid u) (mem : u ++ "-" ∈ leads) (v : String) : Led leads (keywordOr table u v) := by
  unfold keywordOr
  cases found : table.lookup v with
  | none => exact (led_arbitrary hu v).mono (List.cons_subset.mpr ⟨mem, List.nil_subset _⟩)
  | some word => exact (h _ (mem_of_lookup found)).led_text

theorem led_bracketProperty {property : String} (hp : Solid property) (v : String) :
    Led ["[" ++ property ++ ":"] (bracketProperty property v) :=
  LedWord.led_text (.mk' (b := escapeArbitrary v ++ "]") (List.mem_singleton_self _)
    (((by decide : Solid "[").append hp).append (by decide))
    ((solid_escapeArbitrary v).append (by decide))
    (String.toList_inj.mp (by simp [bracketProperty])))

/-! ## lengths -/

theorem ledWord_bracketPx (hu : Solid u) (px : Float) : LedWord [u ++ "-"] (bracketPx u px) :=
  .mk' (b := "[" ++ Decimal.trimmed px ++ "px]") (List.mem_singleton_self _)
    (hu.append (by decide))
    (((by decide : Solid "[").append (Decimal.numeral_trimmed px).solid).append (by decide))
    (String.toList_inj.mp (by simp [bracketPx]))

theorem solid_tokenForPx? {px : Float} {token : String} (h : tokenForPx? px = some token) :
    Solid token :=
  token_of_scale (by decide) h

/-- the beginnings of a utility that can be negative -/
def signedLeads (u : String) : List String := [u ++ "-", "-" ++ u ++ "-"]

theorem ledWord_scaleClass (hu : Solid u) (v : String) :
    LedWord (signedLeads u) (scaleClass u v) := by
  have plain : [u ++ "-"] ⊆ signedLeads u := by simp [signedLeads]
  have dashed : Solid (u ++ "-") := hu.append (by decide)
  have front : u ++ "-" ∈ signedLeads u := plain (List.mem_singleton_self _)
  unfold scaleClass
  dsimp only
  split
  · split
    · exact .mk' front dashed (by decide : Solid "auto") (String.toList_inj.mp (by simp))
    · exact (ledWord_arbitrary hu _).mono plain
  · split
    · split
      · next token =>
        exact .mk' (a := "-" ++ u ++ "-") (by simp [signedLeads])
          (((by decide : Solid "-").append hu).append (by decide)) (solid_tokenForPx? token) rfl
      · exact (ledWord_bracketPx hu _).mono plain
    · split
      · next token => exact .mk' front dashed (solid_tokenForPx? token) rfl
      · exact (ledWord_bracketPx hu _).mono plain

theorem led_scaleClass (hu : Solid u) (v : String) : Led (signedLeads u) (scaleClass u v) :=
  (ledWord_scaleClass hu v).led_text

theorem led_inset (hu : Solid u) (v : String) : Led (signedLeads u) (inset u v) := by
  have word {rest : String} (hr : Solid rest) : LedWord (signedLeads u) (u ++ "-" ++ rest) :=
    .mk' (by simp [signedLeads]) (hu.append (by decide)) hr rfl
  unfold inset
  split
  · have e : u ++ "-1/2" = u ++ "-" ++ "1/2" := String.toList_inj.mp (by simp)
    exact e ▸ (word (by decide)).led_text
  · split
    · have e : u ++ "-full" = u ++ "-" ++ "full" := String.toList_inj.mp (by simp)
      exact e ▸ (word (by decide)).led_text
    · exact led_scaleClass hu v

theorem led_size (hu : Solid u) (v : String) : Led (signedLeads u) (size u v) := by
  have plain : ∀ e ∈ sizeWords, Solid e.2 := by decide
  have front : u ++ "-" ∈ signedLeads u := by simp [signedLeads]
  unfold size
  split
  · next word found =>
    exact LedWord.led_text (.mk' front (hu.append (by decide)) (plain _ (mem_of_lookup found)) rfl)
  · split
    · next wide =>
      rw [wide.1]
      exact LedWord.led_text
        (.mk' (a := "w-") (by decide) (by decide) (by decide : Solid "screen") rfl)
    · split
      · next high =>
        rw [high.1]
        exact LedWord.led_text
          (.mk' (a := "h-") (by decide) (by decide) (by decide : Solid "screen") rfl)
      · exact led_scaleClass hu v

/-- the beginnings of padding or margin: for all sides, for one, and for an axis -/
def boxLeads (u : String) : List String :=
  ["", "t", "r", "b", "l", "x", "y"].flatMap fun side => signedLeads (u ++ side)

theorem led_boxSides (hu : Solid u) (v : String) : Led (boxLeads u) (boxSides u v) := by
  have side {s : String} (hs : s ∈ ["", "t", "r", "b", "l", "x", "y"]) (w : String) :
      LedWord (boxLeads u) (scaleClass (u ++ s) w) := by
    have solid : Solid s := (by decide : ∀ s ∈ ["", "t", "r", "b", "l", "x", "y"], Solid s) s hs
    exact (ledWord_scaleClass (hu.append solid) w).mono
      fun lead hl => List.mem_flatMap.mpr ⟨s, hs, hl⟩
  have all (w : String) : LedWord (boxLeads u) (scaleClass u w) := by
    have none := side (s := "") (by decide) w
    rwa [String.append_empty] at none
  have front : [u ++ "-"] ⊆ boxLeads u := by simp [boxLeads, signedLeads]
  unfold boxSides
  refine ⟨_, rfl, ?_⟩
  split
  · exact List.forall_mem_singleton.mpr (all _)
  · simp only [List.forall_mem_cons, List.not_mem_nil, false_implies, implies_true, and_true]
    exact ⟨side (by decide) _, side (by decide) _⟩
  · simp only [List.forall_mem_cons, List.not_mem_nil, false_implies, implies_true, and_true]
    exact ⟨side (by decide) _, side (by decide) _, side (by decide) _⟩
  · simp only [List.forall_mem_cons, List.not_mem_nil, false_implies, implies_true, and_true]
    exact ⟨side (by decide) _, side (by decide) _, side (by decide) _, side (by decide) _⟩
  · exact List.forall_mem_singleton.mpr ((ledWord_arbitrary hu v).mono front)

theorem led_gap (hu : Solid u) (v : String) : Led (signedLeads u) (gap u v) := by
  unfold gap
  split
  · split
    · exact led_empty _
    · exact led_scaleClass hu v
  · exact led_scaleClass hu v

/-! ## grids -/

theorem led_gridTemplate (hu : Solid u) (v : String) : Led [u ++ "-"] (gridTemplate u v) := by
  have dashed : Solid (u ++ "-") := hu.append (by decide)
  unfold gridTemplate
  dsimp only
  split
  · exact (LedWord.mk' (List.mem_singleton_self _) dashed (numeral_toString _).solid rfl).led_text
  · split
    · exact LedWord.led_text (.mk' (List.mem_singleton_self _) dashed (by decide : Solid "none")
        (String.toList_inj.mp (by simp)))
    · exact led_arbitrary hu v

theorem solid_of_isLineNumber (h : isLineNumber v = true) : Solid v := by
  have digits := List.all_eq_true.mp (Bool.and_eq_true_iff.mp h).2
  exact fun c hc => Chars.isBlank_of_alnum (Chars.isAsciiAlnum_of_digit (digits c hc))

theorem led_gridArea (v : String) :
    Led ["row-start-", "col-start-", "[grid-area:"] (gridArea v) := by
  have whole : Led ["row-start-", "col-start-", "[grid-area:"]
      ("[grid-area:" ++ escapeArbitrary v ++ "]") :=
    LedWord.led_text (.mk' (by decide : "[grid-area:" ∈ _) (by decide)
      ((solid_escapeArbitrary v).append (by decide : Solid "]")) (String.append_assoc ..))
  unfold gridArea
  split
  · next row column _ =>
    split
    · next numbers =>
      obtain ⟨hr, hc⟩ := Bool.and_eq_true_iff.mp numbers
      refine ⟨["row-start-" ++ row, "col-start-" ++ column], String.toList_inj.mp ?_, ?_⟩
      · simp [Text.joinWith, Chars.joinWith]
      · exact List.forall_mem_cons.mpr ⟨.mk' (by decide) (by decide) (solid_of_isLineNumber hr) rfl,
          List.forall_mem_singleton.mpr
            (.mk' (by decide) (by decide) (solid_of_isLineNumber hc) rfl)⟩
    · exact whole
  · exact whole

theorem isLineNumber_toString (n : Nat) : isLineNumber (toString n) = true := by
  refine Bool.and_eq_true_iff.mpr ⟨decide_eq_true Nat.repr_ne_empty, List.all_eq_true.mpr ?_⟩
  exact Chars.isAsciiDigit_of_mem_toString

/-- the lines that a node takes up in a grid, with blanks around the slash -/
theorem splitOn_lines (line span : Nat) :
    (Text.splitOn '/' (toString line ++ " / span " ++ toString span)).map Text.trim
      = [toString line, "span " ++ toString span] := by
  have text : (toString line ++ " / span " ++ toString span).toList
      = ((toString line).toList ++ [' '])
        ++ '/' :: (" span ".toList ++ (toString span).toList) := by simp
  have noSlash {n : Nat} : ∀ c ∈ (toString n).toList, (c == '/') = false := fun c hc =>
    beq_false_of_ne (Chars.ne_of_alnum
      (Chars.isAsciiAlnum_of_digit (Chars.isAsciiDigit_of_mem_toString c hc)) (by decide))
  have between : ∀ c ∈ " span ".toList, (c == '/') = false := fun c hc =>
    beq_false_of_ne (ne_of_mem_of_not_mem hc (by decide))
  have pieces : Chars.splitWhere (· == '/') (toString line ++ " / span " ++ toString span).toList
      = [(toString line).toList ++ [' '], " span ".toList ++ (toString span).toList] := by
    rw [text]
    exact Chars.splitWhere_append
      (List.forall_mem_append.mpr ⟨noSlash, List.forall_mem_singleton.mpr rfl⟩) rfl
      (List.forall_mem_append.mpr ⟨between, noSlash⟩)
  have start : Chars.trim ((toString line).toList ++ [' ']) = (toString line).toList :=
    trim_around (a := []) (List.forall_mem_nil _) (List.forall_mem_singleton.mpr rfl)
      (fun c hc => (numeral_toString line).solid c (List.mem_of_mem_head? hc))
      (fun c hc => (numeral_toString line).solid c (List.mem_of_mem_getLast? hc))
  have count : Chars.trim (" span ".toList ++ (toString span).toList)
      = ("span " ++ toString span).toList := by
    have whole : " span ".toList ++ (toString span).toList
        = [' '] ++ (("span " ++ toString span).toList ++ []) := by simp
    have filled : (toString span).toList ≠ [] := fun e =>
      Nat.repr_ne_empty (String.toList_inj.mp e)
    rw [whole]
    refine trim_around (List.forall_mem_singleton.mpr rfl) (List.forall_mem_nil _)
      (by simp; decide) ?_
    intro c hc
    rw [String.toList_append, List.getLast?_append, List.getLast?_eq_some_getLast filled,
      Option.some_or] at hc
    exact (numeral_toString span).solid c (Option.mem_some.mp hc ▸ List.getLast_mem filled)
  rw [Text.splitOn, Text.splitWhere, pieces, List.map_map, List.map_cons, List.map_cons,
    List.map_nil]
  simp only [Function.comp_def, Text.trim, Text.onChars, String.toList_ofList, start, count,
    String.ofList_toList]

theorem trim_lines (line span : Nat) : Text.trim (toString line ++ " / span " ++ toString span)
    = toString line ++ " / span " ++ toString span := by
  have filled {n : Nat} : (toString n).toList ≠ [] := fun e =>
    Nat.repr_ne_empty (String.toList_inj.mp e)
  have same := trim_around (a := []) (b := [])
    (m := (toString line ++ " / span " ++ toString span).toList) (List.forall_mem_nil _)
    (List.forall_mem_nil _)
    (fun c hc => by
      rw [String.toList_append, String.toList_append, List.append_assoc, List.head?_append,
        List.head?_eq_some_head filled, Option.some_or] at hc
      exact (numeral_toString line).solid c (Option.mem_some.mp hc ▸ List.head_mem filled))
    (fun c hc => by
      rw [String.toList_append, List.getLast?_append, List.getLast?_eq_some_getLast filled,
        Option.some_or] at hc
      exact (numeral_toString span).solid c (Option.mem_some.mp hc ▸ List.getLast_mem filled))
  rw [List.nil_append, List.append_nil] at same
  rw [Text.trim, Text.onChars, same, String.ofList_toList]

theorem led_gridSpan (hu : Solid u) (line span : Nat) :
    Led [u ++ "-"] (gridSpan u (toString line ++ " / span " ++ toString span)) := by
  have counted : Text.dropPrefix? "span " ("span " ++ toString span) = some (toString span) := by
    rw [Text.dropPrefix?, String.toList_append, Chars.dropPrefix?_eq_some.mpr rfl, Option.map_some,
      String.ofList_toList]
  have dashed {word : String} (hw : Solid word) {n : Nat} :
      LedWord [u ++ "-"] (u ++ "-" ++ (word ++ toString n)) :=
    .mk' (List.mem_singleton_self _) (hu.append (by decide))
      (hw.append (numeral_toString n).solid) rfl
  unfold gridSpan
  rw [splitOn_lines]
  dsimp only
  rw [counted]
  dsimp only
  rw [if_pos (isLineNumber_toString line), (numeral_toString span).solid.trim]
  refine ⟨[u ++ "-" ++ ("start-" ++ toString line), u ++ "-" ++ ("span-" ++ toString span)],
    String.toList_inj.mp (by simp [Text.joinWith, Chars.joinWith]),
    List.forall_mem_cons.mpr
      ⟨dashed (by decide), List.forall_mem_singleton.mpr (dashed (by decide))⟩⟩

/-! ## places -/

theorem led_position (v : String) :
    Led ["static", "relative", "absolute", "fixed", "sticky"] (position v) := by
  unfold position named
  split
  · next known =>
    rw [String.empty_append]
    exact ((by decide : ∀ w ∈ ["static", "relative", "absolute", "fixed", "sticky"],
      LedWord ["static", "relative", "absolute", "fixed", "sticky"] w) v
        (List.contains_iff_mem.mp known)).led_text
  · exact led_empty _

theorem led_zIndex (hv : Solid v) : Led ["z-"] (zIndex v) := by
  unfold zIndex
  split
  · exact LedWord.led_text (.mk' (List.mem_singleton_self _) (by decide) hv rfl)
  · exact LedWord.led_text (.mk' (b := "[" ++ v ++ "]") (List.mem_singleton_self _) (by decide)
      (((by decide : Solid "[").append hv).append (by decide)) (String.toList_inj.mp (by simp)))

/-- the beginnings of a move along an axis -/
def moveLeads (axis : String) : List String := signedLeads ("translate-" ++ axis)

theorem ledWord_translateAxis {axis : String} (ha : Solid axis) (v : String) :
    translateAxis axis v = "" ∨ LedWord (moveLeads axis) (translateAxis axis v) := by
  have stem : Solid ("translate-" ++ axis) := (by decide : Solid "translate-").append ha
  have plain {s word : String} (hw : Solid word) (e : s = "translate-" ++ axis ++ "-" ++ word) :
      LedWord (moveLeads axis) s :=
    .mk' (by simp [moveLeads, signedLeads]) (stem.append (by decide)) hw e
  have minus {s word : String} (hw : Solid word)
      (e : s = "-" ++ ("translate-" ++ axis) ++ "-" ++ word) : LedWord (moveLeads axis) s :=
    .mk' (by simp [moveLeads, signedLeads])
      (((by decide : Solid "-").append stem).append (by decide)) hw e
  unfold translateAxis
  split
  · exact .inl rfl
  · exact .inl rfl
  · exact .inl rfl
  · exact .inr (minus (by decide : Solid "1/2") (String.toList_inj.mp (by simp)))
  · exact .inr (plain (by decide : Solid "1/2") (String.toList_inj.mp (by simp)))
  · exact .inr (minus (by decide : Solid "full") (String.toList_inj.mp (by simp)))
  · exact .inr (plain (by decide : Solid "full") (String.toList_inj.mp (by simp)))
  · exact .inr ((ledWord_arbitrary stem v).mono (by simp [moveLeads, signedLeads]))

theorem led_translateAxis {axis : String} (ha : Solid axis) (v : String) :
    Led (moveLeads axis) (translateAxis axis v) := by
  rcases ledWord_translateAxis ha v with none | word
  · exact none ▸ led_empty _
  · exact word.led_text

theorem led_translate (v : String) : Led (moveLeads "x" ++ moveLeads "y") (translate v) := by
  unfold translate
  refine led_joinWith (List.forall_mem_cons.mpr ⟨?_, List.forall_mem_singleton.mpr ?_⟩)
  · exact (ledWord_translateAxis (by decide) _).imp_right fun h =>
      h.mono (List.subset_append_left _ _)
  · exact (ledWord_translateAxis (by decide) _).imp_right fun h =>
      h.mono (List.subset_append_right _ _)

theorem led_aspectRatio (v : String) : Led ["aspect-"] (aspectRatio v) := by
  have written : Led ["aspect-"] (arbitrary "aspect" v) := led_arbitrary (by decide) v
  unfold aspectRatio
  split
  · split
    · exact LedWord.led_text (by decide)
    · split
      · exact LedWord.led_text (by decide)
      · exact written
  · exact written

end Handoff.Utility
