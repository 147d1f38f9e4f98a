import Handoff.Proofs.Text.Unquoted
import Handoff.Utility.Declaration

/-!
# Utilities write no quotes

The classes of a declaration are made of fixed words, numbers and parts of the value, so a quote in
them comes from the value.

* `Clean`                 a function writes no quote besides those of its value;
* `clean_keyword`, `clean_scaleClass`, `clean_colorClass`, …   the utilities, each on its own;
* `clean_ofDeclaration`   the classes of any declaration.
-/

namespace Handoff.Utility

/-- a function that writes no quote besides those of its value -/
def Clean (write : String → String) : Prop := ∀ {v : String}, Unquoted v → Unquoted (write v)

variable {u : String}

/-! ## keywords -/

theorem mem_of_lookup {α β : Type} [BEq α] [LawfulBEq α] {table : List (α × β)} {key : α} {b : β}
    (h : table.lookup key = some b) : (key, b) ∈ table := by
  obtain ⟨front, back, rfl, -⟩ := List.lookup_eq_some_iff.mp h
  exact List.mem_append_right _ List.mem_cons_self

theorem unquoted_lookup {α : Type} [BEq α] [LawfulBEq α] {table : List (α × String)} {key : α}
    {s : String} (plain : ∀ e ∈ table, Unquoted e.2) (h : table.lookup key = some s) :
    Unquoted s := plain _ (mem_of_lookup h)

theorem clean_escapeArbitrary : Clean escapeArbitrary := fun hv =>
  unquoted_joinWith (by decide) (hv.trim.replaceAll (by decide)).words

theorem clean_arbitrary (hu : Unquoted u) : Clean (arbitrary u) := fun hv =>
  ((hu.append (by decide)).append (clean_escapeArbitrary hv)).append (by decide)

theorem clean_keyword {table : List (String × String)} (plain : ∀ e ∈ table, Unquoted e.2) :
    Clean (keyword table) := by
  intro v _
  unfold keyword
  cases h : table.lookup v with
  | none => decide
  | some word => exact unquoted_lookup plain h

theorem clean_keywordOr {table : List (String × String)} (plain : ∀ e ∈ table, Unquoted e.2)
    (hu : Unquoted u) : Clean (keywordOr table u) := by
  intro v hv
  unfold keywordOr
  cases h : table.lookup v with
  | none => exact clean_arbitrary hu hv
  | some word => exact unquoted_lookup plain h

theorem clean_named {lead : String} (hl : Unquoted lead) (words : List String) :
    Clean (named lead words) := by
  intro v hv
  unfold named
  split
  · exact hl.append hv
  · decide

theorem clean_bracketProperty (hu : Unquoted u) : Clean (bracketProperty u) := fun hv =>
  ((((by decide : Unquoted "[").append hu).append (by decide)).append
    (clean_escapeArbitrary hv)).append (by decide)

/-! ## lengths -/

theorem unquoted_bracketPx (hu : Unquoted u) (px : Float) : Unquoted (bracketPx u px) :=
  ((hu.append (by decide)).append (Decimal.ordinary_trimmed px).unquoted).append (by decide)

/-- what is true of all tokens of the scale -/
theorem token_of_scale {P : String → Prop} (all : ∀ e ∈ spacingScale, P e.2) {px : Float}
    {token : String} (h : tokenForPx? px = some token) : P token := by
  obtain ⟨e, he, rfl⟩ := Option.map_eq_some_iff.mp h
  exact all e (List.mem_of_find?_eq_some he)

theorem unquoted_tokenForPx? {px : Float} {token : String} (h : tokenForPx? px = some token) :
    Unquoted token :=
  token_of_scale (by decide) h

theorem clean_scaleClass (hu : Unquoted u) : Clean (scaleClass u) := by
  intro v hv
  unfold scaleClass
  dsimp only
  split
  · split
    · exact hu.append (by decide)
    · exact clean_arbitrary hu hv.trim
  · split
    · split
      · next token =>
        exact (((by decide : Unquoted "-").append hu).append (by decide)).append
          (unquoted_tokenForPx? token)
      · exact unquoted_bracketPx hu _
    · split
      · next token => exact (hu.append (by decide)).append (unquoted_tokenForPx? token)
      · exact unquoted_bracketPx hu _

theorem clean_inset (hu : Unquoted u) : Clean (inset u) := by
  intro v hv
  unfold inset
  split
  · exact hu.append (by decide)
  · split
    · exact hu.append (by decide)
    · exact clean_scaleClass hu hv

theorem clean_size (hu : Unquoted u) : Clean (size u) := by
  have plain : ∀ e ∈ sizeWords, Unquoted e.2 := by decide
  intro v hv
  unfold size
  split
  · next word => exact (hu.append (by decide)).append (unquoted_lookup plain word)
  · split
    · decide
    · split
      · decide
      · exact clean_scaleClass hu hv

theorem clean_boxSides (hu : Unquoted u) : Clean (boxSides u) := by
  intro v hv
  have parts := hv.words
  have side (suffix : String) (hs : Unquoted suffix) {w : String} (hw : w ∈ Text.words v) :
      Unquoted (scaleClass (u ++ suffix) w) := clean_scaleClass (hu.append hs) (parts w hw)
  unfold boxSides
  refine unquoted_joinWith (by decide) ?_
  split
  · next a e => exact List.forall_mem_singleton.mpr (clean_scaleClass hu (parts a (by simp [e])))
  · next a b e =>
    simp only [List.forall_mem_cons, List.not_mem_nil, false_implies, implies_true, and_true]
    exact ⟨side "y" (by decide) (by simp [e]), side "x" (by decide) (by simp [e])⟩
  · next a b c e =>
    simp only [List.forall_mem_cons, List.not_mem_nil, false_implies, implies_true, and_true]
    exact ⟨side "t" (by decide) (by simp [e]), side "x" (by decide) (by simp [e]),
      side "b" (by decide) (by simp [e])⟩
  · next a b c d e =>
    simp only [List.forall_mem_cons, List.not_mem_nil, false_implies, implies_true, and_true]
    exact ⟨side "t" (by decide) (by simp [e]), side "r" (by decide) (by simp [e]),
      side "b" (by decide) (by simp [e]), side "l" (by decide) (by simp [e])⟩
  · exact List.forall_mem_singleton.mpr (clean_arbitrary hu hv)

theorem clean_gap (hu : Unquoted u) : Clean (gap u) := by
  intro v hv
  unfold gap
  split
  · split
    · decide
    · exact clean_scaleClass hu hv
  · exact clean_scaleClass hu hv

theorem clean_zIndex : Clean zIndex := by
  intro v hv
  unfold zIndex
  split
  · exact (by decide : Unquoted "z-").append hv
  · exact ((by decide : Unquoted "z-[").append hv).append (by decide)

/-! ## grids -/

theorem clean_gridTemplate (hu : Unquoted u) : Clean (gridTemplate u) := by
  intro v hv
  unfold gridTemplate
  dsimp only
  split
  · exact (hu.append (by decide)).append (ordinary_toString _).unquoted
  · split
    · exact hu.append (by decide)
    · exact clean_arbitrary hu hv

/-- the parts of a value around its slashes -/
theorem unquoted_lines {v : String} (hv : Unquoted v) :
    ∀ w ∈ (Text.splitOn '/' v).map Text.trim, Unquoted w := by
  intro w hw
  obtain ⟨part, hp, rfl⟩ := List.mem_map.mp hw
  exact (hv.splitOn part hp).trim

theorem clean_gridArea : Clean gridArea := by
  intro v hv
  have lines := unquoted_lines hv
  have whole : Unquoted ("[grid-area:" ++ escapeArbitrary v ++ "]") :=
    ((by decide : Unquoted "[grid-area:").append (clean_escapeArbitrary hv)).append (by decide)
  unfold gridArea
  split
  · next row column e =>
    rw [e] at lines
    split
    · exact (((by decide : Unquoted "row-start-").append (lines row (by simp))).append
        (by decide)).append (lines column (by simp))
    · exact whole
  · exact whole

theorem clean_gridSpan (hu : Unquoted u) : Clean (gridSpan u) := by
  intro v hv
  have lines := unquoted_lines hv
  unfold gridSpan
  split
  · next start span e =>
    rw [e] at lines
    split
    · next count found =>
      split
      · exact (((((hu.append (by decide)).append (lines start (by simp))).append
          (by decide)).append hu).append (by decide)).append
          ((lines span (by simp)).dropPrefix? found).trim
      · exact clean_arbitrary hu hv
    · exact clean_arbitrary hu hv
  · next span e =>
    rw [e] at lines
    split
    · next count found =>
      exact (hu.append (by decide)).append ((lines span (by simp)).dropPrefix? found).trim
    · exact clean_arbitrary hu hv
  · exact clean_arbitrary hu hv

/-! ## placement -/

theorem clean_translateAxis (hu : Unquoted u) : Clean (translateAxis u) := by
  intro v hv
  have lead : Unquoted ("translate-" ++ u) := (by decide : Unquoted "translate-").append hu
  have minus : Unquoted ("-translate-" ++ u) := (by decide : Unquoted "-translate-").append hu
  unfold translateAxis
  split
  · decide
  · decide
  · decide
  · exact minus.append (by decide)
  · exact lead.append (by decide)
  · exact minus.append (by decide)
  · exact lead.append (by decide)
  · exact clean_arbitrary lead hv

theorem clean_translate : Clean translate := by
  intro v hv
  have parts := hv.words
  have both {x y : String} (hx : Unquoted x) (hy : Unquoted y) :
      Unquoted (Text.joinWith " " ([translateAxis "x" x, translateAxis "y" y].filter (· ≠ ""))) :=
    unquoted_joinWith (by decide) fun w hw => by
      have hw := (List.mem_filter.mp hw).1
      rcases List.mem_cons.mp hw with rfl | hw
      · exact clean_translateAxis (by decide) hx
      · rw [List.mem_singleton.mp hw]
        exact clean_translateAxis (by decide) hy
  unfold translate
  split
  next x y e =>
  split at e
  · obtain ⟨rfl, rfl⟩ := Prod.mk.inj e
    exact both (by decide) (by decide)
  · next one found =>
    obtain ⟨rfl, rfl⟩ := Prod.mk.inj e
    exact both (parts one (by simp [found])) (by decide)
  · next one two more found =>
    obtain ⟨rfl, rfl⟩ := Prod.mk.inj e
    exact both (parts one (by simp [found])) (parts two (by simp [found]))

theorem clean_aspectRatio : Clean aspectRatio := by
  intro v hv
  unfold aspectRatio
  split
  · split
    · decide
    · split
      · decide
      · exact clean_arbitrary (by decide) hv
  · exact clean_arbitrary (by decide) hv

/-! ## colors -/

/-- digits, the letters among them in upper case -/
structure Capital (s : String) : Prop where
  numeral : Numeral s
  upper : ∀ c ∈ s.toList, ∃ d : Char, d.toUpper = c

theorem Capital.append {s t : String} (hs : Capital s) (ht : Capital t) : Capital (s ++ t) where
  numeral := hs.numeral.append ht.numeral
  upper := by
    rw [String.toList_append]
    exact List.forall_mem_append.mpr ⟨hs.upper, ht.upper⟩

theorem capital_upper {cs : List Char} (h : ∀ c ∈ cs, IsNumeral c) :
    Capital (String.ofList (cs.map Char.toUpper)) where
  numeral := numeral_ofList (List.forall_mem_map.mpr fun c hc => isNumeral_toUpper (h c hc))
  upper := by
    rw [String.toList_ofList]
    exact List.forall_mem_map.mpr fun c _ => ⟨c, rfl⟩

theorem capital_hexByte (n : Nat) : Capital (hexByte n) := by
  have digits := numeral_of_mem_toDigits (n := n) (by decide : 1 < 16) (by decide)
  unfold hexByte
  dsimp only
  split
  · have padded : ∀ c ∈ '0' :: Nat.toDigits 16 n, IsNumeral c :=
      List.forall_mem_cons.mpr ⟨by decide, digits⟩
    exact capital_upper padded
  · exact capital_upper digits

/-- a hexadecimal color is a hash sign in front of digits -/
theorem exists_of_parseHex? {digits : List Char} {hex : String} (h : parseHex? digits = some hex) :
    ∃ upper, Capital upper ∧ hex = "#" ++ upper := by
  unfold parseHex? at h
  split at h
  · cases h
  · next all =>
    have plain : ∀ c ∈ digits, IsNumeral c := fun c hc =>
      .inl (Chars.isAsciiAlnum_of_hex (List.all_eq_true.mp (Decidable.not_not.mp all) c hc))
    split at h
    · exact ⟨_, capital_upper plain, (Option.some.inj h).symm⟩
    · split at h
      · have twice : digits.flatMap (fun c => [c.toUpper, c.toUpper])
            = (digits.flatMap fun c => [c, c]).map Char.toUpper := by
          rw [List.map_flatMap]
          rfl
        rw [twice] at h
        refine ⟨_, capital_upper fun c hc => ?_, (Option.some.inj h).symm⟩
        obtain ⟨d, hd, hc⟩ := List.mem_flatMap.mp hc
        have same : c = d := by simpa using hc
        exact same ▸ plain d hd
      · cases h

theorem exists_of_parseColor? {v hex : String} {alpha : Float}
    (h : parseColor? v = some (hex, alpha)) : ∃ upper, Capital upper ∧ hex = "#" ++ upper := by
  unfold parseColor? at h
  dsimp only at h
  split at h
  · obtain ⟨found, hf, e⟩ := Option.map_eq_some_iff.mp h
    obtain ⟨rfl, -⟩ := Prod.mk.inj e
    exact exists_of_parseHex? hf
  · obtain ⟨inner, -, h⟩ := Option.bind_eq_some_iff.mp h
    obtain ⟨inner, -, h⟩ := Option.bind_eq_some_iff.mp h
    split at h
    · obtain ⟨r, -, h⟩ := Option.bind_eq_some_iff.mp h
      obtain ⟨g, -, h⟩ := Option.bind_eq_some_iff.mp h
      obtain ⟨b, -, h⟩ := Option.bind_eq_some_iff.mp h
      have bytes : Capital (hexByte (channelByte r) ++ hexByte (channelByte g)
          ++ hexByte (channelByte b)) :=
        ((capital_hexByte _).append (capital_hexByte _)).append (capital_hexByte _)
      split at h
      all_goals
        obtain ⟨a, -, h⟩ := Option.bind_eq_some_iff.mp h
        obtain ⟨rfl, -⟩ := Prod.mk.inj (Option.some.inj h)
        exact ⟨_, bytes, by simp only [String.append_assoc]⟩
    · cases h

theorem unquoted_parseColor? {v hex : String} {alpha : Float}
    (h : parseColor? v = some (hex, alpha)) : Unquoted hex := by
  obtain ⟨upper, capital, rfl⟩ := exists_of_parseColor? h
  exact (by decide : Unquoted "#").append capital.numeral.ordinary.unquoted

theorem clean_colorClass (hu : Unquoted u) : Clean (colorClass u) := by
  have plain : ∀ e ∈ palette, Unquoted e.2 := by decide
  intro v hv
  unfold colorClass
  split
  · split
    · exact ((by decide : Unquoted "text-[color:").append (clean_escapeArbitrary hv)).append
        (by decide)
    · exact clean_arbitrary hu hv
  · split
    · exact (hu.append (by decide)).append hv
    · split
      · exact clean_arbitrary hu hv
      · next hex alpha color =>
        split
        · exact clean_arbitrary hu hv
        · split
          · next name => exact (hu.append (by decide)).append (unquoted_lookup plain name)
          · exact ((hu.append (by decide)).append (unquoted_parseColor? color)).append (by decide)

theorem clean_background : Clean background := by
  intro v hv
  unfold background
  split
  · exact clean_arbitrary (by decide) hv
  · exact clean_colorClass (by decide) hv

theorem clean_backgroundSize : Clean backgroundSize := by
  intro v hv
  unfold backgroundSize
  split
  · exact (by decide : Unquoted "bg-").append hv
  · exact ((by decide : Unquoted "bg-[length:").append (clean_escapeArbitrary hv)).append
      (by decide)

/-! ## borders and corners -/

theorem clean_borderWidth (hu : Unquoted u) : Clean (borderWidth u) := by
  intro v hv
  unfold borderWidth
  split
  · exact clean_arbitrary hu hv
  · dsimp only
    split
    · exact hu
    · split
      · exact (hu.append (by decide)).append (Decimal.ordinary_trimmed _).unquoted
      · exact unquoted_bracketPx hu _

theorem clean_borderStyle : Clean borderStyle := clean_named (by decide) _

/-- a value is taken apart at its blanks -/
theorem unquoted_threeParts {v : String} (hv : Unquoted v) :
    Unquoted (threeParts v).1 ∧ (∀ w, (threeParts v).2.1 = some w → Unquoted w) ∧
      ∀ w, (threeParts v).2.2 = some w → Unquoted w := by
  unfold threeParts
  split
  · exact ⟨hv, nofun, nofun⟩
  · next a rest first =>
    obtain ⟨ha, hrest⟩ := hv.cut? first
    split
    · exact ⟨ha, fun w e => Option.some.inj e ▸ hrest, nofun⟩
    · next b c second =>
      obtain ⟨hb, hc⟩ := hrest.cut? second
      exact ⟨ha, fun w e => Option.some.inj e ▸ hb, fun w e => Option.some.inj e ▸ hc⟩

theorem unquoted_getD {o : Option String} {default : String} (hd : Unquoted default)
    (h : ∀ w, o = some w → Unquoted w) : Unquoted (o.getD default) := by
  cases o with
  | none => exact hd
  | some w => exact h w rfl

/-- the color among the parts of a value -/
theorem unquoted_colorPart {v : String} (hu : Unquoted u) (hv : Unquoted v) :
    Unquoted (if Text.trim ((threeParts v).2.2.getD "") = "" then ""
      else colorClass u (Text.trim ((threeParts v).2.2.getD ""))) := by
  have color : Unquoted ((threeParts v).2.2.getD "") :=
    unquoted_getD (by decide) (unquoted_threeParts hv).2.2
  split
  · decide
  · exact clean_colorClass hu color.trim

theorem clean_border : Clean border := by
  intro v hv
  obtain ⟨width, style, -⟩ := unquoted_threeParts hv
  unfold border
  split
  · decide
  · refine unquoted_joinWith (by decide) fun w hw => ?_
    replace hw := (List.mem_filter.mp hw).1
    revert w
    exact List.forall_mem_cons.mpr ⟨clean_borderWidth (by decide) width,
      List.forall_mem_cons.mpr ⟨clean_borderStyle (unquoted_getD (by decide) style),
        List.forall_mem_singleton.mpr (unquoted_colorPart (by decide) hv)⟩⟩

theorem clean_outline : Clean outline := by
  intro v hv
  unfold outline
  split
  · decide
  · refine unquoted_joinWith (by decide) fun w hw => ?_
    replace hw := (List.mem_filter.mp hw).1
    revert w
    refine List.forall_mem_cons.mpr ⟨by decide, List.forall_mem_cons.mpr
      ⟨?_, List.forall_mem_singleton.mpr (unquoted_colorPart (by decide) hv)⟩⟩
    split
    · exact (by decide : Unquoted "outline-").append (Decimal.ordinary_trimmed _).unquoted
    · decide

theorem clean_radius (hu : Unquoted u) : Clean (radius u) := by
  intro v hv
  unfold radius
  split
  · exact hu.append (by decide)
  · split
    · exact clean_arbitrary hu hv
    · dsimp only
      split
      · next word => exact hu.append (unquoted_lookup (by decide) word)
      · split
        · exact hu.append (by decide)
        · exact unquoted_bracketPx hu _

/-! ## transforms and effects -/

theorem clean_transform : Clean transform := by
  intro v hv
  unfold transform
  dsimp only
  split
  · exact clean_bracketProperty (by decide) hv
  · split
    · decide
    · split
      · refine (Unquoted.append ?_ (by decide)).append (ordinary_toString _).unquoted
        split <;> decide
      · exact ((by decide : Unquoted "rotate-[").append
          (Decimal.ordinary_trimmed _).unquoted).append (by decide)

theorem clean_opacity : Clean opacity := by
  intro v hv
  unfold opacity
  split
  · exact clean_arbitrary (by decide) hv
  · repeat' split
    all_goals decide

def blurSteps : List String := ["-none", "-sm", "", "-md", "-lg", "-xl", "-3xl"]

theorem mem_blurSteps (radius : Float) : blurStep radius ∈ blurSteps := by
  unfold blurStep
  repeat' split
  all_goals decide

theorem unquoted_blurStep (radius : Float) : Unquoted (blurStep radius) :=
  (by decide : ∀ step ∈ blurSteps, Unquoted step) _ (mem_blurSteps radius)

theorem clean_blur (hu : Unquoted u) {property : String} (hp : Unquoted property) :
    Clean (blur u property) := by
  intro v hv
  unfold blur
  dsimp only
  split
  · exact hu.append (unquoted_blurStep _)
  · exact clean_bracketProperty hp hv

/-! ## typography -/

theorem clean_fontFamily : Clean fontFamily := by
  intro v hv
  unfold fontFamily
  dsimp only
  split
  · decide
  · exact ((by decide : Unquoted "font-['").append
      (((hv.firstPart ',').trim.trimBy _).replaceChar (by decide))).append (by decide)

theorem clean_fontSize : Clean fontSize := by
  have plain : ∀ e ∈ fontSizes, Unquoted e.2 := by decide
  intro v hv
  unfold fontSize
  split
  · exact clean_arbitrary (by decide) hv
  · split
    · next name => exact (by decide : Unquoted "text-").append (unquoted_lookup plain name)
    · exact unquoted_bracketPx (by decide) _

theorem clean_lineHeight : Clean lineHeight := by
  have plain : ∀ e ∈ lineHeights, Unquoted e.2 := by decide
  intro v hv
  unfold lineHeight
  split
  · split
    · next token => exact (by decide : Unquoted "leading-").append (unquoted_lookup plain token)
    · exact unquoted_bracketPx (by decide) _
  · exact clean_keywordOr (by decide) (by decide) hv

/-! ## declarations -/

/-- every property that has utilities -/
theorem clean_utilities : ∀ e ∈ utilities, Clean e.2 := by
  have word {table : List (String × String)} (plain : ∀ e ∈ table, Unquoted e.2) :
      Clean (keyword table) := clean_keyword plain
  unfold utilities
  simp only [List.forall_mem_cons]
  -- the entries in the order of the table
  exact ⟨
    -- flex boxes
    word (by decide), word (by decide), word (by decide),
    clean_keywordOr (by decide) (by decide), clean_keywordOr (by decide) (by decide),
    clean_keywordOr (by decide) (by decide), word (by decide), word (by decide), word (by decide),
    word (by decide),
    -- grids
    clean_named (by decide) _, clean_gridTemplate (by decide), clean_gridTemplate (by decide),
    clean_gridArea, clean_gridSpan (by decide), clean_gridSpan (by decide),
    -- places
    clean_named (by decide) _, clean_inset (by decide), clean_inset (by decide),
    clean_inset (by decide), clean_inset (by decide), clean_zIndex, clean_named (by decide) _,
    clean_named (by decide) _, clean_named (by decide) _,
    -- sizes
    clean_size (by decide), clean_size (by decide), clean_size (by decide), clean_size (by decide),
    clean_size (by decide), clean_size (by decide),
    -- paddings, margins, gaps and moves
    clean_boxSides (by decide), clean_scaleClass (by decide), clean_scaleClass (by decide),
    clean_scaleClass (by decide), clean_scaleClass (by decide), clean_boxSides (by decide),
    clean_scaleClass (by decide), clean_scaleClass (by decide), clean_scaleClass (by decide),
    clean_scaleClass (by decide), clean_gap (by decide), clean_gap (by decide),
    clean_gap (by decide), clean_translate, clean_translateAxis (by decide),
    clean_translateAxis (by decide), clean_aspectRatio,
    -- backgrounds and borders
    clean_background, clean_background, clean_arbitrary (by decide), clean_backgroundSize,
    clean_colorClass (by decide), clean_border, clean_borderWidth (by decide),
    clean_borderWidth (by decide), clean_borderWidth (by decide), clean_borderWidth (by decide),
    clean_borderWidth (by decide), clean_colorClass (by decide), clean_borderStyle,
    clean_radius (by decide), clean_radius (by decide), clean_radius (by decide),
    clean_radius (by decide), clean_radius (by decide), clean_transform, clean_opacity,
    -- texts
    clean_fontFamily, clean_keywordOr (by decide) (by decide), word (by decide),
    clean_bracketProperty (by decide), clean_fontSize, clean_lineHeight,
    clean_arbitrary (by decide), word (by decide), word (by decide), clean_named (by decide) _,
    clean_named (by decide) _, clean_arbitrary (by decide),
    -- effects
    clean_blur (by decide) (by decide), clean_blur (by decide) (by decide),
    clean_named (by decide) _, clean_keywordOr (by decide) (by decide), clean_outline,
    clean_arbitrary (by decide), clean_bracketProperty (by decide), List.forall_mem_nil _⟩

theorem clean_ofDeclaration (property : String) : Clean (ofDeclaration property) := by
  intro v hv
  unfold ofDeclaration
  dsimp only
  split
  · decide
  · split
    · next write found => exact clean_utilities _ (mem_of_lookup found) hv.trim
    · decide

end Handoff.Utility
