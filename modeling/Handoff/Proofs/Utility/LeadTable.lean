import Mathlib.Data.List.Forall2
import Handoff.Proofs.Utility.Leads

/-!
# The leads of all properties

The beginnings of the classes of every property that has utilities.  Four of the utilities write
their value as it is, so that their classes have a known beginning only where the value is `Tame`.

* `led_colorClass`, `led_border`, …   the utilities of surfaces and texts;
* `leadTable`           the leads of every property, and `led_utilities`, that they are these;
* `begins_classesOf`    the classes of any declaration.
-/

namespace Handoff.Utility

variable {u : String}

/-! ## colors and backgrounds -/

theorem ledWord_colorClass (hu : Solid u) (v : String) : LedWord [u ++ "-"] (colorClass u v) := by
  have written : LedWord [u ++ "-"] (arbitrary u v) := ledWord_arbitrary hu v
  have dashed {rest : String} (hr : Solid rest) : LedWord [u ++ "-"] (u ++ "-" ++ rest) :=
    .mk' (List.mem_singleton_self _) (hu.append (by decide)) hr rfl
  unfold colorClass
  split
  · split
    · next same =>
      subst same
      exact .mk' (b := "[color:" ++ escapeArbitrary v ++ "]") (List.mem_singleton_self _)
        (by decide) (((by decide : Solid "[color:").append (solid_escapeArbitrary v)).append
          (by decide)) (String.toList_inj.mp (by simp))
    · exact written
  · split
    · next known =>
      exact dashed ((by decide : ∀ w ∈ ["transparent", "white", "black", "current"], Solid w) v
        (List.contains_iff_mem.mp known))
    · split
      · exact written
      · next hex alpha color =>
        split
        · exact written
        · split
          · next name found =>
            exact dashed ((by decide : ∀ e ∈ palette, Solid e.2) _ (mem_of_lookup found))
          · obtain ⟨upper, capital, rfl⟩ := exists_of_parseColor? color
            have e : u ++ "-[" ++ ("#" ++ upper) ++ "]" = u ++ "-" ++ ("[#" ++ upper ++ "]") :=
              String.toList_inj.mp (by simp)
            exact e ▸ dashed
              (((by decide : Solid "[#").append capital.numeral.solid).append (by decide))

theorem led_colorClass (hu : Solid u) (v : String) : Led [u ++ "-"] (colorClass u v) :=
  (ledWord_colorClass hu v).led_text

theorem led_background (v : String) : Led ["bg-"] (background v) := by
  unfold background
  split
  · exact led_arbitrary (by decide) v
  · exact led_colorClass (by decide) v

theorem led_backgroundSize (v : String) : Led ["bg-"] (backgroundSize v) := by
  unfold backgroundSize
  split
  · next known =>
    exact LedWord.led_text (.mk' (List.mem_singleton_self _) (by decide)
      ((by decide : ∀ w ∈ ["cover", "contain", "auto"], Solid w) v
        (List.contains_iff_mem.mp known)) rfl)
  · exact LedWord.led_text (.mk' (a := "bg-") (b := "[length:" ++ escapeArbitrary v ++ "]")
      (List.mem_singleton_self _) (by decide)
      (((by decide : Solid "[length:").append (solid_escapeArbitrary v)).append (by decide))
      (String.toList_inj.mp (by simp)))

/-! ## borders and corners -/

/-- what begins with a utility and a dash begins with the utility -/
theorem LedWord.of_dashed {w : String} (h : LedWord [u ++ "-"] w) : LedWord [u] w := by
  obtain ⟨lead, mem, begins⟩ := h.led
  rw [List.mem_singleton.mp mem, String.toList_append] at begins
  exact ⟨h.solid, u, List.mem_singleton_self _, (List.prefix_append _ _).trans begins⟩

theorem ledWord_behind (hu : Solid u) {rest : String} (hr : Solid rest) : LedWord [u] (u ++ rest) :=
  .mk' (List.mem_singleton_self _) hu hr rfl

theorem ledWord_borderWidth (hu : Solid u) (v : String) : LedWord [u] (borderWidth u v) := by
  unfold borderWidth
  split
  · exact (ledWord_arbitrary hu v).of_dashed
  · dsimp only
    split
    · have alone := ledWord_behind hu (by decide : Solid "")
      rwa [String.append_empty] at alone
    · split
      · rw [String.append_assoc]
        exact ledWord_behind hu ((by decide : Solid "-").append (Decimal.numeral_trimmed _).solid)
      · exact (ledWord_bracketPx hu _).of_dashed

theorem ledWord_borderStyle (v : String) :
    borderStyle v = "" ∨ LedWord ["border"] (borderStyle v) := by
  unfold borderStyle named
  split
  · next known =>
    exact .inr (LedWord.mk' (List.mem_singleton_self _) (by decide)
      ((by decide : ∀ w ∈ ["solid", "dashed", "dotted", "double", "none"], Solid w) v
        (List.contains_iff_mem.mp known)) rfl).of_dashed
  · exact .inl rfl

theorem led_borderStyle (v : String) : Led ["border"] (borderStyle v) := by
  rcases ledWord_borderStyle v with none | word
  · exact none ▸ led_empty _
  · exact word.led_text

/-- the color of a line, if there is one -/
theorem ledWord_colorPart (hu : Solid u) (v : String) :
    (if v = "" then "" else colorClass u v) = ""
      ∨ LedWord [u] (if v = "" then "" else colorClass u v) := by
  split
  · exact .inl rfl
  · exact .inr (ledWord_colorClass hu v).of_dashed

theorem led_border (v : String) : Led ["border"] (border v) := by
  unfold border
  split
  · exact LedWord.led_text (by decide)
  · exact led_joinWith (List.forall_mem_cons.mpr ⟨.inr (ledWord_borderWidth (by decide) _),
      List.forall_mem_cons.mpr ⟨ledWord_borderStyle _,
        List.forall_mem_singleton.mpr (ledWord_colorPart (by decide) _)⟩⟩)

theorem led_outline (v : String) : Led ["outline"] (outline v) := by
  unfold outline
  split
  · exact LedWord.led_text (by decide)
  · refine led_joinWith (List.forall_mem_cons.mpr ⟨.inr (by decide),
      List.forall_mem_cons.mpr
        ⟨?_, List.forall_mem_singleton.mpr (ledWord_colorPart (by decide) _)⟩⟩)
    split
    · next px _ =>
      exact .inr (LedWord.mk' (List.mem_singleton_self _) (by decide)
        (Decimal.numeral_trimmed px.round).solid rfl).of_dashed
    · exact .inl rfl

theorem led_radius (hu : Solid u) (v : String) : Led [u] (radius u v) := by
  unfold radius
  split
  · exact (ledWord_behind hu (by decide)).led_text
  · split
    · exact (ledWord_arbitrary hu v).of_dashed.led_text
    · dsimp only
      split
      · next word found =>
        have solid : Solid word := (by decide : ∀ e ∈ _, Solid e.2) _ (mem_of_lookup found)
        exact (ledWord_behind hu solid).led_text
      · split
        · exact (ledWord_behind hu (by decide)).led_text
        · exact (ledWord_bracketPx hu _).of_dashed.led_text

/-! ## transforms and effects -/

theorem led_transform (v : String) : Led ["[transform:", "rotate-", "-rotate-"] (transform v) := by
  unfold transform
  dsimp only
  split
  · exact (led_bracketProperty (by decide) v).mono (by decide)
  · next degrees _ =>
    split
    · exact led_empty _
    · split
      · have number : Solid (toString (wholePx degrees).natAbs) := (numeral_toString _).solid
        refine LedWord.led_text ?_
        split
        · exact .mk' (a := "-rotate-") (by decide) (by decide) number
            (String.toList_inj.mp (by simp))
        · exact .mk' (a := "rotate-") (by decide) (by decide) number
            (String.toList_inj.mp (by simp))
      · exact LedWord.led_text (.mk' (a := "rotate-")
          (b := "[" ++ Decimal.trimmed degrees.round ++ "deg]") (by decide) (by decide)
          (((by decide : Solid "[").append (Decimal.numeral_trimmed _).solid).append (by decide))
          (String.toList_inj.mp (by simp)))

theorem led_opacity (v : String) : Led ["opacity-"] (opacity v) := by
  unfold opacity
  split
  · exact led_arbitrary (by decide) v
  · refine LedWord.led_text ?_
    repeat' split
    all_goals decide

theorem solid_blurStep (radius : Float) : Solid (blurStep radius) :=
  (by decide : ∀ step ∈ blurSteps, Solid step) _ (mem_blurSteps radius)

theorem led_blur (hu : Solid u) {property : String} (hp : Solid property) (v : String) :
    Led [u, "[" ++ property ++ ":"] (blur u property v) := by
  unfold blur
  dsimp only
  split
  · exact (ledWord_behind hu (solid_blurStep _)).led_text.mono (by simp)
  · exact (led_bracketProperty hp v).mono (by simp)

/-! ## typography -/

/-- a family name with no blanks but spaces, which are replaced -/
theorem led_fontFamily {v : String} (hv : ∀ c ∈ v.toList, Chars.isBlank c = true → c = ' ') :
    Led ["font-['"] (fontFamily v) := by
  unfold fontFamily
  dsimp only
  split
  · exact led_empty _
  · refine LedWord.led_text (.mk' (a := "font-['") (List.mem_singleton_self _) (by decide)
      (Solid.append (fun c hc => ?_) (by decide)) (String.append_assoc ..))
    rw [Text.replaceChar, Text.toList_onChars, Chars.mem_replaceChar] at hc
    rcases hc with ⟨-, hc⟩ | ⟨hc, other⟩
    · exact (by decide : Solid "_") c hc
    · rw [Text.trimBy, Text.toList_onChars, Text.trim, Text.toList_onChars] at hc
      have inside := Text.subset_firstPart ',' v (Chars.mem_of_mem_trimBy (Chars.mem_of_mem_trimBy hc))
      exact Bool.eq_false_iff.mpr fun blank => other (hv c inside blank)

theorem led_fontSize (v : String) : Led ["text-"] (fontSize v) := by
  unfold fontSize
  split
  · exact led_arbitrary (by decide) v
  · split
    · next name found =>
      exact (LedWord.mk' (List.mem_singleton_self _) (by decide)
        ((by decide : ∀ e ∈ fontSizes, Solid e.2) _ (mem_of_lookup found)) rfl).led_text
    · exact (ledWord_bracketPx (by decide) _).led_text

theorem led_lineHeight (v : String) : Led ["leading-"] (lineHeight v) := by
  unfold lineHeight
  split
  · split
    · next token found =>
      exact (LedWord.mk' (List.mem_singleton_self _) (by decide)
        ((by decide : ∀ e ∈ lineHeights, Solid e.2) _ (mem_of_lookup found)) rfl).led_text
    · exact (ledWord_bracketPx (by decide) _).led_text
  · exact led_keywordOr (by decide) (by decide) (by decide) v

/-! ## all properties -/

/-- the leads of every property, in the order of `utilities` -/
def leadTable : List (String × List String) := [
  ("display", ["flex", "inline", "block", "grid", "hidden", "contents"]),
  ("flexdirection", ["flex-row", "flex-col"]), ("flexwrap", ["flex-wrap", "flex-nowrap"]),
  ("flexgrow", ["grow", "grow-"]), ("flexshrink", ["shrink", "shrink-"]), ("flex", ["flex-"]),
  ("alignself", ["self-"]), ("justifycontent", ["justify-"]), ("alignitems", ["items-"]),
  ("aligncontent", ["content-"]), ("placeitems", ["place-items-"]),
  ("gridtemplatecolumns", ["grid-cols-"]), ("gridtemplaterows", ["grid-rows-"]),
  ("gridarea", ["row-start-", "col-start-", "[grid-area:"]), ("gridcolumn", ["col-"]),
  ("gridrow", ["row-"]), ("position", ["static", "relative", "absolute", "fixed", "sticky"]),
  ("top", signedLeads "top"), ("right", signedLeads "right"), ("bottom", signedLeads "bottom"),
  ("left", signedLeads "left"), ("zindex", ["z-"]), ("overflow", ["overflow-"]),
  ("overflowx", ["overflow-x-"]), ("overflowy", ["overflow-y-"]),
  ("width", signedLeads "w"), ("height", signedLeads "h"), ("minwidth", signedLeads "min-w"),
  ("maxwidth", signedLeads "max-w"), ("minheight", signedLeads "min-h"),
  ("maxheight", signedLeads "max-h"), ("padding", boxLeads "p"), ("paddingtop", signedLeads "pt"),
  ("paddingright", signedLeads "pr"), ("paddingbottom", signedLeads "pb"),
  ("paddingleft", signedLeads "pl"), ("margin", boxLeads "m"), ("margintop", signedLeads "mt"),
  ("marginright", signedLeads "mr"), ("marginbottom", signedLeads "mb"),
  ("marginleft", signedLeads "ml"), ("gap", signedLeads "gap"), ("rowgap", signedLeads "gap-y"),
  ("columngap", signedLeads "gap-x"), ("translate", moveLeads "x" ++ moveLeads "y"),
  ("translatex", moveLeads "x"), ("translatey", moveLeads "y"), ("aspectratio", ["aspect-"]),
  ("background", ["bg-"]), ("backgroundcolor", ["bg-"]), ("backgroundimage", ["bg-"]),
  ("backgroundsize", ["bg-"]), ("color", ["text-"]), ("border", ["border"]),
  ("borderwidth", ["border"]), ("bordertopwidth", ["border-t"]),
  ("borderrightwidth", ["border-r"]), ("borderbottomwidth", ["border-b"]),
  ("borderleftwidth", ["border-l"]), ("bordercolor", ["border-"]), ("borderstyle", ["border"]),
  ("borderradius", ["rounded"]), ("bordertopleftradius", ["rounded-tl"]),
  ("bordertoprightradius", ["rounded-tr"]), ("borderbottomrightradius", ["rounded-br"]),
  ("borderbottomleftradius", ["rounded-bl"]),
  ("transform", ["[transform:", "rotate-", "-rotate-"]), ("opacity", ["opacity-"]),
  ("fontfamily", ["font-['"]), ("fontweight", ["font-"]), ("fontstyle", ["italic", "not-italic"]),
  ("fontvariant", ["[font-variant:"]), ("fontsize", ["text-"]), ("lineheight", ["leading-"]),
  ("letterspacing", ["tracking-"]),
  ("texttransform", ["uppercase", "lowercase", "capitalize", "normal-case"]),
  ("textdecoration", ["underline", "line-through", "no-underline"]), ("textalign", ["text-"]),
  ("verticalalign", ["align-"]), ("textindent", ["indent-"]), ("filter", ["blur", "[filter:"]),
  ("backdropfilter", ["backdrop-blur", "[backdrop-filter:"]), ("mixblendmode", ["mix-blend-"]),
  ("boxshadow", ["shadow-"]), ("outline", ["outline"]), ("outlineoffset", ["outline-offset-"]),
  ("clippath", ["[clip-path:"])]

/-- a value that is safe to be written as it is, for the properties whose value is -/
structure Tame (key v : String) : Prop where
  layer : key = "zindex" → Solid v
  lines : key = "gridcolumn" ∨ key = "gridrow" →
    ∃ line span : Nat, v = toString line ++ " / span " ++ toString span
  family : key = "fontfamily" → ∀ c ∈ v.toList, Chars.isBlank c = true → c = ' '

/-- most values are safe whatever they are -/
theorem tame_of_plain {key : String}
    (plain : key ∉ ["zindex", "gridcolumn", "gridrow", "fontfamily"])
    (v : String) : Tame key v := by
  simp only [List.mem_cons, List.not_mem_nil, or_false, not_or] at plain
  exact ⟨fun h => absurd h plain.1, fun h => absurd h (not_or.mpr ⟨plain.2.1, plain.2.2.1⟩),
    fun h => absurd h plain.2.2.2⟩

theorem led_utilities : List.Forall₂ (fun entry leads => entry.1 = leads.1 ∧
    ∀ v, Tame entry.1 v → Led leads.2 (entry.2 v)) utilities leadTable := by
  have always {key : String} {leads : List String} {write : String → String}
      (h : ∀ v, Led leads (write v)) : ∀ v, Tame key v → Led leads (write v) := fun v _ => h v
  have word {key : String} {leads : List String} {table : List (String × String)}
      (h : ∀ e ∈ table, LedWord leads e.2) : ∀ v, Tame key v → Led leads (keyword table v) :=
    fun v _ => led_keyword h v
  have named {key lead : String} {words : List String} (hl : Solid lead)
      (hw : ∀ w ∈ words, Solid w) : ∀ v, Tame key v → Led [lead] (Utility.named lead words v) :=
    always (led_named (List.mem_singleton_self _) hl hw)
  have lines {key u : String} (grid : key = "gridcolumn" ∨ key = "gridrow") (hu : Solid u) :
      ∀ v, Tame key v → Led [u ++ "-"] (gridSpan u v) := by
    intro v tame
    obtain ⟨line, span, rfl⟩ := tame.lines grid
    exact led_gridSpan hu line span
  unfold utilities leadTable
  simp only [List.forall₂_cons, List.forall₂_nil_right_iff, true_and, and_true]
  -- the entries in the order of the table
  exact ⟨
    -- flex boxes
    word (by decide), word (by decide), word (by decide),
    always (led_keywordOr (by decide) (by decide) (by decide)),
    always (led_keywordOr (by decide) (by decide) (by decide)),
    always (led_keywordOr (by decide) (by decide) (by decide)), word (by decide), word (by decide),
    word (by decide), word (by decide),
    -- grids
    named (by decide) (by decide), always (led_gridTemplate (by decide)),
    always (led_gridTemplate (by decide)), always led_gridArea,
    lines (.inl rfl) (by decide), lines (.inr rfl) (by decide),
    -- places
    always led_position, always (led_inset (by decide)), always (led_inset (by decide)),
    always (led_inset (by decide)), always (led_inset (by decide)),
    (fun v tame => led_zIndex (tame.layer rfl)), named (by decide) (by decide),
    named (by decide) (by decide), named (by decide) (by decide),
    -- sizes
    always (led_size (by decide)), always (led_size (by decide)), always (led_size (by decide)),
    always (led_size (by decide)), always (led_size (by decide)), always (led_size (by decide)),
    -- paddings, margins, gaps and moves
    always (led_boxSides (by decide)), always (led_scaleClass (by decide)),
    always (led_scaleClass (by decide)), always (led_scaleClass (by decide)),
    always (led_scaleClass (by decide)), always (led_boxSides (by decide)),
    always (led_scaleClass (by decide)), always (led_scaleClass (by decide)),
    always (led_scaleClass (by decide)), always (led_scaleClass (by decide)),
    always (led_gap (by decide)), always (led_gap (by decide)), always (led_gap (by decide)),
    always led_translate, always (led_translateAxis (by decide)),
    always (led_translateAxis (by decide)), always led_aspectRatio,
    -- backgrounds and borders
    always led_background, always led_background, always (led_arbitrary (by decide)),
    always led_backgroundSize, always (led_colorClass (by decide)), always led_border,
    always fun v => (ledWord_borderWidth (by decide) v).led_text,
    always fun v => (ledWord_borderWidth (by decide) v).led_text,
    always fun v => (ledWord_borderWidth (by decide) v).led_text,
    always fun v => (ledWord_borderWidth (by decide) v).led_text,
    always fun v => (ledWord_borderWidth (by decide) v).led_text,
    always (led_colorClass (by decide)), always led_borderStyle, always (led_radius (by decide)),
    always (led_radius (by decide)), always (led_radius (by decide)),
    always (led_radius (by decide)), always (led_radius (by decide)), always led_transform,
    always led_opacity,
    -- texts
    (fun v tame => led_fontFamily (tame.family rfl)),
    always (led_keywordOr (by decide) (by decide) (by decide)), word (by decide),
    always (led_bracketProperty (by decide)), always led_fontSize, always led_lineHeight,
    always (led_arbitrary (by decide)), word (by decide), word (by decide),
    named (by decide) (by decide), named (by decide) (by decide),
    always (led_arbitrary (by decide)),
    -- effects
    always (led_blur (by decide) (by decide)), always (led_blur (by decide) (by decide)),
    named (by decide) (by decide), always (led_keywordOr (by decide) (by decide) (by decide)),
    always led_outline, always (led_arbitrary (by decide)),
    always (led_bracketProperty (by decide))⟩

/-- the leads of a property; a property without utilities has none -/
def leadsOf (property : String) : List String := (leadTable.lookup (propertyKey property)).getD []

theorem mem_leadTable_or (property : String) :
    (propertyKey property, leadsOf property) ∈ leadTable ∨ leadsOf property = [] := by
  unfold leadsOf
  cases found : leadTable.lookup (propertyKey property) with
  | none => exact .inr rfl
  | some leads => exact .inl (mem_of_lookup found)

/-- tables that agree on their keys are looked up at the same places -/
theorem lookup_of_forall₂ {α β : Type} {R : String × α → String × β → Prop}
    {as : List (String × α)} {bs : List (String × β)}
    (h : List.Forall₂ (fun a b => a.1 = b.1 ∧ R a b) as bs) {key : String} {a : α}
    (found : as.lookup key = some a) : ∃ b, bs.lookup key = some b ∧ R (key, a) (key, b) := by
  induction h with
  | nil => cases found
  | @cons x y as bs both _ ih =>
    obtain ⟨k, x⟩ := x
    obtain ⟨k', y⟩ := y
    obtain ⟨rfl, related⟩ := both
    rw [List.lookup_cons] at found ⊢
    by_cases same : key = k
    · subst same
      rw [beq_self_eq_true] at found ⊢
      obtain rfl : x = a := Option.some.inj found
      exact ⟨y, rfl, related⟩
    · rw [beq_false_of_ne same] at found ⊢
      exact ih found

theorem Tame.trim {key v : String} (h : Tame key v) : Tame key (Text.trim v) where
  layer is := by rw [(h.layer is).trim]; exact h.layer is
  lines is := by
    obtain ⟨line, span, rfl⟩ := h.lines is
    exact ⟨line, span, trim_lines line span⟩
  family is c hc := h.family is c (by
    rw [Text.trim, Text.toList_onChars] at hc
    exact Chars.mem_of_mem_trimBy hc)

/-- the classes of a declaration begin as those of its property do -/
theorem begins_classesOf {property v cls : String} (tame : Tame (propertyKey property) v)
    (h : cls ∈ classesOf property v) : Begins (leadsOf property) cls := by
  unfold classesOf ofDeclaration at h
  dsimp only at h
  split at h
  · cases h
  · split at h
    · next write found =>
      obtain ⟨leads, same, led⟩ := lookup_of_forall₂ led_utilities found
      rw [leadsOf, same, Option.getD_some]
      exact begins_of_led (led _ tame.trim) h
    · cases h

/-- beginnings that no property has, apart from those that are left out -/
theorem apart_leadsOf {skip bs : List String} (h : ∀ e ∈ leadTable, e.1 ∉ skip → Apart e.2 bs)
    {property : String} (other : propertyKey property ∉ skip) : Apart (leadsOf property) bs := by
  rcases mem_leadTable_or property with mem | none
  · exact h _ mem other
  · rw [none]
    exact List.forall_mem_nil _

end Handoff.Utility
