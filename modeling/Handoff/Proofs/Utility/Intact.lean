import Handoff.Proofs.Utility.Brackets
import Handoff.Utility.Declaration
import Mathlib.Data.List.Forall2

/-!
# Which declarations have intact classes

Most utilities write the value as a whole, escaped, or not at all.  Some take it apart first, at
blanks, commas or slashes wherever these stand, and write the parts; two write blanks as they are.

* `Part`, `Raw`       what is written of a value on its own, and what is written without escaping;
* `Made`              classes that are as intact as what they are made from;
* `made_classesOf`    so are the classes of every declaration;
* `classes_intact`    the same of a list of declarations, and of the text of all their classes.
-/

namespace Handoff.Utility
open ClassList (Whole filled_of_mem_split split split_joinWith split_of_free whole_of_neat whole_bracketed)

/-! ## what is written of a value -/

/-- the color behind width and style -/
def colorPart (value : String) : String := Text.trim ((threeParts value).2.2.getD "")

/-- the number of lines, where a value is read as a span -/
def spanCount? (value : String) : Option String :=
  match (Text.splitOn '/' value).map Text.trim with
  | [start, span] =>
    if isLineNumber start then (Text.dropPrefix? "span " span).map Text.trim else none
  | [span] => (Text.dropPrefix? "span " span).map Text.trim
  | _ => none

def familyPart (value : String) : String :=
  Text.trimBy isQuote (Text.trim ((Text.splitOn ',' value).headD ""))

/-- how a property takes its values apart -/
inductive Taking where
  /-- at blanks, for the sides of a box -/
  | sides
  /-- at blanks, for the axes of a move -/
  | axes
  /-- at the first two spaces, into width, style and color -/
  | border
  /-- in the same way, but of the width only a number counts -/
  | outline
  /-- at slashes and behind the word for spans -/
  | span
  /-- at commas -/
  | families
deriving DecidableEq, Repr

/-- the properties that take their values apart -/
def takings : List (String × Taking) := [
  ("padding", .sides), ("margin", .sides), ("translate", .axes), ("border", .border),
  ("outline", .outline), ("gridcolumn", .span), ("gridrow", .span), ("fontfamily", .families)]

/-- a part that comes into a class without the rest of the value; a color that has a name or a
hexadecimal form does not -/
def Taking.Part (value part : String) : Taking → Prop
  | .sides => (Text.words value).length ≤ 4 ∧ part ∈ Text.words value
  | .axes => part ∈ (Text.words value).take 2
  | .border => part = (threeParts value).1 ∨ part = colorPart value ∧ ¬ IsResolved part
  | .outline => part = colorPart value ∧ ¬ IsResolved part
  | .span => ∃ count, spanCount? value = some count ∧ part ∈ Text.words count
  | .families => part = familyPart value

def Part (key value part : String) : Prop :=
  ∃ taking, takings.lookup key = some taking ∧ taking.Part value part

/-- a text that comes into a class with its blanks: a layer as it is, a family with spaces replaced -/
def Raw (key value raw : String) : Prop :=
  key = "zindex" ∧ raw = value ∨
    key = "fontfamily" ∧ raw = Text.replaceChar ' ' "_" (familyPart value)

/-- classes that are as intact as what they are made from -/
structure Made (parts raws : String → Prop) (classes : List String) : Prop where
  square : ∀ c ∈ classes, Balanced .square c
  round : (∀ c ∈ classes, Balanced .round c) ↔ ∀ p, parts p → Balanced .round p
  solid : (∀ c ∈ classes, Solid c) ↔ ∀ r, raws r → Solid r

section
variable {key v u : String}

theorem part_iff {taking : Taking} (is : takings.lookup key = some taking) (p : String) :
    Part key v p ↔ taking.Part v p := by
  constructor
  · rintro ⟨taking', is', h⟩
    obtain rfl := Option.some.inj (is.symm.trans is')
    exact h
  · exact fun h => ⟨taking, is, h⟩

theorem not_part (none : takings.lookup key = none) (p : String) : ¬ Part key v p := by
  rintro ⟨taking, is, -⟩
  exact nomatch none.symm.trans is

theorem not_raw (layer : key ≠ "zindex") (family : key ≠ "fontfamily") (r : String) :
    ¬ Raw key v r := by
  rintro (⟨is, -⟩ | ⟨is, -⟩)
  · exact layer is
  · exact family is

/-! ## the utilities -/

theorem made_of_intact {classes : List String} (intact : ∀ c ∈ classes, Intact c)
    (parts : ∀ p, Part key v p → Balanced .round p) (raws : ∀ r, Raw key v r → Solid r) :
    Made (Part key v) (Raw key v) classes :=
  ⟨fun c hc => (intact c hc).square, iff_of_true (fun c hc => (intact c hc).round) parts,
    iff_of_true (fun c hc => (intact c hc).solid) raws⟩

theorem intact_split {text : String} (h : Sound text) : ∀ c ∈ split text, Intact c := by
  obtain ⟨classes, rfl, intact⟩ := h
  rw [split_joinWith fun c hc => whole_of_neat (intact c hc).solid (intact c hc).square]
  exact fun c hc => intact c (List.mem_filter.mp hc).1

theorem made_of_sound {text : String} (h : Sound text) (whole : takings.lookup key = none)
    (layer : key ≠ "zindex") : Made (Part key v) (Raw key v) (split text) := by
  have family : key ≠ "fontfamily" := by
    rintro rfl
    exact nomatch whole
  exact made_of_intact (intact_split h) (fun p hp => absurd hp (not_part whole p))
    fun r hr => absurd hr (not_raw layer family r)

/-- classes without blanks, some of them empty -/
theorem made_of_neat {classes : List String} (neat : ∀ c ∈ classes, Neat c)
    (solid : ∀ r, ¬ Raw key v r)
    (round : (∀ c ∈ classes, Balanced .round c) ↔ ∀ p, Part key v p → Balanced .round p) :
    Made (Part key v) (Raw key v) (split (Text.joinWith " " classes)) := by
  rw [split_joinWith fun c hc => whole_of_neat (neat c hc).solid (neat c hc).square]
  refine ⟨fun c hc => (neat c (List.mem_filter.mp hc).1).square, ?_,
    iff_of_true (fun c hc => (neat c (List.mem_filter.mp hc).1).solid) fun r hr =>
      absurd hr (solid r)⟩
  rw [← round]
  refine ⟨fun h c hc => ?_, fun h c hc => h c (List.mem_filter.mp hc).1⟩
  by_cases empty : c = ""
  · rw [empty]
    decide
  · exact h c (List.mem_filter.mpr ⟨hc, decide_eq_true empty⟩)

theorem filled_classes {classes : List String} (neat : ∀ c ∈ classes, Neat c) :
    split (Text.joinWith " " (classes.filter (· ≠ ""))) = split (Text.joinWith " " classes) := by
  have whole : ∀ c ∈ classes, Whole c := fun c hc =>
    whole_of_neat (neat c hc).solid (neat c hc).square
  rw [split_joinWith whole, split_joinWith fun c hc => whole c (List.mem_filter.mp hc).1,
    List.filter_filter]
  simp only [Bool.and_self]

/-- a class for each part -/
theorem neat_of_shows {parts classes : List String} (h : List.Forall₂ Shows parts classes) :
    (∀ c ∈ classes, Neat c) ∧
      ((∀ c ∈ classes, Balanced .round c) ↔ ∀ p ∈ parts, Balanced .round p) := by
  induction h with
  | nil => exact ⟨List.forall_mem_nil _, iff_of_true (List.forall_mem_nil _) (List.forall_mem_nil _)⟩
  | cons first _ ih =>
    rw [List.forall_mem_cons, List.forall_mem_cons, List.forall_mem_cons, first.round, ih.2]
    exact ⟨⟨first.toNeat, ih.1⟩, Iff.rfl⟩

theorem boxSides_cases (hu : Plain u) (flat : Free .square v) :
    (∃ classes, boxSides u v = Text.joinWith " " classes ∧ (Text.words v).length ≤ 4 ∧
      List.Forall₂ Shows (Text.words v) classes) ∨
    boxSides u v = arbitrary u v ∧ ∀ w ∈ Text.words v, 4 < (Text.words v).length := by
  have side (suffix : String) (hs : Plain suffix) {w : String} (hw : w ∈ Text.words v) :
      Shows w (scaleClass (u ++ suffix) w) :=
    shows_scaleClass (hu.append hs) (flat.of_subset (Text.subset_of_mem_words hw))
  unfold boxSides
  generalize Text.words v = ws at side
  match ws with
  | [a] =>
    have all := side "" (by decide) (w := a) (by simp)
    rw [String.append_empty] at all
    exact .inl ⟨_, rfl, by simp, .cons all .nil⟩
  | [a, b] =>
    exact .inl ⟨_, rfl, by simp, .cons (side "y" (by decide) (by simp))
      (.cons (side "x" (by decide) (by simp)) .nil)⟩
  | [a, b, c] =>
    exact .inl ⟨_, rfl, by simp, .cons (side "t" (by decide) (by simp))
      (.cons (side "x" (by decide) (by simp)) (.cons (side "b" (by decide) (by simp)) .nil))⟩
  | [a, b, c, d] =>
    exact .inl ⟨_, rfl, by simp, .cons (side "t" (by decide) (by simp))
      (.cons (side "r" (by decide) (by simp)) (.cons (side "b" (by decide) (by simp))
        (.cons (side "l" (by decide) (by simp)) .nil)))⟩
  | [] => exact .inr ⟨by simp [Text.joinWith, Chars.joinWith], List.forall_mem_nil _⟩
  | a :: b :: c :: d :: e :: ws =>
    exact .inr ⟨by simp [Text.joinWith, Chars.joinWith], fun _ _ => by simp⟩

theorem made_boxSides (is : takings.lookup key = some .sides) (hu : Plain u) (hv : Calm v) :
    Made (Part key v) (Raw key v) (split (boxSides u v)) := by
  have raw : ∀ r, ¬ Raw key v r := not_raw (by rintro rfl; exact nomatch is)
    (by rintro rfl; exact nomatch is)
  rcases boxSides_cases hu hv.square with ⟨classes, e, few, shows⟩ | ⟨e, many⟩
  · obtain ⟨neat, round⟩ := neat_of_shows shows
    rw [e]
    refine made_of_neat neat raw (round.trans (forall_congr' fun p => ?_))
    rw [part_iff is, Taking.Part, and_iff_right few]
  · rw [e]
    refine made_of_intact (intact_split (careful_arbitrary hu hv)) (fun p hp => ?_)
      fun r hr => absurd hr (raw r)
    obtain ⟨few, mem⟩ := (part_iff is p).mp hp
    exact absurd (many p mem) (Nat.not_lt_of_le few)

theorem made_translate (hv : Calm v) :
    Made (Part "translate" v) (Raw "translate" v) (split (translate v)) := by
  have both (x y : String) (hx : Free .square x) (hy : Free .square y)
      (parts : (∀ p ∈ [x, y], Balanced .round p) ↔
        ∀ p ∈ (Text.words v).take 2, Balanced .round p) :
      Made (Part "translate" v) (Raw "translate" v) (split (Text.joinWith " "
        ([translateAxis "x" x, translateAxis "y" y].filter (· ≠ "")))) := by
    obtain ⟨neat, round⟩ := neat_of_shows (.cons (shows_translateAxis (u := "x") (by decide) hx)
      (.cons (shows_translateAxis (u := "y") (by decide) hy) .nil))
    rw [filled_classes neat]
    refine made_of_neat neat (not_raw (by decide) (by decide)) (round.trans (parts.trans ?_))
    exact forall_congr' fun p => by rw [part_iff rfl, Taking.Part]
  have flat : ∀ w ∈ Text.words v, Free .square w := fun w hw =>
    hv.square.of_subset (Text.subset_of_mem_words hw)
  unfold translate
  generalize Text.words v = ws at both flat
  match ws with
  | [] => exact both "0" "0" (by decide) (by decide) (by decide)
  | [x] =>
    refine both x "0" (flat x (by simp)) (by decide) ?_
    have zero : ∀ p ∈ ["0"], Balanced .round p := by decide
    rw [List.take_of_length_le (by simp), List.forall_mem_cons, and_iff_left zero,
      List.forall_mem_singleton]
  | x :: y :: _ => exact both x y (flat x (by simp)) (flat y (by simp)) Iff.rfl

/-- width and style are never written out in an outline, and a style in no border -/
theorem flat_threeParts (flat : Free .square v) :
    Free .square (threeParts v).1 ∧ Free .square (colorPart v) := by
  have empty : Free .square (Text.trim "") := by decide
  unfold colorPart threeParts
  split
  · exact ⟨flat, empty⟩
  · next a rest first =>
    obtain ⟨ha, hrest⟩ := Text.subset_of_cut? first
    split
    · exact ⟨flat.of_subset ha, empty⟩
    · next b c second =>
      obtain ⟨-, hc⟩ := Text.subset_of_cut? second
      exact ⟨flat.of_subset ha,
        flat.of_subset (List.Subset.trans (Text.subset_trim c) (List.Subset.trans hc hrest))⟩

/-- the class of a color, if there is one -/
theorem neat_colorPart (hu : Plain u) {color : String} (flat : Free .square color) :
    Neat (if color = "" then "" else colorClass u color) ∧
      (Balanced .round (if color = "" then "" else colorClass u color) ↔
        ∀ p, p = color ∧ ¬ IsResolved p → Balanced .round p) := by
  have iff : (∀ p, p = color ∧ ¬ IsResolved p → Balanced .round p)
      ↔ IsResolved color ∨ Balanced .round color := by
    rw [or_iff_not_imp_left]
    exact ⟨fun h own => h color ⟨rfl, own⟩, fun h p ⟨e, own⟩ => e ▸ h (e ▸ own)⟩
  rw [iff]
  split
  · next none =>
    rw [none]
    exact ⟨Plain.neat (by decide), iff_of_true (by decide) (.inr (by decide))⟩
  · exact neat_colorClass hu flat

theorem made_border (hv : Calm v) :
    Made (Part "border" v) (Raw "border" v) (split (border v)) := by
  have raw : ∀ r, ¬ Raw "border" v r := not_raw (by decide) (by decide)
  have is : takings.lookup "border" = some .border := rfl
  obtain ⟨width, color⟩ := flat_threeParts hv.square
  unfold border
  split
  · next none =>
    have closed : ∀ w ∈ ["none", "0", "0px"],
        Balanced .round (threeParts w).1 ∧ Balanced .round (colorPart w) := by decide
    obtain ⟨balanced, balanced'⟩ := closed v (List.contains_iff_mem.mp none)
    refine made_of_intact (intact_split (Plain.sound (by decide))) (fun p hp => ?_)
      fun r hr => absurd hr (raw r)
    rcases (part_iff is p).mp hp with rfl | ⟨rfl, -⟩
    · exact balanced
    · exact balanced'
  · have style : Plain (borderStyle ((threeParts v).2.1.getD "solid")) :=
      plain_named (by decide) (by decide) _
    have shows := shows_borderWidth (u := "border") (by decide) width
    obtain ⟨neat, round⟩ := neat_colorPart (u := "border") (by decide) color
    have all : ∀ c ∈ [borderWidth "border" (threeParts v).1,
        borderStyle ((threeParts v).2.1.getD "solid"),
        if colorPart v = "" then "" else colorClass "border" (colorPart v)], Neat c :=
      List.forall_mem_cons.mpr ⟨shows.toNeat, List.forall_mem_cons.mpr
        ⟨style.neat, List.forall_mem_singleton.mpr neat⟩⟩
    refine (congrArg (Made _ _) (filled_classes all)).mpr (made_of_neat all raw ?_)
    rw [List.forall_mem_cons, List.forall_mem_cons, List.forall_mem_singleton, shows.round, round,
      and_iff_right style.intact.round]
    constructor
    · rintro ⟨hw, hc⟩ p hp
      rcases (part_iff is p).mp hp with rfl | hp
      · exact hw
      · exact hc p hp
    · exact fun h => ⟨h _ ((part_iff is _).mpr (Or.inl rfl)),
        fun p hp => h p ((part_iff is p).mpr (Or.inr hp))⟩

theorem made_outline (hv : Calm v) :
    Made (Part "outline" v) (Raw "outline" v) (split (outline v)) := by
  have raw : ∀ r, ¬ Raw "outline" v r := not_raw (by decide) (by decide)
  obtain ⟨-, color⟩ := flat_threeParts hv.square
  unfold outline
  split
  · next none =>
    subst none
    refine made_of_intact (intact_split (Plain.sound (by decide))) (fun p hp => ?_)
      fun r hr => absurd hr (raw r)
    obtain ⟨rfl, -⟩ := (part_iff rfl p).mp hp
    decide
  · obtain ⟨neat, round⟩ := neat_colorPart (u := "outline") (by decide) color
    have made (w : String) (hw : Plain w) :
        Made (Part "outline" v) (Raw "outline" v) (split (Text.joinWith " " (["outline", w,
          if colorPart v = "" then "" else colorClass "outline" (colorPart v)].filter
            (· ≠ "")))) := by
      have all : ∀ c ∈ ["outline", w,
          if colorPart v = "" then "" else colorClass "outline" (colorPart v)], Neat c :=
        List.forall_mem_cons.mpr ⟨Plain.neat (by decide), List.forall_mem_cons.mpr
          ⟨hw.neat, List.forall_mem_singleton.mpr neat⟩⟩
      rw [filled_classes all]
      refine made_of_neat all raw ?_
      rw [List.forall_mem_cons, List.forall_mem_cons, List.forall_mem_singleton, round,
        and_iff_right (by decide), and_iff_right hw.intact.round]
      exact forall_congr' fun p => by rw [part_iff rfl, Taking.Part]
    dsimp only
    cases parsePx? (threeParts v).1 with
    | none => exact made "" (by decide)
    | some px => exact made _ ((by decide : Plain "outline-").append
        (plain_of_numeral (Decimal.numeral_trimmed px.round)))

/-- a value is read as a span, or written as a whole -/
theorem gridSpan_cases (hu : Plain u) (v : String) :
    (∃ front count, spanCount? v = some count ∧ gridSpan u v = front ++ count ∧
      ∀ k, Free k front) ∨
    spanCount? v = none ∧ gridSpan u v = arbitrary u v := by
  have lead : Plain (u ++ "-span-") := hu.append (by decide)
  unfold spanCount? gridSpan
  generalize (Text.splitOn '/' v).map Text.trim = lines
  match lines with
  | [start, span] =>
    dsimp only
    by_cases line : isLineNumber start
    · rw [if_pos line]
      cases Text.dropPrefix? "span " span with
      | none => exact .inr ⟨rfl, rfl⟩
      | some count =>
        have first := ((hu.append (by decide : Plain "-start-")).append (plain_of_isLineNumber line))
        have blank (k : Bracket) : Free k " " := by cases k <;> decide
        refine .inl ⟨u ++ "-start-" ++ start ++ " " ++ (u ++ "-span-"), _, rfl, ?_, fun k =>
          free_append_iff.mpr ⟨free_append_iff.mpr ⟨first.free k, blank k⟩, lead.free k⟩⟩
        dsimp only
        rw [if_pos line]
        simp only [String.append_assoc]
    · rw [if_neg line]
      refine .inr ⟨rfl, ?_⟩
      cases Text.dropPrefix? "span " span with
      | none => rfl
      | some count => exact if_neg line
  | [span] =>
    cases found : Text.dropPrefix? "span " span with
    | none => exact .inr ⟨by simp [found], by simp [found]⟩
    | some count => exact .inl ⟨_, Text.trim count, by simp [found], by simp [found], lead.free⟩
  | [] => exact .inr ⟨rfl, rfl⟩
  | _ :: _ :: _ :: _ => exact .inr ⟨rfl, rfl⟩

theorem flat_spanCount {count : String} (flat : Free .square v)
    (found : spanCount? v = some count) : Free .square count := by
  have line {w : String} (hw : w ∈ (Text.splitOn '/' v).map Text.trim)
      (h : (Text.dropPrefix? "span " w).map Text.trim = some count) : Free .square count := by
    obtain ⟨piece, hp, rfl⟩ := List.mem_map.mp hw
    obtain ⟨rest, hr, rfl⟩ := Option.map_eq_some_iff.mp h
    have inPiece : rest.toList ⊆ piece.toList :=
      List.Subset.trans (Text.subset_of_dropPrefix? hr) (Text.subset_trim piece)
    exact flat.of_subset (List.Subset.trans (Text.subset_trim rest)
      (List.Subset.trans inPiece (Text.subset_of_mem_splitWhere hp)))
  unfold spanCount? at found
  split at found
  · next e =>
    split at found
    · exact line (by rw [e]; simp) found
    · cases found
  · next e => exact line (by rw [e]; simp) found
  · cases found

/-- what has no brackets may stand in front of the words of a text -/
theorem balanced_words_append {a t : String} (ha : Free .round a) :
    (∀ w ∈ Text.words (a ++ t), Balanced .round w) ↔ ∀ w ∈ Text.words t, Balanced .round w := by
  have pieces (s : String) : (∀ w ∈ Text.words s, Balanced .round w) ↔
      ∀ p ∈ Chars.splitWhere Chars.isBlank s.toList, Bracket.round.depth? 0 p = some 0 := by
    rw [Text.words, List.forall_mem_map]
    simp only [Balanced, String.toList_ofList]
    refine ⟨fun h p hp => ?_, fun h p hp => h p (List.mem_filter.mp hp).1⟩
    by_cases empty : p = []
    · rw [empty]
      rfl
    · exact h p (List.mem_filter.mpr ⟨hp, by simpa using empty⟩)
  have free : ∀ c ∈ a.toList, Bracket.round.isMark c = false := ha
  rw [pieces, pieces, String.toList_append]
  generalize a.toList = front at free
  induction front with
  | nil => rfl
  | cons c front ih =>
    obtain ⟨hc, free⟩ := List.forall_mem_cons.mp free
    refine Iff.trans ?_ (ih free)
    rw [List.cons_append, Chars.splitWhere]
    split
    · exact List.forall_mem_cons.trans (and_iff_right rfl)
    · split
      · next none => exact absurd none (Chars.splitWhere_ne_nil _ _)
      · next p ps e =>
        rw [e, List.forall_mem_cons, List.forall_mem_cons, Bracket.depth?_of_not_mark hc]

theorem made_gridSpan (is : takings.lookup key = some .span) (hu : Plain u) (hv : Calm v) :
    Made (Part key v) (Raw key v) (split (gridSpan u v)) := by
  have raw : ∀ r, ¬ Raw key v r := not_raw (by rintro rfl; exact nomatch is)
    (by rintro rfl; exact nomatch is)
  rcases gridSpan_cases hu v with ⟨front, count, found, text, free⟩ | ⟨none, text⟩
  · have flat : Free .square (front ++ count) :=
      free_append_iff.mpr ⟨free .square, flat_spanCount hv.square found⟩
    rw [text, split_of_free flat]
    refine ⟨fun c hc => (flat.of_subset (Text.subset_of_mem_words hc)).balanced,
      (balanced_words_append (free .round)).trans (forall_congr' fun p => ?_),
      iff_of_true (solid_words _) fun r hr => absurd hr (raw r)⟩
    rw [part_iff is, Taking.Part, found]
    simp
  · rw [text]
    refine made_of_intact (intact_split (careful_arbitrary hu hv)) (fun p hp => ?_)
      fun r hr => absurd hr (raw r)
    obtain ⟨count, found, -⟩ := (part_iff is p).mp hp
    exact nomatch none.symm.trans found

/-- a class with brackets around anything is one class -/
theorem split_bracketed {a b : String} (ha : Plain a) (hb : Free .square b) :
    split (a ++ "[" ++ b ++ "]") = [a ++ "[" ++ b ++ "]"] := by
  have whole : Whole (a ++ ("[" ++ b ++ "]")) :=
    (whole_of_neat ha.solid ha.neat.square).append (whole_bracketed hb)
  have text : Text.joinWith " " [a ++ ("[" ++ b ++ "]")] = a ++ "[" ++ b ++ "]" :=
    String.toList_inj.mp (by simp [Text.joinWith, Chars.joinWith])
  have filled : a ++ ("[" ++ b ++ "]") ≠ "" := fun empty =>
    absurd (congrArg String.toList empty) (by simp)
  have kept : [a ++ ("[" ++ b ++ "]")].filter (· ≠ "") = [a ++ ("[" ++ b ++ "]")] :=
    List.filter_eq_self.mpr (List.forall_mem_singleton.mpr (decide_eq_true filled))
  rw [← text, split_joinWith (List.forall_mem_singleton.mpr whole), text, kept,
    ← String.append_assoc, ← String.append_assoc]

theorem made_fontFamily (hv : Calm v) :
    Made (Part "fontfamily" v) (Raw "fontfamily" v) (split (fontFamily v)) := by
  have is : takings.lookup "fontfamily" = some .families := rfl
  have part (p : String) : Part "fontfamily" v p ↔ p = familyPart v := part_iff is p
  have raw (r : String) : Raw "fontfamily" v r ↔ r = Text.replaceChar ' ' "_" (familyPart v) := by
    simp [Raw]
  have flat : Free .square (familyPart v) := hv.square.of_subset
    (List.Subset.trans (Text.subset_trimBy _ _)
      (List.Subset.trans (Text.subset_trim _) (Text.subset_firstPart ',' v)))
  have same (k : Bracket) : k.marks (Text.replaceChar ' ' "_" (familyPart v))
      = k.marks (familyPart v) := by
    rw [Bracket.marks, Text.replaceChar, Text.toList_onChars]
    exact Chars.filter_replaceChar (by cases k <;> decide) (by cases k <;> decide) _
  unfold fontFamily
  dsimp only
  split
  · next empty =>
    have empty : familyPart v = "" := empty
    refine made_of_intact (List.forall_mem_nil _) (fun p hp => ?_) fun r hr => ?_
    · rw [(part p).mp hp, empty]
      decide
    · rw [(raw r).mp hr, empty]
      decide
  · have quoted : Free .square ("'" ++ Text.replaceChar ' ' "_" (familyPart v) ++ "'") :=
      free_append_iff.mpr ⟨free_append_iff.mpr ⟨by decide, (free_congr (same _)).mpr flat⟩,
        by decide⟩
    have text : "font-['" ++ Text.replaceChar ' ' "_" (familyPart v) ++ "']"
        = "font-" ++ "[" ++ ("'" ++ Text.replaceChar ' ' "_" (familyPart v) ++ "'") ++ "]" :=
      String.toList_inj.mp (by simp)
    refine (congrArg (Made _ _ ∘ split) text).mpr ?_
    rw [Function.comp_apply, split_bracketed (by decide) quoted]
    refine ⟨?_, ?_, ?_⟩ <;> rw [List.forall_mem_singleton]
    · exact square_bracketed (by decide) quoted
    · rw [← text, forall_congr' fun p => imp_congr_left (part p), forall_eq]
      exact (balanced_between (by decide) (by decide)).trans (balanced_congr (same .round))
    · rw [← text, forall_congr' fun r => imp_congr_left (raw r), forall_eq,
        solid_append_iff, solid_append_iff, and_iff_left (by decide), and_iff_right (by decide)]

theorem made_zIndex (hv : Calm v) :
    Made (Part "zindex" v) (Raw "zindex" v) (split (zIndex v)) := by
  have part : ∀ p, ¬ Part "zindex" v p := not_part rfl
  have raw (r : String) : Raw "zindex" v r ↔ r = v := by simp [Raw]
  unfold zIndex
  split
  · next known =>
    have words : ∀ w ∈ ["0", "10", "20", "30", "40", "50", "auto"], Plain w := by decide
    have plain : Plain v := words v (List.contains_iff_mem.mp known)
    refine made_of_intact (intact_split ((by decide : Plain "z-").append plain).sound)
      (fun p hp => absurd hp (part p)) fun r hr => ?_
    rw [(raw r).mp hr]
    exact plain.solid
  · have text : "z-[" ++ v ++ "]" = "z-" ++ "[" ++ v ++ "]" := String.toList_inj.mp (by simp)
    refine (congrArg (Made _ _ ∘ split) text).mpr ?_
    rw [Function.comp_apply, split_bracketed (by decide) hv.square]
    refine ⟨?_, ?_, ?_⟩ <;> rw [List.forall_mem_singleton]
    · exact square_bracketed (by decide) hv.square
    · rw [← text]
      exact iff_of_true ((balanced_between (by decide) (by decide)).mpr hv.round)
        fun p hp => absurd hp (part p)
    · rw [← text, forall_congr' fun r => imp_congr_left (raw r), forall_eq,
        solid_append_iff, solid_append_iff, and_iff_left (by decide), and_iff_right (by decide)]

/-! ## all properties -/

/-- every property that has utilities -/
theorem made_utilities : ∀ e ∈ utilities, ∀ v, Calm v →
    Made (Part e.1 v) (Raw e.1 v) (split (e.2 v)) := by
  have whole {key : String} {write : String → String} (h : Careful write)
      (other : takings.lookup key = none ∧ key ≠ "zindex") :
      ∀ v, Calm v → Made (Part key v) (Raw key v) (split (write v)) :=
    fun v hv => made_of_sound (h hv) other.1 other.2
  have word {key : String} {table : List (String × String)} (plain : ∀ e ∈ table, Plain e.2)
      (other : takings.lookup key = none ∧ key ≠ "zindex") :
      ∀ v, Calm v → Made (Part key v) (Raw key v) (split (keyword table v)) :=
    whole (careful_keyword plain) other
  unfold utilities
  simp only [List.forall_mem_cons]
  -- the entries in the order of the table
  exact ⟨
    -- flex boxes
    word (by decide) (by decide), word (by decide) (by decide), word (by decide) (by decide),
    whole (careful_keywordOr (by decide) (by decide)) (by decide),
    whole (careful_keywordOr (by decide) (by decide)) (by decide),
    whole (careful_keywordOr (by decide) (by decide)) (by decide),
    word (by decide) (by decide), word (by decide) (by decide), word (by decide) (by decide),
    word (by decide) (by decide),
    -- grids
    whole (careful_named (by decide) (by decide)) (by decide),
    whole (careful_gridTemplate (by decide)) (by decide),
    whole (careful_gridTemplate (by decide)) (by decide), whole careful_gridArea (by decide),
    fun _ => made_gridSpan rfl (by decide), fun _ => made_gridSpan rfl (by decide),
    -- places
    whole (careful_named (by decide) (by decide)) (by decide),
    whole (careful_inset (by decide)) (by decide), whole (careful_inset (by decide)) (by decide),
    whole (careful_inset (by decide)) (by decide), whole (careful_inset (by decide)) (by decide),
    fun _ => made_zIndex, whole (careful_named (by decide) (by decide)) (by decide),
    whole (careful_named (by decide) (by decide)) (by decide),
    whole (careful_named (by decide) (by decide)) (by decide),
    -- sizes
    whole (careful_size (by decide)) (by decide), whole (careful_size (by decide)) (by decide),
    whole (careful_size (by decide)) (by decide), whole (careful_size (by decide)) (by decide),
    whole (careful_size (by decide)) (by decide), whole (careful_size (by decide)) (by decide),
    -- paddings, margins, gaps and moves
    fun _ => made_boxSides rfl (by decide), whole (careful_scaleClass (by decide)) (by decide),
    whole (careful_scaleClass (by decide)) (by decide),
    whole (careful_scaleClass (by decide)) (by decide),
    whole (careful_scaleClass (by decide)) (by decide), fun _ => made_boxSides rfl (by decide),
    whole (careful_scaleClass (by decide)) (by decide),
    whole (careful_scaleClass (by decide)) (by decide),
    whole (careful_scaleClass (by decide)) (by decide),
    whole (careful_scaleClass (by decide)) (by decide), whole (careful_gap (by decide)) (by decide),
    whole (careful_gap (by decide)) (by decide), whole (careful_gap (by decide)) (by decide),
    fun _ => made_translate, whole (careful_translateAxis (by decide)) (by decide),
    whole (careful_translateAxis (by decide)) (by decide), whole careful_aspectRatio (by decide),
    -- backgrounds and borders
    whole careful_background (by decide), whole careful_background (by decide),
    whole (careful_arbitrary (by decide)) (by decide), whole careful_backgroundSize (by decide),
    whole (careful_colorClass (by decide)) (by decide), fun _ => made_border,
    whole (careful_borderWidth (by decide)) (by decide),
    whole (careful_borderWidth (by decide)) (by decide),
    whole (careful_borderWidth (by decide)) (by decide),
    whole (careful_borderWidth (by decide)) (by decide),
    whole (careful_borderWidth (by decide)) (by decide),
    whole (careful_colorClass (by decide)) (by decide),
    whole (careful_named (by decide) (by decide)) (by decide),
    whole (careful_radius (by decide)) (by decide), whole (careful_radius (by decide)) (by decide),
    whole (careful_radius (by decide)) (by decide), whole (careful_radius (by decide)) (by decide),
    whole (careful_radius (by decide)) (by decide), whole careful_transform (by decide),
    whole careful_opacity (by decide),
    -- texts
    fun _ => made_fontFamily, whole (careful_keywordOr (by decide) (by decide)) (by decide),
    word (by decide) (by decide), whole (careful_bracketProperty (by decide)) (by decide),
    whole careful_fontSize (by decide), whole careful_lineHeight (by decide),
    whole (careful_arbitrary (by decide)) (by decide), word (by decide) (by decide),
    word (by decide) (by decide), whole (careful_named (by decide) (by decide)) (by decide),
    whole (careful_named (by decide) (by decide)) (by decide),
    whole (careful_arbitrary (by decide)) (by decide),
    -- effects
    whole (careful_blur (by decide) (by decide)) (by decide),
    whole (careful_blur (by decide) (by decide)) (by decide),
    whole (careful_named (by decide) (by decide)) (by decide),
    whole (careful_keywordOr (by decide) (by decide)) (by decide), fun _ => made_outline,
    whole (careful_arbitrary (by decide)) (by decide),
    whole (careful_bracketProperty (by decide)) (by decide), List.forall_mem_nil _⟩

/-- an empty value has empty parts -/
theorem balanced_of_empty (p : String) (h : Part key "" p) : Balanced .round p := by
  obtain ⟨taking, -, h⟩ := h
  have words : Text.words "" = [] := by decide
  cases taking with
  | sides => rw [Taking.Part, words] at h; exact absurd h.2 List.not_mem_nil
  | axes => rw [Taking.Part, words] at h; exact absurd h List.not_mem_nil
  | border => rcases h with rfl | ⟨rfl, -⟩ <;> decide
  | outline => obtain ⟨rfl, -⟩ := h; decide
  | span => obtain ⟨count, found, -⟩ := h; exact nomatch found
  | families => rw [show p = familyPart "" from h]; decide

theorem solid_of_empty (r : String) (h : Raw key "" r) : Solid r := by
  rcases h with ⟨-, rfl⟩ | ⟨-, rfl⟩ <;> decide

/-- a property that takes its values apart has utilities -/
theorem whole_of_lookup (unknown : utilities.lookup key = none) :
    takings.lookup key = none ∧ key ≠ "zindex" ∧ key ≠ "fontfamily" := by
  have listed : ∀ k ∈ "zindex" :: takings.map Prod.fst, (utilities.lookup k).isSome := by decide
  have absent {k : String} (hk : k ∈ "zindex" :: takings.map Prod.fst) : key ≠ k := by
    rintro rfl
    have known := listed key hk
    rw [unknown] at known
    cases known
  refine ⟨?_, absent (by decide), absent (by decide)⟩
  rw [List.lookup_eq_none_iff]
  exact fun e he => bne_iff_ne.mpr
    (absent (List.mem_cons_of_mem _ (List.mem_map_of_mem he)))

theorem made_classesOf (property : String) (hv : Calm v) :
    Made (Part (propertyKey property) (Text.trim v)) (Raw (propertyKey property) (Text.trim v))
      (classesOf property v) := by
  unfold classesOf ofDeclaration
  dsimp only
  split
  · next empty =>
    rw [empty]
    exact made_of_intact (List.forall_mem_nil _) balanced_of_empty solid_of_empty
  · split
    · next write found => exact made_utilities _ (mem_of_lookup found) _ hv.trim
    · next unknown =>
      obtain ⟨whole, layer, family⟩ := whole_of_lookup unknown
      exact made_of_intact (List.forall_mem_nil _) (fun p hp => absurd hp (not_part whole p))
        fun r hr => absurd hr (not_raw layer family r)

/-- **Which classes are intact.**  In the classes of declarations whose values have balanced round
brackets and no square ones, the square brackets are balanced; the round ones are so exactly if they
are in the parts that are written without the rest of their value; and blanks come only from a layer
or a family with blanks.  Where there are none, the classes are the words of their text. -/
theorem classes_intact (declarations : List (String × String))
    (calm : ∀ d ∈ declarations, Calm d.2) :
    Made (fun p => ∃ d ∈ declarations, Part (propertyKey d.1) (Text.trim d.2) p)
      (fun r => ∃ d ∈ declarations, Raw (propertyKey d.1) (Text.trim d.2) r)
      (declarations.flatMap fun d => classesOf d.1 d.2) ∧
    (Text.words (Text.joinWith " " (declarations.flatMap fun d => classesOf d.1 d.2))
        = declarations.flatMap (fun d => classesOf d.1 d.2) ↔
      ∀ d ∈ declarations, ∀ r, Raw (propertyKey d.1) (Text.trim d.2) r → Solid r) := by
  have made := fun d hd => made_classesOf d.1 (calm d hd)
  have all {P : String → Prop} {Q : String × String → String → Prop}
      (h : ∀ d ∈ declarations, (∀ c ∈ classesOf d.1 d.2, P c) ↔ ∀ p, Q d p → P p) :
      (∀ c ∈ declarations.flatMap fun d => classesOf d.1 d.2, P c) ↔
        ∀ p, (∃ d ∈ declarations, Q d p) → P p := by
    simp only [List.forall_mem_flatMap]
    constructor
    · rintro kept p ⟨d, hd, hp⟩
      exact (h d hd).mp (kept d hd) p hp
    · exact fun parts d hd => (h d hd).mpr fun p hp => parts p ⟨d, hd, hp⟩
  have whole : Made (fun p => ∃ d ∈ declarations, Part (propertyKey d.1) (Text.trim d.2) p)
      (fun r => ∃ d ∈ declarations, Raw (propertyKey d.1) (Text.trim d.2) r)
      (declarations.flatMap fun d => classesOf d.1 d.2) :=
    ⟨List.forall_mem_flatMap.mpr fun d hd => (made d hd).square,
      all fun d hd => (made d hd).round, all fun d hd => (made d hd).solid⟩
  refine ⟨whole, ?_⟩
  have filled : ∀ c ∈ declarations.flatMap fun d => classesOf d.1 d.2, c ≠ "" :=
    List.forall_mem_flatMap.mpr fun d _ c hc => filled_of_mem_split hc
  have solid : (∀ c ∈ declarations.flatMap fun d => classesOf d.1 d.2, Solid c) ↔
      ∀ d ∈ declarations, ∀ r, Raw (propertyKey d.1) (Text.trim d.2) r → Solid r :=
    whole.solid.trans ⟨fun h d hd r hr => h r ⟨d, hd, hr⟩, fun h r ⟨d, hd, hr⟩ => h d hd r hr⟩
  rw [← solid]
  exact ⟨fun same c hc => solid_words _ c (same ▸ hc), fun solid => words_joinWith solid filled⟩

/-- a length with blanks and a family with one: the classes are the words of their text -/
theorem classes_intact_calc_and_family :
    let declarations := [("width", "calc(100% - 2px)"), ("font-family", "Open Sans")]
    let classes := declarations.flatMap fun d => classesOf d.1 d.2
    (∀ d ∈ declarations, Calm d.2) ∧
      classes = ["w-[calc(100%_-_2px)]", "font-['Open_Sans']"] ∧
      (∀ c ∈ classes, Intact c) ∧ Text.words (Text.joinWith " " classes) = classes := by
  intro declarations classes
  have calm : ∀ d ∈ declarations, Calm d.2 := by decide
  obtain ⟨made, whole⟩ := classes_intact declarations calm
  have parts : ∀ p, (∃ d ∈ declarations, Part (propertyKey d.1) (Text.trim d.2) p) →
      Balanced .round p := by
    rintro p ⟨d, hd, taking, is, hp⟩
    rcases List.mem_cons.mp hd with rfl | hd
    · exact nomatch is
    · obtain rfl := List.mem_singleton.mp hd
      obtain rfl := Option.some.inj is
      rw [show p = familyPart (Text.trim "Open Sans") from hp]
      decide
  have raws : ∀ d ∈ declarations, ∀ r, Raw (propertyKey d.1) (Text.trim d.2) r → Solid r := by
    intro d hd r hr
    rcases List.mem_cons.mp hd with rfl | hd
    · exact absurd hr (not_raw (by decide) (by decide) r)
    · obtain rfl := List.mem_singleton.mp hd
      rcases hr with ⟨layer, -⟩ | ⟨-, rfl⟩
      · exact absurd layer (by decide)
      · decide
  have solid := made.solid.mpr fun r ⟨d, hd, hr⟩ => raws d hd r hr
  exact ⟨calm, by decide +kernel,
    fun c hc => ⟨⟨solid c hc, made.square c hc⟩, made.round.mpr parts c hc⟩, whole.mpr raws⟩

/-- a layer is written with its blanks, and a padding is cut inside of its brackets -/
theorem torn_classes :
    (Calm "1 2" ∧ classesOf "z-index" "1 2" = ["z-[1 2]"] ∧ ¬ Solid "z-[1 2]") ∧
    (Calm "calc(1px + 2px) auto" ∧
      classesOf "padding" "calc(1px + 2px) auto"
        = ["pt-[calc(1px]", "pr-[+]", "pb-[2px)]", "pl-auto"] ∧
      ¬ Balanced .round "pt-[calc(1px]") := by
  decide +kernel

end

end Handoff.Utility
