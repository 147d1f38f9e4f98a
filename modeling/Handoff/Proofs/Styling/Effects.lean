import Mathlib.Data.List.Perm.Subperm
import Handoff.Proofs.Styling.Containing
import Handoff.Proofs.Styling.Declarations
import Handoff.Proofs.Text.Numerals

/-!
# Where the effects of a node are shown

The filters of an image, shadows and blurs are written as lists, in two properties.  A blur goes
behind the filters that are there.  The shadows of a node with an image take the place of all of them,
and no box shadow is written then.

* `Lists`                     a property that lists texts;
* `filterTexts`, `boxTexts`   what the two properties list, and `lists_nodeStyles` that they do;
* `EffectsKept`               each visible effect has a text of its own;
* `Displacing`                the nodes whose shadows displace other effects;
* `effects_kept`              the effects of all other nodes are kept, and only of those;
* `effects_of_lit_photo`      a shadow that displaces the filter of an image.
-/

namespace Handoff.Styling

/-! ## lists in a property -/

/-- a property that lists texts, and is missing if there are none -/
def Lists (s : Styles) (property separator : String) (texts : List String) : Prop :=
  s.text? property = if texts.isEmpty then none else some (separator.intercalate texts)

section
variable {s s' : Styles} {property separator : String} {texts : List String}

theorem Lists.congr (same : s'.get? property = s.get? property)
    (h : Lists s property separator texts) : Lists s' property separator texts := by
  rw [Lists, Styles.text?, same]
  exact h

theorem lists_nil (h : s.get? property = none) : Lists s property separator [] := by
  rw [Lists, Styles.text?, h]
  rfl

/-- a list that is written anew -/
theorem lists_put (filled : texts ≠ []) :
    Lists (s.put property (separator.intercalate texts)) property separator texts := by
  rw [Lists, Styles.text?, Styles.put, Dict.get?_set, if_pos rfl, if_neg]
  · rfl
  · rwa [List.isEmpty_iff]

/-- one more text goes behind the others -/
theorem Lists.push (h : Lists s property separator texts) (text : String) :
    Lists (s.put property (match s.text? property with
      | some listed => listed ++ separator ++ text
      | none => text)) property separator (texts ++ [text]) := by
  have whole : (match s.text? property with
      | some listed => listed ++ separator ++ text
      | none => text) = separator.intercalate (texts ++ [text]) := by
    rw [h]
    cases texts with
    | nil => exact String.intercalate_singleton.symm
    | cons first rest =>
      rw [String.intercalate_append_of_ne_nil (List.cons_ne_nil first rest)
        (List.cons_ne_nil text []), String.intercalate_singleton]
      rfl
  rw [whole]
  exact lists_put (List.append_ne_nil_of_right_ne_nil _ (List.cons_ne_nil text []))

end

/-! ## what the effects of a node are -/

section
variable (n : NodeData)

def visibleEffects : List Effect := n.effects.filter Effect.visible

def dropShadows : List Effect := (visibleEffects n).filter fun e => e.kind = .dropShadow

def innerShadows : List Effect := (visibleEffects n).filter fun e => e.kind = .innerShadow

def layerBlurs : List Effect :=
  (visibleEffects n).filter fun e => e.kind = .layerBlur && 0.0 < e.radius

/-- the filters of an image that change it -/
def imageFilterTexts (f : ImageFilters) : List String :=
  let part := fun (name : String) (x : Float) =>
    if x == 0.0 then [] else [name ++ "(" ++ Decimal.trimmed (1.0 + x) ++ ")"]
  part "brightness" f.exposure ++ part "contrast" f.contrast ++ part "saturate" f.saturation

theorem imageFilter?_eq (f : ImageFilters) : imageFilter? f = if (imageFilterTexts f).isEmpty then
    none else some (" ".intercalate (imageFilterTexts f)) := rfl

/-- the filters of the lowest visible fill -/
def fillFilterTexts : List String :=
  match seenFills n with
  | [] => []
  | p :: _ => match p.fill with
    | .image i => (i.filters.map imageFilterTexts).getD []
    | _ => []

/-- the drop shadows of a node with an image become filters -/
def filtersShadows : Bool := n.hasImageFill && !(dropShadows n).isEmpty

/-- what the filter of a node lists -/
def filterTexts : List String :=
  (if filtersShadows n then (dropShadows n).map dropShadow else fillFilterTexts n)
    ++ (layerBlurs n).map blurText

/-- what the box shadow of a node lists -/
def boxTexts : List String :=
  if filtersShadows n then [] else (visibleEffects n).filterMap boxShadow?

end

/-! ## what the passes write -/

/-- an image lists its filters -/
theorem lists_imageBackground (i : ImagePaint) {s : Styles} (free : s.get? "filter" = none) :
    Lists (s.write (imageBackground i)) "filter" " "
      ((i.filters.map imageFilterTexts).getD []) := by
  obtain ⟨ds, keyed, e⟩ : ∃ ds, Keyed ["background-image", "background-size"] ds ∧
      imageBackground i = ds ++ declare? "filter" (i.filters.bind imageFilter?) := by
    refine ⟨_, ?_, rfl⟩
    split
    · exact keyed_cons (by decide) (keyed_cons (by decide) keyed_nil)
    · exact keyed_nil
  rw [e, write_append, Lists, Styles.text?, get?_write_declare?, keyed.get?_write (by decide), free]
  cases i.filters with
  | none => rfl
  | some f =>
    rw [Option.bind_some, imageFilter?_eq, Option.map_some, Option.getD_some]
    cases (imageFilterTexts f).isEmpty <;> rfl

/-- fills list the filters of the lowest one -/
theorem lists_fills (vs : Variables) (n : NodeData) {s : Styles} (free : s.get? "filter" = none) :
    Lists (s.write (fills vs n)) "filter" " " (fillFilterTexts n) := by
  have painted (value : String) : Lists (s.write [declare
      (if n.kind = .text then "color" else "background") value]) "filter" " " [] := by
    have own : Keyed ["color", "background"]
        [declare (if n.kind = .text then "color" else "background") value] :=
      keyed_cons (by split <;> decide) keyed_nil
    exact lists_nil ((own.get?_write (by decide) s).trans free)
  unfold fills fillFilterTexts
  cases seenFills n with
  | nil => exact lists_nil free
  | cons p _ =>
    dsimp only
    cases p.fill with
    | solid color => exact painted _
    | gradient shape g => exact painted _
    | image i => exact lists_imageBackground i free
    | unsupported => exact lists_nil free

/-- shadows are listed in a box shadow, or they take the place of all filters -/
theorem lists_shadows (n : NodeData) {s : Styles} {filters : List String}
    (filter : Lists s "filter" " " filters) (free : s.get? "box-shadow" = none) :
    Lists (s.write (shadows n (visibleEffects n))) "filter" " "
        (if filtersShadows n then (dropShadows n).map dropShadow else filters) ∧
      Lists (s.write (shadows n (visibleEffects n))) "box-shadow" ", " (boxTexts n) := by
  have cast : shadows n (visibleEffects n) = if filtersShadows n then
      [declare "filter" (" ".intercalate ((dropShadows n).map dropShadow))]
    else declareIf (!((visibleEffects n).filterMap boxShadow?).isEmpty) "box-shadow"
      (", ".intercalate ((visibleEffects n).filterMap boxShadow?)) := rfl
  rw [cast, boxTexts]
  cases filtered : filtersShadows n with
  | true =>
    have some : (dropShadows n).map dropShadow ≠ [] := by
      rw [filtersShadows, Bool.and_eq_true, Bool.not_eq_true', List.isEmpty_eq_false_iff] at filtered
      exact mt List.map_eq_nil_iff.mp filtered.2
    refine ⟨lists_put some, lists_nil ?_⟩
    exact ((keyed_cons List.mem_cons_self keyed_nil : Keyed ["filter"] _).get?_write
      (by decide) s).trans free
  | false =>
    rw [if_neg Bool.false_ne_true, if_neg Bool.false_ne_true, if_neg Bool.false_ne_true]
    refine ⟨filter.congr ?_, ?_⟩
    · exact (keyed_declareIf (List.mem_singleton_self "box-shadow") _).get?_write (by decide) s
    · generalize (visibleEffects n).filterMap boxShadow? = texts
      cases texts with
      | nil => exact lists_nil free
      | cons text texts => exact lists_put (List.cons_ne_nil text texts)

/-- a blur of the layer goes behind the filters that are there -/
theorem lists_blur (e : Effect) {s : Styles} {filters : List String}
    (filter : Lists s "filter" " " filters) : Lists (blur s e) "filter" " "
      (filters ++ if e.kind = .layerBlur && 0.0 < e.radius then [blurText e] else []) := by
  have kept : Lists s "filter" " " (filters ++ []) := by rwa [List.append_nil]
  unfold blur
  by_cases blurs : 0.0 < e.radius
  · rw [if_pos blurs, decide_eq_true blurs, Bool.and_true]
    cases e.kind with
    | layerBlur => exact filter.push (blurText e)
    | backgroundBlur =>
      refine kept.congr ?_
      show Dict.get? (Dict.set ..) "filter" = _
      rw [Dict.get?_set, if_neg (by decide)]
    | dropShadow => exact kept
    | innerShadow => exact kept
    | other => exact kept
  · rw [if_neg blurs, decide_eq_false blurs, Bool.and_false, if_neg Bool.false_ne_true]
    exact kept

/-- no blur changes the box shadow -/
theorem box_blur (s : Styles) (e : Effect) :
    (blur s e).get? "box-shadow" = s.get? "box-shadow" := by
  unfold blur
  split
  · split
    · rw [Styles.put, Dict.get?_set, if_neg (by decide)]
    · rw [Styles.put, Dict.get?_set, if_neg (by decide)]
    · rfl
  · rfl

theorem lists_foldl_blur (es : List Effect) {s : Styles} {filters boxes : List String}
    (filter : Lists s "filter" " " filters) (box : Lists s "box-shadow" ", " boxes) :
    Lists (es.foldl blur s) "filter" " "
        (filters ++ (es.filter fun e => e.kind = .layerBlur && 0.0 < e.radius).map blurText) ∧
      Lists (es.foldl blur s) "box-shadow" ", " boxes := by
  induction es generalizing s filters with
  | nil => exact ⟨by rwa [List.filter_nil, List.map_nil, List.append_nil], box⟩
  | cons e es ih =>
    have later := ih (lists_blur e filter) (box.congr (box_blur s e))
    rw [List.append_assoc] at later
    rw [List.foldl_cons, List.filter_cons]
    split at later
    · next here => rwa [if_pos here]
    · next here => rwa [if_neg here]

/-- **The effects of a node, text by text.** -/
theorem lists_nodeStyles (vs : Variables) (parent : ParentContext) (n : NodeData)
    (hasChildren : Bool) :
    Lists (nodeStyles vs parent n hasChildren) "filter" " " (filterTexts n) ∧
      Lists (nodeStyles vs parent n hasChildren) "box-shadow" ", " (boxTexts n) := by
  have early : Keyed (generalKeys ++ layoutKeys) (general vs n ++ layout n parent hasChildren) :=
    (keyed_general vs n).both (keyed_layout n parent hasChildren)
  -- what is written before the effects: of the two properties only the filter, by the fills
  have painted : Lists (Styles.write ∅ (general vs n ++ layout n parent hasChildren ++ fills vs n
      ++ strokes vs n)) "filter" " " (fillFilterTexts n) := by
    rw [write_append, write_append]
    refine Lists.congr ((keyed_strokes vs n).get?_write (by decide) _) ?_
    exact lists_fills vs n (early.get?_write (by decide) ∅)
  have unboxed : Dict.get? (Styles.write ∅ (general vs n ++ layout n parent hasChildren
      ++ fills vs n ++ strokes vs n)) "box-shadow" = none := by
    rw [write_append, write_append, (keyed_strokes vs n).get?_write (by decide),
      (keyed_fills vs n).get?_write (by decide), early.get?_write (by decide)]
    rfl
  obtain ⟨filter, box⟩ := lists_shadows n painted unboxed
  obtain ⟨filter, box⟩ := lists_foldl_blur (visibleEffects n) filter box
  have late : Keyed (("font-family" :: typeKeys) ++ shapeKeys ++ ["transform"])
      (typography n ++ shape n
        ++ declareIf (n.rotationDegrees != 0.0) "transform" (rotateText n.rotationDegrees)) :=
    ((keyed_typography n).both (keyed_shape n)).both (keyed_declareIf (by decide) _)
  exact ⟨filter.congr (late.get?_write (by decide) _), box.congr (late.get?_write (by decide) _)⟩

/-! ## a text for each effect -/

/-- each visible effect has a text of its own: a shadow in the box shadow or in the filter, the
filters of the lowest fill and the blurs in the filter -/
def EffectsKept (n : NodeData) (s : Styles) : Prop :=
  ∃ filters boxes, Lists s "filter" " " filters ∧ Lists s "box-shadow" ", " boxes ∧
    ∃ boxed filtered : List Effect, (boxed ++ filtered).Perm (dropShadows n ++ innerShadows n) ∧
      (boxed.filterMap boxShadow?).Subperm boxes ∧
      (fillFilterTexts n ++ filtered.map dropShadow ++ (layerBlurs n).map blurText).Subperm filters

/-- a node whose drop shadows become filters, which displace its inner shadows or the filters of its
lowest fill -/
structure Displacing (n : NodeData) : Prop where
  filtered : filtersShadows n = true
  others : innerShadows n ≠ [] ∨ fillFilterTexts n ≠ []

/-- box shadows are those of all shadows -/
theorem boxShadows_perm (es : List Effect) :
    List.Perm (((es.filter fun e => e.kind = .dropShadow) ++
      (es.filter fun e => e.kind = .innerShadow)).filterMap boxShadow?)
        (es.filterMap boxShadow?) := by
  induction es with
  | nil => exact .refl _
  | cons e es ih =>
    rw [List.filter_cons, List.filter_cons, List.filterMap_cons]
    cases kind : e.kind with
    | dropShadow =>
      have text : boxShadow? e = some (boxShadow e) := by rw [boxShadow?, kind]
      simp only [text]
      exact (List.Perm.of_eq (List.filterMap_cons_some text)).trans (ih.cons _)
    | innerShadow =>
      have text : boxShadow? e = some ("inset " ++ boxShadow e) := by rw [boxShadow?, kind]
      simp only [text]
      refine (List.perm_middle.filterMap boxShadow?).trans ?_
      exact (List.Perm.of_eq (List.filterMap_cons_some text)).trans (ih.cons _)
    | layerBlur | backgroundBlur | other =>
      have text : boxShadow? e = none := by rw [boxShadow?, kind]
      simp only [text]
      exact ih

/-! ### opening brackets -/

/-- how many functions a text calls, as far as brackets tell -/
def openings (text : String) : Nat := text.toList.count '('

/-- how many functions some texts call -/
def openingsIn (texts : List String) : Nat := (texts.flatMap String.toList).count '('

theorem openings_append (s t : String) : openings (s ++ t) = openings s + openings t := by
  rw [openings, String.toList_append, List.count_append]
  rfl

theorem openings_numeral {s : String} (h : Numeral s) : openings s = 0 :=
  List.count_eq_zero.mpr fun opening => absurd (h '(' opening) (by decide)

theorem openingsIn_cons (text : String) (texts : List String) :
    openingsIn (text :: texts) = openings text + openingsIn texts := by
  rw [openingsIn, List.flatMap_cons, List.count_append]
  rfl

theorem openingsIn_append (texts texts' : List String) :
    openingsIn (texts ++ texts') = openingsIn texts + openingsIn texts' := by
  rw [openingsIn, List.flatMap_append, List.count_append]
  rfl

theorem openingsIn_all {α : Type} {f : α → String} {k : Nat} {xs : List α}
    (h : ∀ x ∈ xs, openings (f x) = k) : openingsIn (xs.map f) = xs.length * k := by
  induction xs with
  | nil => exact (Nat.zero_mul k).symm
  | cons x xs ih =>
    obtain ⟨first, later⟩ := List.forall_mem_cons.mp h
    rw [List.map_cons, openingsIn_cons, first, ih later, List.length_cons, Nat.succ_mul,
      Nat.add_comm]

theorem openings_intercalate {separator : String} (none : openings separator = 0)
    (texts : List String) : openings (separator.intercalate texts) = openingsIn texts := by
  induction texts with
  | nil => rfl
  | cons text texts ih =>
    rw [openingsIn_cons, ← ih]
    cases texts with
    | nil => rw [String.intercalate_singleton, String.intercalate_nil]; rfl
    | cons next texts =>
      rw [String.intercalate_cons_cons, openings_append, openings_append, none, Nat.add_zero]

/-- texts that are among others call no more functions -/
theorem openingsIn_le {texts texts' : List String} (h : texts.Subperm texts') :
    openingsIn texts ≤ openingsIn texts' := by
  obtain ⟨same, perm, sub⟩ := h
  have equal : openingsIn same = openingsIn texts :=
    (perm.flatMap_right String.toList).count_eq '('
  rw [← equal]
  clear perm equal
  induction sub with
  | slnil => exact Nat.le_refl _
  | cons text _ ih =>
    rw [openingsIn_cons]
    exact Nat.le_trans ih (Nat.le_add_left _ _)
  | cons_cons text _ ih =>
    rw [openingsIn_cons, openingsIn_cons]
    exact Nat.add_le_add_left ih _

/-- what is listed calls as many functions, in whatever way it is taken apart -/
theorem Lists.openings_eq {s : Styles} {property separator : String} {texts texts' : List String}
    (h : Lists s property separator texts) (h' : Lists s property separator texts')
    (none : openings separator = 0) : openingsIn texts = openingsIn texts' := by
  rw [← openings_intercalate none, ← openings_intercalate none]
  have same := h.symm.trans h'
  cases texts with
  | nil =>
    cases texts' with
    | nil => rfl
    | cons _ _ => cases same
  | cons _ _ =>
    cases texts' with
    | nil => cases same
    | cons _ _ => exact congrArg openings (Option.some.inj same)

theorem openings_px (x : Float) : openings (px x) = 0 :=
  openings_numeral ((Decimal.numeral_trimmed x).append (by decide))

theorem openings_rgba (c : Color) (alpha : Float) : openings (c.rgba alpha) = 1 := by
  have number (n : Nat) : openings (toString n) = 0 := openings_numeral (numeral_toString n)
  have share : openings (Decimal.trimmed (clampUnit alpha)) = 0 :=
    openings_numeral (Decimal.numeral_trimmed _)
  simp only [Color.rgba, openings_append, number, share]
  decide

theorem openings_dropShadow (e : Effect) : openings (dropShadow e) = 2 := by
  have color : openings (shadowColor e) = 1 := openings_rgba _ _
  rw [dropShadow, openings_append, openings_append, openings_intercalate (by decide)]
  simp only [openingsIn_cons, openings_px, color]
  decide

theorem openings_blurText (e : Effect) : openings (blurText e) = 1 := by
  rw [blurText, openings_append, openings_append, openings_px]
  decide

theorem openings_imageFilterTexts (f : ImageFilters) :
    ∀ text ∈ imageFilterTexts f, openings text = 1 := by
  have part {name : String} (none : openings name = 0) (x : Float) :
      ∀ text ∈ (if x == 0.0 then [] else [name ++ "(" ++ Decimal.trimmed (1.0 + x) ++ ")"]),
        openings text = 1 := by
    split
    · exact List.forall_mem_nil _
    · refine List.forall_mem_singleton.mpr ?_
      rw [openings_append, openings_append, openings_append, none,
        openings_numeral (Decimal.numeral_trimmed _)]
      decide
  exact List.forall_mem_append.mpr ⟨List.forall_mem_append.mpr
    ⟨part (by decide) _, part (by decide) _⟩, part (by decide) _⟩

theorem openings_fillFilterTexts (n : NodeData) :
    ∀ text ∈ fillFilterTexts n, openings text = 1 := by
  unfold fillFilterTexts
  split
  · exact List.forall_mem_nil _
  · split
    · next i _ =>
      cases i.filters with
      | none => exact List.forall_mem_nil _
      | some f => exact openings_imageFilterTexts f
    · exact List.forall_mem_nil _

/-! ### what is kept -/

/-- nothing is listed in a property that is missing -/
theorem Lists.eq_nil {s : Styles} {property separator : String} {texts : List String}
    (h : Lists s property separator texts) (none : Lists s property separator []) : texts = [] := by
  cases texts with
  | nil => rfl
  | cons _ _ => cases h.symm.trans none

/-- without a box shadow no shadow is shown by one -/
theorem boxed_eq_nil {n : NodeData} {boxed filtered : List Effect}
    (perm : (boxed ++ filtered).Perm (dropShadows n ++ innerShadows n))
    (none : boxed.filterMap boxShadow? = []) : boxed = [] := by
  refine List.eq_nil_iff_forall_not_mem.mpr fun e he => ?_
  have absent := List.filterMap_eq_nil_iff.mp none e he
  have mem := perm.mem_iff.mp (List.mem_append_left filtered he)
  unfold boxShadow? at absent
  rcases List.mem_append.mp mem with drop | inner
  · rw [of_decide_eq_true (List.mem_filter.mp drop).2] at absent
    cases absent
  · rw [of_decide_eq_true (List.mem_filter.mp inner).2] at absent
    cases absent

/-- **The effects of a node are kept unless its shadows displace others**, in styles that list what
the passes write. -/
theorem effectsKept_iff {n : NodeData} {s : Styles} (filter : Lists s "filter" " " (filterTexts n))
    (box : Lists s "box-shadow" ", " (boxTexts n)) : EffectsKept n s ↔ ¬ Displacing n := by
  constructor
  · rintro ⟨filters, boxes, filter', box', boxed, filtered, perm, inBox, inFilter⟩ ⟨shadows, others⟩
    rw [boxTexts, shadows, if_pos rfl] at box
    rw [filterTexts, shadows, if_pos rfl] at filter
    rw [box'.eq_nil box, List.subperm_nil] at inBox
    obtain rfl := boxed_eq_nil perm inBox
    -- all shadows are filters then, so more functions should be called than are
    have count := perm.length_eq
    have fewer := openingsIn_le inFilter
    have images := openingsIn_all (f := id) (openings_fillFilterTexts n)
    rw [List.map_id] at images
    rw [filter'.openings_eq filter (by decide), openingsIn_append, openingsIn_append,
      openingsIn_append, images, openingsIn_all fun e _ => openings_dropShadow e,
      openingsIn_all fun e _ => openings_dropShadow e,
      openingsIn_all fun e _ => openings_blurText e] at fewer
    rw [List.nil_append, List.length_append] at count
    rcases others with inner | image
    · have := List.length_pos_of_ne_nil inner
      omega
    · have := List.length_pos_of_ne_nil image
      omega
  · intro kept
    refine ⟨_, _, filter, box, ?_⟩
    rw [filterTexts, boxTexts]
    cases shadows : filtersShadows n with
    | true =>
      -- all shadows are drop shadows, and nothing was listed before them
      have none : innerShadows n = [] ∧ fillFilterTexts n = [] := by
        by_contra some
        exact kept ⟨shadows, not_and_or.mp some⟩
      refine ⟨[], dropShadows n, ?_, List.nil_subperm, ?_⟩
      · rw [none.1, List.append_nil]
        exact .refl _
      · rw [none.2, if_pos rfl]
        exact .refl _
    | false =>
      refine ⟨dropShadows n ++ innerShadows n, [], ?_, (boxShadows_perm _).subperm, ?_⟩
      · exact .of_eq (List.append_nil _)
      · rw [List.map_nil, List.append_nil, if_neg Bool.false_ne_true]

/-! ## styled trees -/

/-- a node that is kept and has a box lists its effects, whatever its context -/
theorem lists_styleNode (p : Policy) (parent : ParentContext) (r : Float) (n : DesignNode)
    (names : NameRegistry) (kept : p.keeps n.toNodeData = true) (noGroup : n.kind ≠ .group)
    (noVector : n.kind.isVector = false) :
    ∃ tree, (styleNode p parent r n names).1 = some tree ∧ tree.source = n.toNodeData ∧
      Lists tree.styles "filter" " " (filterTexts n.toNodeData) ∧
      Lists tree.styles "box-shadow" ", " (boxTexts n.toNodeData) := by
  obtain ⟨d, cs⟩ := n
  obtain ⟨name, children, styled⟩ : ∃ name children, (styleNode p parent r ⟨d, cs⟩ names).1
      = some (settle ⟨nodeData p parent (r + d.rotationDegrees) d (!cs.isEmpty) name, children⟩) :=
    ⟨_, _, congrArg Prod.fst (styleNode_box kept noGroup noVector)⟩
  obtain ⟨filter, box⟩ := lists_nodeStyles p.variableTable parent d (!cs.isEmpty)
  exact ⟨_, styled, source_settle _, filter.congr (get?_settle _ (by decide)),
    box.congr (get?_settle _ (by decide))⟩

/-- **Which nodes show all of their effects.**  A node that is kept, and is neither a group nor a
vector, has a styled tree in any context.  Its filter lists the drop shadows, if it has an image, or
else the filters of the lowest fill, and then the blurs; its box shadow lists all shadows unless they
are filters.  So each visible effect has a text of its own, unless drop shadows displace inner shadows
or the filters of the lowest fill. -/
theorem effects_kept (s : Session) (parent : ParentContext) (rotation : Float) (n : DesignNode)
    (kept : s.policy.keeps n.toNodeData = true) (noGroup : n.kind ≠ .group)
    (noVector : n.kind.isVector = false) :
    ∃ tree, (s.styleIn parent rotation n).1 = some tree ∧ tree.source = n.toNodeData ∧
      Lists tree.styles "filter" " " (filterTexts n.toNodeData) ∧
      Lists tree.styles "box-shadow" ", " (boxTexts n.toNodeData) ∧
      (EffectsKept n.toNodeData tree.styles ↔ ¬ Displacing n.toNodeData) := by
  obtain ⟨tree, styled, source, filter, box⟩ :=
    lists_styleNode s.policy parent rotation n s.names kept noGroup noVector
  exact ⟨tree, styled, source, filter, box, effectsKept_iff filter box⟩

/-- a photo with a shadow and a blur -/
theorem effects_kept_photo :
    let photo : DesignNode := ⟨{
      id := "1", name := "Photo", kind := .rectangle
      effects := [{ kind := .dropShadow, radius := 4.0 }, { kind := .layerBlur, radius := 3.0 }]
      payload := .shape { fills := [{ fill := .image { imageRef := some "abc" } }] } {} {} }, []⟩
    ({} : Policy).keeps photo.toNodeData = true ∧ photo.kind ≠ .group ∧
      photo.kind.isVector = false ∧ filtersShadows photo.toNodeData = true ∧
      ∃ tree, (({} : Session).styleIn {} 0.0 photo).1 = some tree ∧
        EffectsKept photo.toNodeData tree.styles := by
  intro photo
  have alone : innerShadows photo.toNodeData = [] ∧ fillFilterTexts photo.toNodeData = [] :=
    ⟨rfl, rfl⟩
  obtain ⟨tree, styled, -, -, -, all⟩ :=
    effects_kept {} {} 0.0 photo rfl (by decide) rfl
  refine ⟨rfl, by decide, rfl, rfl, tree, styled, all.mpr fun displacing => ?_⟩
  exact displacing.others.elim (fun inner => inner alone.1) fun image => image alone.2

/-- a shadow displaces the filter that makes a photo brighter, and one that is cast inside of it -/
theorem effects_of_lit_photo :
    let shadow : Effect := { kind := .dropShadow, radius := 4.0 }
    let photo : ImageFilters → List Effect → DesignNode := fun filters effects => ⟨{
      id := "1", name := "Photo", kind := .rectangle, effects
      payload := .shape { fills := [
        { fill := .image { imageRef := some "abc", filters := some filters } }] } {} {} }, []⟩
    ∀ n ∈ [photo { exposure := 0.5 } [shadow], photo {} [shadow, { shadow with kind := .innerShadow }]],
      ∃ tree, (({} : Session).style n).1 = some tree ∧ tree.source = n.toNodeData ∧
        ¬ EffectsKept n.toNodeData tree.styles := by
  intro shadow photo
  have lost (n : DesignNode) (kept : ({} : Policy).keeps n.toNodeData = true)
      (noGroup : n.kind ≠ .group) (noVector : n.kind.isVector = false)
      (displacing : Displacing n.toNodeData) : ∃ tree, (({} : Session).style n).1 = some tree ∧
        tree.source = n.toNodeData ∧ ¬ EffectsKept n.toNodeData tree.styles := by
    obtain ⟨tree, styled, source, filter, box⟩ := lists_styleNode {} {} 0.0 n ∅ kept noGroup noVector
    exact ⟨tree, styled, source, fun all => (effectsKept_iff filter box).mp all displacing⟩
  have lit : (fillFilterTexts (photo { exposure := 0.5 } [shadow]).toNodeData).isEmpty = false := by
    decide
  refine List.forall_mem_cons.mpr ⟨?_, List.forall_mem_singleton.mpr ?_⟩
  · exact lost _ rfl (by decide) rfl ⟨rfl, .inr (List.isEmpty_eq_false_iff.mp lit)⟩
  · exact lost _ rfl (by decide) rfl ⟨rfl, .inl (List.cons_ne_nil _ _)⟩

end Handoff.Styling
