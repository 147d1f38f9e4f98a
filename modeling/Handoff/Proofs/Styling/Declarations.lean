import Handoff.Proofs.Styling.Position
import Handoff.Styling.Session

/-!
# What the styles of a node declare

Every pass of styling writes properties of its own, so what a node declares under a property can be
traced to the passes that write it.

* `Styles.Each`          what holds of all declarations, and goes on to hold;
* `Keyed`                declarations under some properties only;
* `keyed_general`, `keyed_container`, …   the properties of every pass;
* `Declared`             what a node can declare, whatever its context;
* `nodeStyles_split`     in which order it does so;
* `each_nodeStyles`      that it declares nothing else;
* `get?_cellPatch`       that a stack changes no more of its children than their places.
-/

namespace Handoff

/-! ## all declarations -/

namespace Styles

/-- what holds of all declarations -/
def Each (P : Declaration → Prop) (s : Styles) : Prop := ∀ d ∈ s.entries, P d

variable {P Q : Declaration → Prop} {s : Styles}

theorem each_iff : s.Each P ↔ ∀ key v, s.get? key = some v → P (key, v) :=
  ⟨fun h _ _ hv => h _ (Dict.mem_entries_iff.mpr hv),
    fun h d hd => h d.1 d.2 (Dict.mem_entries_iff.mp hd)⟩

theorem each_empty : Each P ∅ := List.forall_mem_nil _

theorem Each.imp (h : s.Each P) (imp : ∀ d, P d → Q d) : s.Each Q := fun d hd => imp d (h d hd)

theorem Each.set (h : s.Each P) {key : String} {v : StyleValue} (new : P (key, v)) :
    Each P (Dict.set s key v) := by
  refine each_iff.mpr fun k w hw => ?_
  rw [Dict.get?_set] at hw
  split at hw
  · next same =>
    obtain rfl := Option.some.inj hw
    exact same ▸ new
  · exact each_iff.mp h k w hw

theorem Each.write (h : s.Each P) {ds : List Declaration} (new : ∀ d ∈ ds, P d) :
    (s.write ds).Each P := by
  induction ds generalizing s with
  | nil => exact h
  | cons d ds ih =>
    obtain ⟨first, new⟩ := List.forall_mem_cons.mp new
    exact ih (h.set first) new

theorem Each.erase (h : s.Each P) (key : String) : Each P (Dict.erase s key) := fun d hd =>
  h d (List.mem_filter.mp hd).1

theorem Each.apply (h : s.Each P) {patch : StylePatch} (new : ∀ d ∈ patch.assignments, P d) :
    Each P (patch.apply s) := by
  refine Each.write ?_ new
  generalize patch.removals = keys
  induction keys generalizing s with
  | nil => exact h
  | cons key keys ih => exact ih (h.erase key)

end Styles

/-- a patch assigns what it was told to -/
theorem StylePatch.mem_assignments_setAll {patch : StylePatch} {ds : List Declaration}
    {d : Declaration} (h : d ∈ (patch.setAll ds).assignments) : d ∈ patch.assignments ∨ d ∈ ds := by
  induction ds generalizing patch with
  | nil => exact .inl h
  | cons e ds ih =>
    have h : d ∈ ((patch.set e.1 e.2).setAll ds).assignments := h
    rcases ih h with h | h
    · rcases List.mem_append.mp h with h | h
      · exact .inl (List.mem_filter.mp h).1
      · exact .inr (List.mem_singleton.mp h ▸ List.mem_cons_self)
    · exact .inr (List.mem_cons_of_mem _ h)

namespace Styling

/-! ## declarations under some properties -/

/-- declarations of these properties only -/
def Keyed (keys : List String) (ds : List Declaration) : Prop := ∀ d ∈ ds, d.1 ∈ keys

section
variable {keys keys' : List String} {ds ds' : List Declaration} {key v : String}

theorem keyed_nil : Keyed keys [] := List.forall_mem_nil _

theorem keyed_cons {v : StyleValue} (h : key ∈ keys) (rest : Keyed keys ds) :
    Keyed keys ((key, v) :: ds) := List.forall_mem_cons.mpr ⟨h, rest⟩

theorem Keyed.append (h : Keyed keys ds) (h' : Keyed keys ds') : Keyed keys (ds ++ ds') :=
  List.forall_mem_append.mpr ⟨h, h'⟩

theorem Keyed.mono (h : Keyed keys ds) (sub : keys ⊆ keys') : Keyed keys' ds :=
  fun d hd => sub (h d hd)

/-- declarations one after the other, each of their own properties -/
theorem Keyed.both (h : Keyed keys ds) (h' : Keyed keys' ds') : Keyed (keys ++ keys') (ds ++ ds') :=
  (h.mono (List.subset_append_left _ _)).append (h'.mono (List.subset_append_right _ _))

/-- a declaration of its own property in front of others -/
theorem Keyed.first (rest : Keyed keys ds) {v : StyleValue} :
    Keyed (key :: keys) ((key, v) :: ds) :=
  keyed_cons List.mem_cons_self (rest.mono (List.subset_cons_self _ _))

theorem keyed_declareIf (h : key ∈ keys) (holds : Bool) : Keyed keys (declareIf holds key v) := by
  cases holds with
  | true => exact keyed_cons h keyed_nil
  | false => exact keyed_nil

theorem keyed_declare? (h : key ∈ keys) (value : Option String) :
    Keyed keys (declare? key value) := by
  cases value with
  | some v => exact keyed_cons h keyed_nil
  | none => exact keyed_nil

/-- declarations under other properties leave a property -/
theorem Keyed.get?_write (h : Keyed keys ds) {key : String} (other : key ∉ keys) (s : Styles) :
    Dict.get? (s.write ds) key = Dict.get? s key :=
  Dict.get?_setAll_of_not_mem fun d hd same => other (same ▸ h d hd)

end

theorem get?_write_declare? (s : Styles) (property : String) (value : Option String) :
    Dict.get? (s.write (declare? property value)) property
      = (value.map StyleValue.text).orElse fun _ => s.get? property := by
  cases value with
  | none => rfl
  | some value =>
    show Dict.get? (Dict.set s property (.text value)) property = _
    rw [Dict.get?_set, if_pos rfl]
    rfl

/-! ## the properties of every pass -/

section
variable (vs : Variables) (n : NodeData) (parent : ParentContext)

def generalKeys : List String := ["opacity", "gap", "row-gap", "border-radius",
  "border-top-left-radius", "border-top-right-radius", "border-bottom-right-radius",
  "border-bottom-left-radius", "min-width", "max-width", "min-height", "max-height", "overflow",
  "mix-blend-mode", "aspect-ratio", "align-self", "flex-grow"]

theorem keyed_opacity : Keyed ["opacity"] (opacity vs n) := by
  unfold opacity
  split
  · split
    · exact keyed_cons (by decide) keyed_nil
    · exact keyed_cons (by decide) keyed_nil
  · exact keyed_nil

theorem keyed_gaps : Keyed generalKeys.tail (gaps vs n) := by
  have rows (layout : AutoLayout) : Keyed generalKeys.tail (rowGap vs n layout) := by
    unfold rowGap
    split
    · exact keyed_declareIf (by decide) _
    · exact keyed_nil
  unfold gaps
  split
  · exact (keyed_declareIf (by decide) _).append (rows _)
  · exact keyed_nil

theorem keyed_uniformRadius (radius : Option Float) : Keyed generalKeys.tail (uniformRadius radius) := by
  unfold uniformRadius
  split
  · exact keyed_declareIf (by decide) _
  · exact keyed_nil

theorem keyed_cornerRadii (a b c d : Float) : Keyed generalKeys.tail (cornerRadii a b c d) := by
  unfold cornerRadii
  split
  · exact keyed_uniformRadius _
  · refine keyed_cons (by decide) fun e he => ?_
    obtain ⟨corner, hc, he⟩ := List.mem_flatMap.mp he
    have named : ∀ name ∈ cornerNames, name.2 ∈ generalKeys.tail := by decide
    exact keyed_declareIf (named _ (List.of_mem_zip hc).1) _ e he

theorem keyed_corners : Keyed generalKeys.tail (corners vs n) := by
  unfold corners
  split
  · exact keyed_nil
  · split
    · exact keyed_cons (by decide) keyed_nil
    · refine (keyed_uniformRadius _).append ?_
      split
      · exact keyed_cornerRadii _ _ _ _
      · exact keyed_nil

theorem keyed_sizeLimits : Keyed generalKeys.tail (sizeLimits vs n) := by
  have each {property : String} (h : property ∈ generalKeys.tail) (key : String) (value : Option Float) :
      Keyed generalKeys.tail (limit vs n key property value) := by
    cases value with
    | some value => exact keyed_cons h keyed_nil
    | none => exact keyed_nil
  exact (((each (by decide) _ _).append (each (by decide) _ _)).append
    (each (by decide) _ _)).append (each (by decide) _ _)

theorem keyed_aspectRatio : Keyed generalKeys.tail (aspectRatio n) := by
  unfold aspectRatio
  split
  · exact keyed_declareIf (by decide) _
  · exact keyed_nil

theorem keyed_growth : Keyed generalKeys.tail (growth n) := by
  unfold growth
  split
  · exact keyed_cons (by decide) keyed_nil
  · exact keyed_nil

/-- of what does not depend on the surroundings the opacity is written first -/
theorem general_eq : ∃ ds, Keyed generalKeys.tail ds ∧ general vs n = opacity vs n ++ ds := by
  refine ⟨gaps vs n ++ corners vs n ++ sizeLimits vs n ++ declareIf n.clipsContent "overflow" "hidden"
    ++ declare? "mix-blend-mode" n.blendMode.css? ++ aspectRatio n
    ++ declareIf (n.layoutChild.align = some .stretch) "align-self" "stretch" ++ growth n, ?_, ?_⟩
  · exact (((((((keyed_gaps vs n).append (keyed_corners vs n)).append (keyed_sizeLimits vs n)).append
      (keyed_declareIf (by decide) _)).append (keyed_declare? (by decide) _)).append
        (keyed_aspectRatio n)).append (keyed_declareIf (by decide) _)).append (keyed_growth n)
  · simp only [general, List.append_assoc]

theorem keyed_general : Keyed generalKeys (general vs n) := by
  obtain ⟨ds, keyed, e⟩ := general_eq vs n
  rw [e]
  exact ((keyed_opacity vs n).mono (by decide)).append (keyed.mono fun _ => List.mem_of_mem_tail)

def containerKeys : List String := ["display", "grid-template-columns", "grid-template-rows",
  "column-gap", "row-gap", "flex-direction", "justify-content", "align-items", "flex-wrap",
  "padding"]

theorem keyed_gridContainer (layout : AutoLayout) : Keyed containerKeys (gridContainer layout) := by
  refine keyed_cons (by decide) ?_
  split
  · exact (((keyed_declare? (by decide) _).append (keyed_declare? (by decide) _)).append
      (keyed_declareIf (by decide) _)).append (keyed_declareIf (by decide) _)
  · exact keyed_nil

theorem keyed_flexContainer (layout : AutoLayout) (direction : String) :
    Keyed containerKeys (flexContainer parent layout direction) :=
  (((keyed_cons (by decide) (keyed_cons (by decide) keyed_nil)).append
    (keyed_declare? (by decide) _)).append (keyed_declare? (by decide) _)).append
      (keyed_declareIf (by decide) _)

theorem keyed_container : Keyed containerKeys (container n parent) := by
  unfold container
  split
  · exact keyed_nil
  · refine Keyed.append ?_ (keyed_declareIf (by decide) _)
    split
    · exact keyed_gridContainer _
    · exact keyed_flexContainer _ _ _
    · exact keyed_flexContainer _ _ _
    · exact keyed_nil
    · exact keyed_nil

theorem position_eq : position n parent = [] ∨
    ∃ ds, position n parent = declare "position" "absolute" :: ds ∧ Keyed offsetKeys ds := by
  unfold position
  split
  · split
    · exact .inr ⟨_, rfl, mem_offsetKeys⟩
    · exact .inl rfl
  · exact .inl rfl

/-- lines are counted from one -/
theorem mem_gridSpans : ∀ d ∈ gridSpans n, ∃ key ∈ ["grid-column", "grid-row"],
    ∃ line span : Nat, d = declare key (toString line ++ " / span " ++ toString span) := by
  have each (key : String) (hkey : key ∈ ["grid-column", "grid-row"]) (anchor : String)
      (span : Option Nat) : ∀ d ∈ gridSpan n key anchor span, ∃ key ∈ ["grid-column", "grid-row"],
        ∃ line span : Nat, d = declare key (toString line ++ " / span " ++ toString span) := by
    intro d hd
    unfold gridSpan declareIf at hd
    split at hd
    · split at hd
      · exact ⟨key, hkey, _, _, List.mem_singleton.mp hd⟩
      · cases hd
    · cases hd
  exact List.forall_mem_append.mpr ⟨each _ (by decide) _ _, each _ (by decide) _ _⟩

def sizeKeys : List String := ["width", "height", "min-height", "min-width"]

theorem keyed_size (hasChildren : Bool) : Keyed sizeKeys (size n parent hasChildren) := by
  unfold size
  split
  · exact keyed_nil
  · refine ((keyed_declare? (by decide) _).append (keyed_cons (by decide) keyed_nil)).append ?_
    unfold growthLimits
    split
    · exact (keyed_declareIf (by decide) _).append (keyed_declareIf (by decide) _)
    · exact keyed_nil

theorem keyed_position : Keyed ("position" :: offsetKeys) (position n parent) := by
  rcases position_eq n parent with none | ⟨ds, e, keyed⟩
  · rw [none]
    exact keyed_nil
  · rw [e]
    exact keyed.first

theorem keyed_gridSpans : Keyed ["grid-column", "grid-row"] (gridSpans n) := by
  intro d hd
  obtain ⟨key, hkey, _, _, rfl⟩ := mem_gridSpans n d hd
  exact hkey

def layoutKeys : List String :=
  containerKeys ++ ("position" :: offsetKeys) ++ ["grid-column", "grid-row"] ++ sizeKeys

theorem keyed_layout (hasChildren : Bool) : Keyed layoutKeys (layout n parent hasChildren) :=
  (((keyed_container n parent).both (keyed_position n parent)).both (keyed_gridSpans n)).both
    (keyed_size n parent hasChildren)

def fillKeys : List String :=
  ["color", "background", "background-image", "background-size", "filter"]

theorem keyed_imageBackground (i : ImagePaint) : Keyed fillKeys (imageBackground i) := by
  refine Keyed.append ?_ (keyed_declare? (by decide) _)
  split
  · exact keyed_cons (by decide) (keyed_cons (by decide) keyed_nil)
  · exact keyed_nil

theorem keyed_fills : Keyed fillKeys (fills vs n) := by
  have own : (if n.kind = .text then "color" else "background") ∈ fillKeys := by
    split <;> decide
  unfold fills
  split
  · exact keyed_nil
  · dsimp only
    split
    · exact keyed_cons own keyed_nil
    · exact keyed_cons own keyed_nil
    · exact keyed_imageBackground _
    · exact keyed_nil

def strokeKeys : List String := ["border-style", "border-color", "border-top-width",
  "border-right-width", "border-bottom-width", "border-left-width", "border"]

theorem keyed_border (paints : PaintStyle) (color : String) :
    Keyed strokeKeys (border paints color) := by
  unfold border
  dsimp only
  split
  · exact ((((keyed_cons (by decide) (keyed_cons (by decide) keyed_nil)).append
      (keyed_declareIf (by decide) _)).append (keyed_declareIf (by decide) _)).append
        (keyed_declareIf (by decide) _)).append (keyed_declareIf (by decide) _)
  · exact keyed_cons (by decide) keyed_nil

theorem keyed_strokes : Keyed strokeKeys (strokes vs n) := by
  unfold strokes
  split
  · exact keyed_nil
  · split
    · exact keyed_nil
    · split
      · exact keyed_nil
      · split
        · exact keyed_border _ _
        · exact keyed_nil

def effectKeys : List String := ["filter", "box-shadow", "backdrop-filter"]

theorem keyed_shadows (visible : List Effect) : Keyed effectKeys (shadows n visible) := by
  unfold shadows
  dsimp only
  split
  · exact keyed_cons (by decide) keyed_nil
  · exact keyed_declareIf (by decide) _

/-- effects are written one after the other -/
theorem effects_eq (s : Styles) : ∃ ds, Keyed effectKeys ds ∧ effects n s = s.write ds := by
  have blurred (e : Effect) (s : Styles) : ∃ ds, Keyed effectKeys ds ∧ blur s e = s.write ds := by
    unfold blur
    split
    · split
      · exact ⟨[declare "filter" _], keyed_cons (by decide) keyed_nil, rfl⟩
      · exact ⟨[declare "backdrop-filter" _], keyed_cons (by decide) keyed_nil, rfl⟩
      · exact ⟨[], keyed_nil, rfl⟩
    · exact ⟨[], keyed_nil, rfl⟩
  have all (es : List Effect) (s : Styles) :
      ∃ ds, Keyed effectKeys ds ∧ es.foldl blur s = s.write ds := by
    induction es generalizing s with
    | nil => exact ⟨[], keyed_nil, rfl⟩
    | cons e es ih =>
      obtain ⟨first, keyed, here⟩ := blurred e s
      obtain ⟨rest, keyed', there⟩ := ih (s.write first)
      exact ⟨first ++ rest, keyed.append keyed', by
        rw [write_append, ← there, ← here, List.foldl_cons]⟩
  obtain ⟨ds, keyed, e⟩ := all (n.effects.filter Effect.visible)
    (s.write (shadows n (n.effects.filter Effect.visible)))
  exact ⟨_, (keyed_shadows n _).append keyed, by rw [write_append, ← e]; rfl⟩

def typeKeys : List String := ["font-weight", "font-style", "font-size", "line-height",
  "letter-spacing", "text-align", "vertical-align", "text-transform", "font-variant",
  "text-decoration", "text-indent"]

theorem typography_eq : n.typeStyle? = none ∧ typography n = [] ∨
    ∃ style ds, n.typeStyle? = some style ∧
      typography n = declare? "font-family" style.fontFamily ++ ds ∧ Keyed typeKeys ds := by
  unfold typography
  split
  · next plain => exact .inl ⟨plain, rfl⟩
  · next style found =>
    have weights : Keyed typeKeys (weight style) := by
      unfold weight
      split
      · exact keyed_cons (by decide) keyed_nil
      · exact keyed_nil
    simp only [List.append_assoc]
    refine .inr ⟨style, _, found, rfl, ?_⟩
    exact weights.append <| (keyed_declareIf (by decide) _).append <|
      (keyed_declare? (by decide) _).append <| (keyed_declare? (by decide) _).append <|
      (keyed_declareIf (by decide) _).append <| (keyed_declare? (by decide) _).append <|
      (keyed_declare? (by decide) _).append <| (keyed_declare? (by decide) _).append <|
      (keyed_declare? (by decide) _).append <| (keyed_declare? (by decide) _).append <|
      keyed_declareIf (by decide) _

theorem keyed_typography : Keyed ("font-family" :: typeKeys) (typography n) := by
  rcases typography_eq n with ⟨-, none⟩ | ⟨style, ds, -, e, keyed⟩
  · rw [none]
    exact keyed_nil
  · rw [e]
    exact Keyed.append (keyed_declare? List.mem_cons_self _)
      (keyed.mono (List.subset_cons_self _ _))

def shapeKeys : List String := ["border-radius", "overflow", "clip-path"]

theorem keyed_shape : Keyed shapeKeys (shape n) := by
  unfold shape
  split
  · exact keyed_cons (by decide) (keyed_cons (by decide) keyed_nil)
  · split
    · exact keyed_declareIf (by decide) _
    · exact keyed_nil
  · split
    · exact keyed_declareIf (by decide) _
    · exact keyed_nil
  · split
    · exact keyed_declareIf (by decide) _
    · exact keyed_nil
  · exact keyed_nil

end

/-! ## the properties of groups -/

theorem keyed_sizeOf (size : Option Vector2) : Keyed ["width", "height"] (sizeOf size) := by
  cases size with
  | some _ => exact keyed_cons (by decide) (keyed_cons (by decide) keyed_nil)
  | none => exact keyed_nil

def groupPlaceKeys : List String := ["left", "top", "transform", "width", "height"]

theorem keyed_groupPlace (group child : NodeData) (parent : ParentContext) :
    Keyed groupPlaceKeys (groupPlace group child parent) := by
  unfold groupPlace
  split
  · exact Keyed.append (keyed_cons (by decide) (keyed_cons (by decide)
      (keyed_cons (by decide) keyed_nil))) ((keyed_sizeOf _).mono (by decide))
  · split
    · exact keyed_cons (by decide) (keyed_cons (by decide) keyed_nil)
    · exact keyed_nil

theorem keyed_groupOpacity (group : NodeData) : Keyed ["opacity"] (groupOpacity group) := by
  unfold groupOpacity
  split
  · exact keyed_cons (by decide) keyed_nil
  · exact keyed_nil

theorem keyed_stackGrid :
    Keyed ["display", "grid-template-columns", "grid-template-rows", "place-items"]
      [declare "display" "inline-grid", declare "grid-template-columns" "max-content",
        declare "grid-template-rows" "max-content", declare "place-items" "start"] := by
  unfold Keyed
  decide

theorem keyed_stackPosition (group : NodeData) (parent : ParentContext) :
    Keyed ("position" :: "width" :: "height" :: offsetKeys) (stackPosition group parent) := by
  unfold stackPosition
  split
  · split
    · refine Keyed.append (keyed_cons (by decide) (keyed_cons (by decide)
        (keyed_cons (by decide) keyed_nil))) ?_
      exact Keyed.mono mem_offsetKeys (by decide)
    · exact keyed_nil
  · exact keyed_nil

/-! ## what a node declares -/

/-- the properties whose values need no further thought -/
def plainKeys : List String := generalKeys ++ containerKeys ++ offsetKeys ++ sizeKeys ++ fillKeys
  ++ strokeKeys ++ effectKeys ++ typeKeys ++ shapeKeys ++ ["transform", "place-items"]

/-- what a node can declare in any context, but for its place on a stack -/
inductive Declared (n : NodeData) : Declaration → Prop
  | plain {key : String} {v : StyleValue} (h : key ∈ plainKeys) : Declared n (key, v)
  | absolute : Declared n (declare "position" "absolute")
  | relative : Declared n (declare "position" "relative")
  | layer (x : Float) : Declared n ("z-index", .num x)
  | lines {key : String} (h : key ∈ ["grid-column", "grid-row"]) (line span : Nat) :
      Declared n (declare key (toString line ++ " / span " ++ toString span))
  | family {style : TypeStyle} (h : n.typeStyle? = some style) {family : String}
      (hf : style.fontFamily = some family) : Declared n (declare "font-family" family)

theorem Keyed.declared {keys : List String} {ds : List Declaration} (h : Keyed keys ds)
    (plain : keys ⊆ plainKeys) (n : NodeData) : ∀ d ∈ ds, Declared n d :=
  fun d hd => .plain (plain (h d hd))

theorem declared_position (n : NodeData) (parent : ParentContext) :
    ∀ d ∈ position n parent, Declared n d := by
  rcases position_eq n parent with none | ⟨ds, e, keyed⟩
  · rw [none]
    exact List.forall_mem_nil _
  · rw [e]
    exact List.forall_mem_cons.mpr ⟨.absolute, keyed.declared (by decide) n⟩

theorem declared_gridSpans (n : NodeData) : ∀ d ∈ gridSpans n, Declared n d := by
  intro d hd
  obtain ⟨key, hkey, line, span, rfl⟩ := mem_gridSpans n d hd
  exact .lines hkey line span

theorem declared_typography (n : NodeData) : ∀ d ∈ typography n, Declared n d := by
  rcases typography_eq n with ⟨-, none⟩ | ⟨style, ds, found, e, keyed⟩
  · rw [none]
    exact List.forall_mem_nil _
  · rw [e]
    refine List.forall_mem_append.mpr ⟨?_, keyed.declared (by decide) n⟩
    cases named : style.fontFamily with
    | none => exact List.forall_mem_nil _
    | some family => exact List.forall_mem_singleton.mpr (.family found named)

/-- the declarations of a node in the order of the passes -/
theorem nodeStyles_eq (vs : Variables) (parent : ParentContext) (n : NodeData)
    (hasChildren : Bool) : ∃ ds, Keyed effectKeys ds ∧ nodeStyles vs parent n hasChildren = Styles.write ∅
      (general vs n ++ layout n parent hasChildren ++ fills vs n ++ strokes vs n ++ ds
        ++ (typography n ++ shape n
          ++ declareIf (n.rotationDegrees != 0.0) "transform" (rotateText n.rotationDegrees))) := by
  obtain ⟨ds, keyed, e⟩ := effects_eq n (Styles.write ∅
    (general vs n ++ layout n parent hasChildren ++ fills vs n ++ strokes vs n))
  refine ⟨ds, keyed, ?_⟩
  rw [write_append _ _ (typography n ++ _ ++ _), write_append _ _ ds, ← e]
  rfl

/-- the properties that are written once the layout of a node is known -/
def lateKeys : List String := fillKeys ++ strokeKeys ++ effectKeys ++ ("font-family" :: typeKeys)
  ++ shapeKeys ++ ["transform"]

/-- a node declares what does not depend on its surroundings first, then its layout, then the rest -/
theorem nodeStyles_split (vs : Variables) (parent : ParentContext) (n : NodeData)
    (hasChildren : Bool) : ∃ ds, Keyed lateKeys ds ∧ nodeStyles vs parent n hasChildren
      = Styles.write ∅ (general vs n ++ layout n parent hasChildren ++ ds) := by
  obtain ⟨ds, keyed, e⟩ := nodeStyles_eq vs parent n hasChildren
  refine ⟨fills vs n ++ strokes vs n ++ ds ++ typography n ++ shape n
    ++ declareIf (n.rotationDegrees != 0.0) "transform" (rotateText n.rotationDegrees), ?_, ?_⟩
  · exact (((((keyed_fills vs n).both (keyed_strokes vs n)).both keyed).both
      (keyed_typography n)).both (keyed_shape n)).both (keyed_declareIf (by decide) _)
  · rw [e]
    simp only [List.append_assoc]

theorem declared_layout (n : NodeData) (parent : ParentContext) (hasChildren : Bool) :
    ∀ d ∈ layout n parent hasChildren, Declared n d := by
  refine List.forall_mem_append.mpr ⟨List.forall_mem_append.mpr ⟨List.forall_mem_append.mpr
    ⟨(keyed_container n parent).declared (by decide) n, declared_position n parent⟩,
      declared_gridSpans n⟩, (keyed_size n parent hasChildren).declared (by decide) n⟩

theorem each_nodeStyles (vs : Variables) (parent : ParentContext) (n : NodeData)
    (hasChildren : Bool) : (nodeStyles vs parent n hasChildren).Each (Declared n) := by
  obtain ⟨ds, keyed, e⟩ := nodeStyles_eq vs parent n hasChildren
  rw [e]
  refine Styles.each_empty.write ?_
  simp only [List.forall_mem_append]
  exact ⟨⟨⟨⟨⟨(keyed_general vs n).declared (by decide) n, declared_layout n parent hasChildren⟩,
    (keyed_fills vs n).declared (by decide) n⟩, (keyed_strokes vs n).declared (by decide) n⟩,
    keyed.declared (by decide) n⟩, ⟨declared_typography n, (keyed_shape n).declared (by decide) n⟩,
    (keyed_declareIf (List.mem_singleton_self _) _).declared (by decide) n⟩

/-! ## what a child of a stack changes -/

/-- the patch that takes properties away and then makes declarations -/
def replacing (removed : List String) (ds : List Declaration) : StylePatch :=
  (StylePatch.removeAll ∅ removed).setAll ds

/-- a property that is declared anew is gone before -/
theorem get?_apply_replacing (removed : List String) (ds : List Declaration) (s : Styles)
    (key : String) : ((replacing removed ds).apply s).get? key
      = Dict.get? (((StylePatch.removeAll ∅ removed).apply s).write ds) key :=
  StylePatch.get?_apply_setAll _ ds s key

/-- a property that is not declared anew is gone if it was taken away, and stays otherwise -/
theorem Keyed.get?_apply_replacing {keys removed : List String} {ds : List Declaration}
    (h : Keyed keys ds) {key : String} (other : key ∉ keys) (s : Styles) :
    ((replacing removed ds).apply s).get? key = if key ∈ removed then none else s.get? key := by
  rw [Styling.get?_apply_replacing, h.get?_write other, StylePatch.get?_apply_removeAll]

/-- what is declared first is what counts, if nothing else is declared for the property -/
theorem Keyed.get?_apply_first {keys : List String} {ds : List Declaration} (h : Keyed keys ds)
    {key : String} (other : key ∉ keys) (removed : List String) (value : String) (s : Styles) :
    ((replacing removed (declare key value :: ds)).apply s).get? key = some (.text value) := by
  rw [Styling.get?_apply_replacing]
  show Dict.get? ((Styles.put _ key value).write ds) key = _
  rw [h.get?_write other, Styles.put, Dict.get?_set, if_pos rfl]

/-- a child of a stack that is pinned gets new offsets from its sides, any other one is put on the
cell of the stack, without any offsets -/
theorem cellPatch_cases (child : NodeData) (group : Option Rect) :
    (isPinned child && child.bounds.isSome && group.isSome) = true ∧ (∃ ds, Keyed offsetKeys ds ∧
        cellPatch child group = replacing ["left", "top", "right", "bottom"]
          (declare "position" "absolute" :: ds)) ∨
      (isPinned child && child.bounds.isSome && group.isSome) = false ∧
        ∃ ds, Keyed ["margin-left", "margin-top"] ds ∧ cellPatch child group
          = replacing ["position", "top", "left", "right", "bottom", "translate"]
            (declare "grid-area" "1 / 1" :: ds) := by
  have margins (bounds group : Rect) :
      Keyed ["margin-left", "margin-top"] (cellMargins bounds group) :=
    (keyed_declareIf (by decide) _).append (keyed_declareIf (by decide) _)
  unfold cellPatch
  cases child.bounds with
  | none => exact .inr ⟨by rw [Option.isSome_none, Bool.and_false]; rfl, [], keyed_nil, rfl⟩
  | some bounds =>
    cases group with
    | none => exact .inr ⟨by rw [Option.isSome_none, Bool.and_false], [], keyed_nil, rfl⟩
    | some group =>
      simp only [Option.isSome_some, Bool.and_true]
      cases isPinned child with
      | true => exact .inl ⟨rfl, _, mem_offsetKeys, rfl⟩
      | false => exact .inr ⟨rfl, _, margins bounds group, rfl⟩

/-- the properties by which parents place their children -/
def placeKeys : List String :=
  ["position", "z-index", "grid-area", "margin-left", "margin-top"] ++ offsetKeys

/-- a stack leaves all other properties of its children as they are -/
theorem get?_cellPatch (child : NodeData) (group : Option Rect) {key : String}
    (other : key ∉ placeKeys) (s : Styles) :
    ((cellPatch child group).apply s).get? key = s.get? key := by
  have outside {keys : List String} (sub : keys ⊆ placeKeys) : key ∉ keys := fun h => other (sub h)
  rcases cellPatch_cases child group with ⟨-, ds, keyed, e⟩ | ⟨-, ds, keyed, e⟩
  · rw [e, Keyed.get?_apply_replacing keyed.first (outside (by decide)),
      if_neg (outside (by decide))]
  · rw [e, Keyed.get?_apply_replacing keyed.first (outside (by decide)),
      if_neg (outside (by decide))]

end Styling
end Handoff
