import Handoff.Proofs.React.References
import Handoff.Proofs.Text.Decoded

/-!
# What is shown of a component

Who looks at a component sees texts and images.  A name in braces stands for the default of a prop,
or for a file.  With props the same is shown as without them, but for the line ends of texts, which a
browser does not show in a string, for unusual line ends in addresses, and for drawings whose import
is hidden by a prop.

* `Renderer.sight`     what is shown of an element: a text with its breaks, or an image;
* `Renderer.seen`      what is shown of a component;
* `gather_sight_congr`   elements without names are shown alike by all components;
* `Alters`             how props change what is shown of a node;
* `shown_alike`        what is shown of a node is the same with props just if they do not;
* `seen_with_props`    and so is what is shown of the whole component.
-/

namespace Handoff

/-- the same request, with props or without -/
def Request.withProps (r : Request) (props : Bool) : Request :=
  { r with options := { r.options with withProps := props } }

namespace React
open StyledNode Escape

/-- what is shown of an element -/
inductive Sight where
  | text (marks : List Mark)
  | image (address : List Mark)
deriving DecidableEq, Repr

/-- the characters that a name stands for: the default of a prop, or the path of a file -/
def Meaning.value : Meaning → List Char
  | .prop b => readScript (Escape.script b.default).toList
  | .file f => f.path.toList

namespace Renderer
variable (c : Renderer)

/-- what a name stands for, as it is shown -/
def nameMarks (x : String) : List Mark := ((c.meaning? x).map Meaning.value).getD [] |>.map .char

/-- what is shown of a content -/
def contentMarks : Content → List Mark
  | .empty => []
  | .text s => Reference.read Reference.ofContent (Escape.content s).toList
  | .expression x => c.nameMarks x

/-- the address that an attribute gives -/
def addressMarks : AttributeValue → List Mark
  | .text s => Reference.read Reference.ofAttribute (Escape.attributeValue s).toList
  | .verbatim s => Reference.read Reference.ofAttribute s.toList
  | .expression x => c.nameMarks x
  | .styles _ => []

/-- what is shown of an element itself: a text, or the image of its source -/
def sight : Element → List Sight
  | .leaf _ _ content => [.text (c.contentMarks content)]
  | .closed _ as => (as.filter fun a => a.name = "src").map fun a => .image (c.addressMarks a.value)
  | .block .. => []

/-- what is shown of a component, in the order of its elements -/
def seen : List Sight := Element.gather c.sight c.root?.toList

/-- what is shown of a node, with the layers of its fills -/
def sightsOf (entry : Option Overlap × StyledNode) : List Sight :=
  Element.gather c.sight [c.ownElement entry]

theorem seen_eq : c.seen = (c.request.root.overlapped none).flatMap c.sightsOf :=
  c.gather_element? (fun _ _ _ _ => rfl) c.request.root none

theorem addressMarks_congr (c c' : Renderer) {v : AttributeValue} (h : v.code? = none) :
    c.addressMarks v = c'.addressMarks v := by
  cases v with
  | expression x => cases h
  | text | verbatim | styles => rfl

/-- elements without names are shown alike by all components -/
theorem gather_sight_congr (c c' : Renderer) {es : List Element} (h : codesIn es = []) :
    Element.gather c.sight es = Element.gather c'.sight es := by
  refine List.flatMap_congr fun e he => ?_
  have plain : e.codes = [] := List.flatMap_eq_nil_iff.mp h e he
  cases e with
  | block => rfl
  | leaf tag as content =>
    cases content with
    | expression x => exact absurd (List.append_eq_nil_iff.mp plain).2 (List.cons_ne_nil _ _)
    | empty | text => rfl
  | closed tag as =>
    refine List.map_congr_left fun a ha => congrArg Sight.image (addressMarks_congr c c' ?_)
    have own := List.filterMap_eq_nil_iff.mp plain a (List.mem_filter.mp ha).1
    cases value : a.value with
    | expression x => rw [Attribute.code?, value] at own; cases own
    | text | verbatim | styles => rfl

theorem not_source_of_mem_dataMarkup {n : StyledData} {a : Attribute} (h : a ∈ dataMarkup n) :
    a.name ≠ "src" := by
  intro same
  have data : Text.startsWith "data-" a.name = true :=
    List.filter_eq_self.mp (dataOf_dataMarkup n) a h
  rw [same] at data
  exact absurd data (by decide)

/-- an image is shown by its source -/
theorem sight_picture (n : StyledData) (classes : List String) (unnamed : String)
    (source : AttributeValue) :
    Element.gather c.sight [.closed "img" (dataMarkup n ++ c.classMarkup classes
      ++ [altMarkup n unnamed, ⟨"src", source⟩])] = [.image (c.addressMarks source)] := by
  have data : (dataMarkup n).filter (fun a => a.name = "src") = [] :=
    List.filter_eq_nil_iff.mpr fun a ha => by simpa using not_source_of_mem_dataMarkup ha
  have classes : (c.classMarkup classes).filter (fun a => a.name = "src") = [] := by
    unfold classMarkup
    dsimp only
    split <;> rfl
  rw [Element.gather_closed, sight, List.filter_append, List.filter_append, data, classes]
  rfl

section
variable {entry : Option Overlap × StyledNode}

theorem sight_drawing (drawn : entry.2.isDrawn = true) :
    c.sightsOf entry = [.image (c.addressMarks (c.drawingSource entry.2.toStyledData))] := by
  rw [sightsOf, ownElement, if_pos drawn]
  exact c.sight_picture ..

variable (plain : entry.2.isDrawn = false)
include plain

theorem sight_text (text : entry.2.isText = true) :
    c.sightsOf entry = [.text (c.contentMarks (c.textContent entry.2.toStyledData))] := by
  rw [sightsOf, ownElement, plain, if_neg Bool.false_ne_true, nodeElement, if_pos text]
  exact Element.gather_leaf ..

theorem sight_image (text : entry.2.isText = false) {opacity : Float} {ref : String}
    {mode : ScaleMode} (form : fillForm entry.2 = .image ⟨opacity, .image ref mode⟩) :
    c.sightsOf entry = [.image (c.addressMarks (c.imageSource entry.2.toStyledData ref))] := by
  rw [sightsOf, ownElement, plain, if_neg Bool.false_ne_true, nodeElement, text, form]
  exact c.sight_picture ..

end

/-- without props a name that is imported stands for a file -/
theorem exists_file_of_imported {c : Renderer} {x : String} (h : x ∈ c.importNames)
    (none : c.props.bindings.values = []) : ∃ f, c.meaning? x = some (.file f) := by
  obtain ⟨f, hf, rfl⟩ := List.mem_map.mp h
  cases found : c.drawings.files.find? fun g => g.importName == f.importName with
  | none => exact absurd (List.find?_eq_none.mp found f hf) (by simp)
  | some g => exact ⟨g, by rw [meaning?, none, found]; rfl⟩

end Renderer

/-! ## with props and without -/

variable (r : Request) (assets : Assets)

/-- how props change what is shown of a node -/
inductive Alters (n : StyledNode) : Prop
  /-- a text with a prop has a line end -/
  | text {t : String} (plain : n.isDrawn = false) (text : n.isText = true)
      (prop : ((Props.of assets r.root).name? n.id .text).isSome = true)
      (characters : n.characters? = some t)
      (lineEnd : ∃ ch ∈ t.toList, ch = '\n' ∨ isOddLineEnd ch = true) : Alters n
  /-- the address of an image with a prop has an unusual one -/
  | image {opacity : Float} {ref url : String} {mode : ScaleMode} (plain : n.isDrawn = false)
      (text : n.isText = false) (form : fillForm n = .image ⟨opacity, .image ref mode⟩)
      (prop : ((Props.of assets r.root).name? n.id .image).isSome = true)
      (known : assets.image? ref = some url)
      (lineEnd : ∃ ch ∈ url.toList, isOddLineEnd ch = true) : Alters n
  /-- the name that a drawing is imported by is that of a prop with another default -/
  | drawing {x : String} {b : Binding} {f : ExportedFile} (drawn : n.isDrawn = true)
      (source : (renderer (r.withProps true) assets).drawingSource n.toStyledData = .expression x)
      (hidden : (renderer (r.withProps true) assets).meaning? x = some (.prop b))
      (file : (renderer (r.withProps false) assets).meaning? x = some (.file f))
      (other : Meaning.value (.prop b) ≠ Meaning.value (.file f)) : Alters n

section
variable {r assets} {n : StyledNode}

theorem alters_text_iff (plain : n.isDrawn = false) (text : n.isText = true) :
    Alters r assets n ↔ ((Props.of assets r.root).name? n.id .text).isSome = true ∧
      ∃ t, n.characters? = some t ∧ ∃ ch ∈ t.toList, ch = '\n' ∨ isOddLineEnd ch = true := by
  constructor
  · intro altered
    cases altered with
    | text _ _ prop characters lineEnd => exact ⟨prop, _, characters, lineEnd⟩
    | image _ other _ _ _ _ => rw [text] at other; cases other
    | drawing drawn _ _ _ _ => rw [plain] at drawn; cases drawn
  · rintro ⟨prop, t, characters, lineEnd⟩
    exact .text plain text prop characters lineEnd

theorem alters_image_iff (plain : n.isDrawn = false) (text : n.isText = false) {opacity : Float}
    {ref : String} {mode : ScaleMode} (form : fillForm n = .image ⟨opacity, .image ref mode⟩) :
    Alters r assets n ↔ ((Props.of assets r.root).name? n.id .image).isSome = true ∧
      ∃ url, assets.image? ref = some url ∧ ∃ ch ∈ url.toList, isOddLineEnd ch = true := by
  constructor
  · intro altered
    cases altered with
    | text _ other _ _ _ => rw [text] at other; cases other
    | image _ _ same prop known lineEnd =>
      obtain ⟨-, same⟩ := FillLayer.mk.inj (FillForm.image.inj (form.symm.trans same))
      obtain ⟨rfl, -⟩ := FillKind.image.inj same
      exact ⟨prop, _, known, lineEnd⟩
    | drawing drawn _ _ _ _ => rw [plain] at drawn; cases drawn
  · rintro ⟨prop, url, known, lineEnd⟩
    exact .image plain text form prop known lineEnd

theorem alters_drawing_iff (drawn : n.isDrawn = true) : Alters r assets n ↔
    ∃ x, (renderer (r.withProps true) assets).drawingSource n.toStyledData = .expression x ∧
      ∃ b f, (renderer (r.withProps true) assets).meaning? x = some (.prop b) ∧
        (renderer (r.withProps false) assets).meaning? x = some (.file f) ∧
        Meaning.value (.prop b) ≠ Meaning.value (.file f) := by
  constructor
  · intro altered
    cases altered with
    | text plain _ _ _ _ => rw [drawn] at plain; cases plain
    | image plain _ _ _ _ _ => rw [drawn] at plain; cases plain
    | drawing _ source hidden file other => exact ⟨_, source, _, _, hidden, file, other⟩
  · rintro ⟨x, source, b, f, hidden, file, other⟩
    exact .drawing drawn source hidden file other

/-- nothing is altered of a node that is no drawing, no text and no image -/
theorem not_alters_box (plain : n.isDrawn = false) (text : n.isText = false)
    (box : ∀ o ref mode, fillForm n ≠ .image ⟨o, .image ref mode⟩) : ¬ Alters r assets n := by
  intro altered
  cases altered with
  | text _ other _ _ _ => rw [text] at other; cases other
  | image _ _ form _ _ _ => exact box _ _ _ form
  | drawing drawn _ _ _ _ => rw [plain] at drawn; cases drawn

end

theorem value_prop (b : Binding) : Meaning.value (.prop b) = unified b.default.toList := by
  rw [Meaning.value, Escape.script, Text.toList_onChars, readScript_scriptChars]

theorem nameMarks_of_meaning? {c : Renderer} {x : String} {m : Meaning}
    (h : c.meaning? x = some m) : c.nameMarks x = m.value.map .char := by
  rw [Renderer.nameMarks, h]
  rfl

/-- without props a text is shown as it is, with its breaks -/
theorem marks_without_props (r : Request) (assets : Assets) (n : StyledData) :
    let c := renderer (r.withProps false) assets
    c.contentMarks (c.textContent n) = (n.characters?.getD "").toList.map contentMark := by
  show Reference.read Reference.ofContent (Escape.content (n.characters?.getD "")).toList = _
  rw [Escape.content, Text.toList_onChars, read_content]

theorem flatMap_eq_iff {α β : Type} {f g : α → List β} {l : List α}
    (h : ∀ a ∈ l, (f a).length = (g a).length) :
    l.flatMap f = l.flatMap g ↔ ∀ a ∈ l, f a = g a := by
  induction l with
  | nil => exact iff_of_true rfl (List.forall_mem_nil _)
  | cons a l ih =>
    obtain ⟨first, others⟩ := List.forall_mem_cons.mp h
    rw [List.flatMap_cons, List.flatMap_cons, List.forall_mem_cons, ← ih others]
    exact ⟨fun same => List.append_inj same first, fun ⟨same, rest⟩ => by rw [same, rest]⟩

section
variable {r assets} (ids : (r.root.preOrder.map fun n => n.id).Nodup)
include ids

/-- a prop of a node stands for its default, which is that of the node -/
theorem nameMarks_of_prop {n : StyledNode} (hn : n ∈ r.root.preOrder) {kind : PropKind} {x : String}
    (named : (Props.of assets r.root).name? n.id kind = some x) :
    ∃ b, b.kind = kind ∧ Shows assets n b ∧
      (renderer (r.withProps true) assets).nameMarks x = (unified b.default.toList).map .char := by
  have bound := Bound.of assets r.root
  obtain ⟨b, hb, rfl, kind⟩ := Props.get?_of_name? named
  obtain ⟨m, hm, same, shows⟩ := bound.own _ b hb
  obtain rfl : m = n := List.inj_on_of_nodup_map ids hm hn same
  have distinct : (renderer (r.withProps true) assets).propNames.Nodup := bound.nodup_values
  have known := Renderer.meaning?_of_prop distinct (Bound.mem_values.mpr ⟨_, hb⟩)
  exact ⟨b, kind, shows, by rw [nameMarks_of_meaning? known, value_prop]⟩

theorem text_alike_iff {n : StyledNode} (hn : n ∈ r.root.preOrder) (plain : n.isDrawn = false)
    (text : n.isText = true) :
    let c := renderer (r.withProps true) assets
    let c' := renderer (r.withProps false) assets
    c.contentMarks (c.textContent n.toStyledData) = c'.contentMarks (c'.textContent n.toStyledData)
      ↔ ¬ Alters r assets n := by
  intro c c'
  have without := marks_without_props r assets n.toStyledData
  rw [without, alters_text_iff plain text]
  cases named : (Props.of assets r.root).name? n.id .text with
  | none =>
    have same : c.textContent n.toStyledData = c'.textContent n.toStyledData := by
      unfold Renderer.textContent
      rw [show c.props.name? n.id .text = none from named]
      rfl
    rw [same]
    exact iff_of_true without fun altered => absurd altered.1 Bool.false_ne_true
  | some x =>
    have content : c.textContent n.toStyledData = .expression x := by
      unfold Renderer.textContent
      rw [show c.props.name? n.id .text = some x from named]
    obtain ⟨b, kind, shows, marks⟩ := nameMarks_of_prop ids hn named
    have characters : n.characters? = some b.default := by
      rcases shows with ⟨-, characters⟩ | ⟨image, -⟩
      · exact characters
      · rw [kind] at image; cases image
    rw [content, characters, Option.getD_some]
    show c.nameMarks x = _ ↔ _
    rw [marks, map_char_unified_iff]
    constructor
    · rintro unbroken ⟨-, t, own, ch, hch, broken⟩
      obtain rfl := Option.some.inj own
      obtain ⟨line, odd⟩ := unbroken ch hch
      rcases broken with e | e
      · exact line e
      · rw [odd] at e; cases e
    · intro unaltered ch hch
      by_contra broken
      refine unaltered ⟨rfl, _, rfl, ch, hch, ?_⟩
      by_cases line : ch = '\n'
      · exact .inl line
      · exact .inr (by simpa [line] using broken)

theorem image_alike_iff {n : StyledNode} (hn : n ∈ r.root.preOrder) (plain : n.isDrawn = false)
    (text : n.isText = false) {opacity : Float} {ref : String} {mode : ScaleMode}
    (form : fillForm n = .image ⟨opacity, .image ref mode⟩) :
    let c := renderer (r.withProps true) assets
    let c' := renderer (r.withProps false) assets
    c.addressMarks (c.imageSource n.toStyledData ref)
        = c'.addressMarks (c'.imageSource n.toStyledData ref) ↔ ¬ Alters r assets n := by
  intro c c'
  have without : c'.addressMarks (c'.imageSource n.toStyledData ref)
      = (imageUrl assets n.toStyledData ref).toList.map .char := by
    show Reference.read Reference.ofAttribute
      (Escape.attributeValue (imageUrl assets n.toStyledData ref)).toList = _
    rw [Escape.attributeValue, Text.toList_onChars, read_attribute]
  rw [without, alters_image_iff plain text form]
  cases named : (Props.of assets r.root).name? n.id .image with
  | none =>
    have same : c.imageSource n.toStyledData ref = c'.imageSource n.toStyledData ref := by
      unfold Renderer.imageSource
      rw [show c.props.name? n.id .image = none from named]
      rfl
    rw [same]
    exact iff_of_true without fun altered => absurd altered.1 Bool.false_ne_true
  | some x =>
    have source : c.imageSource n.toStyledData ref = .expression x := by
      unfold Renderer.imageSource
      rw [show c.props.name? n.id .image = some x from named]
    obtain ⟨b, kind, shows, marks⟩ := nameMarks_of_prop ids hn named
    have known : assets.image? ref = some b.default := by
      rcases shows with ⟨other, -⟩ | ⟨-, layer, same, known⟩
      · rw [kind] at other; cases other
      · obtain rfl := FillForm.image.inj (form.symm.trans same)
        exact known
    have url : imageUrl assets n.toStyledData ref = b.default := by
      rw [imageUrl, Assets.imageOr, known]
      rfl
    rw [source, url]
    show c.nameMarks x = _ ↔ _
    rw [marks, List.map_inj_right fun _ _ => Mark.char.inj, unified_eq_self_iff]
    constructor
    · rintro unbroken ⟨-, _, own, ch, hch, broken⟩
      obtain rfl := Option.some.inj (own.symm.trans known)
      rw [unbroken ch hch] at broken
      cases broken
    · intro unaltered ch hch
      by_contra broken
      exact unaltered ⟨rfl, _, known, ch, hch, by simpa using broken⟩

theorem drawing_alike_iff {n : StyledNode} (hn : n ∈ r.root.written) (drawn : n.isDrawn = true) :
    let c := renderer (r.withProps true) assets
    let c' := renderer (r.withProps false) assets
    c.addressMarks (c.drawingSource n.toStyledData)
        = c'.addressMarks (c'.drawingSource n.toStyledData) ↔ ¬ Alters r assets n := by
  intro c c'
  have same : c'.drawingSource n.toStyledData = c.drawingSource n.toStyledData := rfl
  rw [same, alters_drawing_iff drawn]
  cases source : c.drawingSource n.toStyledData with
  | text | verbatim | styles =>
    refine iff_of_true rfl ?_
    rintro ⟨_, expression, -⟩
    cases expression
  | expression x =>
    -- the name is that of an import, so without props it stands for a file
    have imported : x ∈ c'.importNames := by
      rw [importNames_eq (r.withProps false) assets ids]
      refine List.mem_filterMap.mpr ⟨_, mem_drawnNodes hn drawn, ?_⟩
      rw [show (renderer (r.withProps false) assets).drawingSource n.toStyledData = _ from source]
      rfl
    obtain ⟨f, file⟩ := Renderer.exists_file_of_imported imported rfl
    show c.nameMarks x = c'.nameMarks x ↔ _
    rw [nameMarks_of_meaning? file]
    cases hidden : c.props.bindings.values.find? fun b => b.name == x with
    | none =>
      have shown : c.meaning? x = some (.file f) := by
        rw [Renderer.meaning?, hidden]
        exact file
      refine iff_of_true (nameMarks_of_meaning? shown) ?_
      rintro ⟨_, expression, b, _, meaning, -, -⟩
      obtain rfl := AttributeValue.expression.inj expression
      cases shown.symm.trans meaning
    | some b =>
      have meaning : c.meaning? x = some (.prop b) := by
        rw [Renderer.meaning?, hidden]
        rfl
      rw [nameMarks_of_meaning? meaning, List.map_inj_right fun _ _ => Mark.char.inj]
      constructor
      · rintro same ⟨_, expression, _, _, meaning', file', other⟩
        obtain rfl := AttributeValue.expression.inj expression
        obtain rfl := Meaning.prop.inj (Option.some.inj (meaning.symm.trans meaning'))
        obtain rfl := Meaning.file.inj (Option.some.inj (file.symm.trans file'))
        exact other same
      · intro unaltered
        by_contra other
        exact unaltered ⟨x, rfl, b, f, meaning, file, other⟩

/-- as much is shown of a node with props, and the same just if they do not alter it -/
theorem shown_alike {entry : Option Overlap × StyledNode} (hn : entry.2 ∈ r.root.written) :
    let c := renderer (r.withProps true) assets
    let c' := renderer (r.withProps false) assets
    (c.sightsOf entry).length = (c'.sightsOf entry).length ∧
      (c.sightsOf entry = c'.sightsOf entry ↔ ¬ Alters r assets entry.2) := by
  intro c c'
  have part : entry.2 ∈ r.root.preOrder := (written_sublist r.root).subset hn
  cases drawn : entry.2.isDrawn with
  | true =>
    rw [c.sight_drawing drawn, c'.sight_drawing drawn, List.length_singleton, List.length_singleton,
      List.singleton_inj, Sight.image.injEq]
    exact ⟨rfl, drawing_alike_iff ids hn drawn⟩
  | false =>
    cases text : entry.2.isText with
    | true =>
      rw [c.sight_text drawn text, c'.sight_text drawn text, List.length_singleton,
        List.length_singleton, List.singleton_inj, Sight.text.injEq]
      exact ⟨rfl, text_alike_iff ids part drawn text⟩
    | false =>
      -- a box has no name in it, so it is shown alike
      have box (own : c.ownElement entry = c'.ownElement entry) (plain : c.references entry.2 = [])
          (other : ∀ o ref mode, fillForm entry.2 ≠ .image ⟨o, .image ref mode⟩) :
          (c.sightsOf entry).length = (c'.sightsOf entry).length ∧
            (c.sightsOf entry = c'.sightsOf entry ↔ ¬ Alters r assets entry.2) := by
        have alike : c.sightsOf entry = c'.sightsOf entry := by
          rw [Renderer.sightsOf, Renderer.sightsOf, ← own]
          exact Renderer.gather_sight_congr c c' ((c.codesIn_ownElement entry).trans plain)
        exact ⟨congrArg List.length alike, iff_of_true alike (not_alters_box drawn text other)⟩
      cases form : fillForm entry.2 with
      | image layer =>
        obtain ⟨opacity, kind⟩ := layer
        cases kind with
        | image ref mode =>
          rw [c.sight_image drawn text form, c'.sight_image drawn text form, List.length_singleton,
            List.length_singleton, List.singleton_inj, Sight.image.injEq]
          exact ⟨rfl, image_alike_iff ids part drawn text form⟩
        | solid | gradient =>
          refine box ?_ ?_ (by simp [form])
          · simp only [Renderer.ownElement, Renderer.nodeElement, drawn, text, form]
            rfl
          · simp only [Renderer.references, drawn, text, form]
            rfl
      | styled | layered =>
        refine box ?_ ?_ (by simp [form])
        · simp only [Renderer.ownElement, Renderer.nodeElement, drawn, text, form]
          rfl
        · simp only [Renderer.references, drawn, text, form]
          rfl

end

/-- **Props change what is shown of texts with line ends, and of hardly anything else.**  For every
tree whose nodes have distinct ids, all rules, options and assets, a component with props at their
defaults is compared with the one without:

* what is shown of either is what is shown of the nodes that are written, one after the other;
* of a node the same is shown just if it is not altered: no text with a prop has a line end, no image
  with a prop has an unusual line end in its address, and the import of no drawing is hidden by a prop
  that stands for something else;
* so the same is shown of both if no node that is written is altered, and only then;
* without props a text is shown with its characters, and a break for each line end. -/
theorem seen_with_props (r : Request) (assets : Assets)
    (ids : (r.root.preOrder.map fun n => n.id).Nodup) :
    let c (props : Bool) := renderer (r.withProps props) assets
    (∀ props, (c props).seen = (r.root.overlapped none).flatMap (c props).sightsOf) ∧
      (∀ entry ∈ r.root.overlapped none,
        (c true).sightsOf entry = (c false).sightsOf entry ↔ ¬ Alters r assets entry.2) ∧
      ((c true).seen = (c false).seen ↔ ∀ n ∈ r.root.written, ¬ Alters r assets n) ∧
      ∀ entry ∈ r.root.overlapped none, entry.2.isDrawn = false → entry.2.isText = true →
        (c false).sightsOf entry
          = [.text ((entry.2.characters?.getD "").toList.map contentMark)] := by
  intro c
  have written : ∀ entry ∈ r.root.overlapped none, entry.2 ∈ r.root.written := fun entry h =>
    map_snd_overlapped r.root none ▸ List.mem_map_of_mem h
  have whole (props : Bool) :
      (c props).seen = (r.root.overlapped none).flatMap (c props).sightsOf := (c props).seen_eq
  have alike (entry) (h : entry ∈ r.root.overlapped none) :=
    @shown_alike r assets ids entry (written entry h)
  refine ⟨whole, fun entry h => (alike entry h).2, ?_, fun entry _ plain text => ?_⟩
  · rw [whole, whole, flatMap_eq_iff fun entry h => (alike entry h).1,
      ← map_snd_overlapped r.root none, List.forall_mem_map]
    exact forall₂_congr fun entry h => (alike entry h).2
  · rw [(c false).sight_text plain text]
    exact congrArg (fun marks => [Sight.text marks]) (marks_without_props r assets _)

/-- a card with a title of one line is shown alike, so props alter none of its nodes -/
theorem seen_with_props_card :
    let title : DesignNode := ⟨{
      id := "2", name := "Title", kind := .text, payload := .text "\"Hi\" & <bye>" {} {} }, []⟩
    let card : DesignNode := ⟨{
      id := "1", name := "Card", kind := .frame, payload := .container {} }, [title]⟩
    ∃ tree, ({} : Session).Yields card tree ∧ (tree.preOrder.map fun n => n.id) = ["1", "2"] ∧
      let r : Request := { root := tree, framework := .reactTailwind }
      (∃ marks, (renderer (r.withProps true) {}).seen = [.text marks]) ∧
        ∀ n ∈ tree.written, ¬ Alters r {} n := by
  intro title card
  have styled : (({} : Session).style card).1.map (fun t =>
      let seen (props : Bool) := (renderer
        (({ root := t, framework := .reactTailwind } : Request).withProps props) {}).seen
      (t.preOrder.map (fun n => n.id), seen true, seen false))
        = some (["1", "2"], [.text ("\"Hi\" & <bye>".toList.map .char)],
          [.text ("\"Hi\" & <bye>".toList.map .char)]) := by decide
  obtain ⟨tree, h, facts⟩ := Option.map_eq_some_iff.mp styled
  simp only [Prod.mk.injEq] at facts
  obtain ⟨ids, with_, without⟩ := facts
  obtain ⟨-, -, alike, -⟩ := seen_with_props { root := tree, framework := .reactTailwind } {}
    (by rw [ids]; decide)
  exact ⟨tree, .styled h, ids, ⟨_, with_⟩, alike.mp (with_.trans without.symm)⟩

/-- a title of two lines has a break without props, and none with them -/
theorem seen_of_two_lines :
    let title : DesignNode := ⟨{
      id := "2", name := "Title", kind := .text, payload := .text "One\nTwo" {} {} }, []⟩
    let card : DesignNode := ⟨{
      id := "1", name := "Card", kind := .frame, payload := .container {} }, [title]⟩
    card.WellFormed ∧ ∃ tree, ({} : Session).Yields card tree ∧
      (tree.preOrder.map fun n => n.id) = ["1", "2"] ∧
      let seen (props : Bool) := (renderer
        (({ root := tree, framework := .reactTailwind } : Request).withProps props) {}).seen
      seen false = [.text ("One".toList.map .char ++ .lineBreak :: "Two".toList.map .char)] ∧
        seen true = [.text ("One\nTwo".toList.map .char)] := by
  intro title card
  have styled : (({} : Session).style card).1.map (fun t =>
      let seen (props : Bool) := (renderer
        (({ root := t, framework := .reactTailwind } : Request).withProps props) {}).seen
      (t.preOrder.map (fun n => n.id), seen false, seen true))
        = some (["1", "2"],
          [.text ("One".toList.map .char ++ .lineBreak :: "Two".toList.map .char)],
          [.text ("One\nTwo".toList.map .char)]) := by decide
  obtain ⟨tree, h, facts⟩ := Option.map_eq_some_iff.mp styled
  simp only [Prod.mk.injEq] at facts
  exact ⟨by decide, tree, .styled h, facts⟩

end React
end Handoff
