import Handoff.Proofs.React.Bindings
import Handoff.Proofs.React.Delimited
import Handoff.Proofs.React.Drawings
import Handoff.Proofs.React.Elements
import Handoff.Proofs.React.Scope
import Handoff.Proofs.Styling.Texts

/-!
# Props and where they are used

A prop is declared in the interface and among the parameters, and it is used where the element of
its node says its name.  The names in the markup are those of the imports and of the props, each
once, but for the props of images that are texts: a text is shown by its characters, even if its
prop is that of its image.

* `Renderer.references`        the names in the element of a node, and `codesIn_element?`, that these
                               are the names in the markup;
* `importNames_eq`             the imports are the names that drawings are shown by;
* `references_plain`           any other node is shown by its prop, with one exception;
* `Props.declared`, `filter_propLines`   the props that are declared;
* `Renderer.unreferenced?`     the props that are never used;
* `prop_references`            which props are declared and used, and which texts have one.
-/

namespace Handoff

def AttributeValue.code? : AttributeValue → Option String
  | .expression code => some code
  | .text _ | .verbatim _ | .styles _ => none

def Content.code? : Content → Option String
  | .expression code => some code
  | .empty | .text _ => none

namespace React
open StyledNode

/-! ## the names in the markup -/

namespace Renderer
variable (c : Renderer)

/-- the names in the element of a node, without what is inside of it -/
def references (n : StyledNode) : List String :=
  if n.isDrawn then (c.drawingSource n.toStyledData).code?.toList
  else if n.isText then (c.textContent n.toStyledData).code?.toList
  else match fillForm n with
    | .image ⟨_, .image ref _⟩ => (c.imageSource n.toStyledData ref).code?.toList
    | _ => []

theorem shallow_codes : Shallow Element.codes := fun _ _ _ _ => rfl

/-- the only name in an image is its source -/
theorem codesIn_picture (n : StyledData) (classes : List String) (unnamed : String)
    (source : AttributeValue) :
    codesIn [.closed "img" (dataMarkup n ++ c.classMarkup classes
      ++ [altMarkup n unnamed, ⟨"src", source⟩])] = source.code?.toList := by
  rw [codesIn_closed, List.filterMap_append, List.filterMap_append, codes_dataMarkup,
    codes_classMarkup]
  cases source <;> rfl

theorem codesIn_boxElement (n : StyledNode) (classes : List String) :
    codesIn [c.boxElement n classes []] = [] := by
  refine List.eq_nil_iff_forall_not_mem.mpr fun x hx => ?_
  exact absurd (c.mem_codes_boxElement hx) List.not_mem_nil

theorem codesIn_ownElement (entry : Option Overlap × StyledNode) :
    codesIn [c.ownElement entry] = c.references entry.2 := by
  unfold ownElement references
  cases entry.2.isDrawn with
  | true => exact c.codesIn_picture ..
  | false =>
    simp only [Bool.false_eq_true, if_false, nodeElement]
    cases entry.2.isText with
    | true =>
      have markup (classes : List String) : (dataMarkup entry.2.toStyledData
          ++ c.classMarkup classes).filterMap Attribute.code? = [] := by
        rw [List.filterMap_append, codes_dataMarkup, codes_classMarkup]
        rfl
      simp only [if_true, codesIn_leaf]
      cases c.textContent entry.2.toStyledData <;> simp only [Element.codes, markup] <;> rfl
    | false =>
      simp only [Bool.false_eq_true, if_false]
      cases fillForm entry.2 with
      | image layer =>
        obtain ⟨opacity, kind⟩ := layer
        cases kind with
        | image ref mode => exact c.codesIn_picture ..
        | solid | gradient => exact c.codesIn_boxElement ..
      | styled | layered => exact c.codesIn_boxElement ..

/-- the names in the markup, one node after the other -/
theorem codesIn_element? (n : StyledNode) (overlap : Option Overlap) :
    codesIn (c.element? overlap n).toList = n.written.flatMap c.references := by
  refine (c.gather_element? shallow_codes n overlap).trans ?_
  rw [← map_snd_overlapped n overlap, List.flatMap_map]
  exact List.flatMap_congr fun entry _ => c.codesIn_ownElement entry

end Renderer

/-! ## imports -/

/-- the name of a file that is imported -/
def DrawingSource.name? : DrawingSource → Option String
  | .imported name => some name
  | .address _ => none

namespace Drawings
variable (mode : SvgMode) (assets : Assets)

theorem keys_add {ds : Drawings} {n : StyledData} (new : n.id ∉ ds.sources.keys) :
    (ds.add mode assets n).sources.keys = ds.sources.keys ++ [n.id] := by
  cases mode <;> exact (Dict.keys_set ..).trans (if_neg new)

/-- the sources that are imported are those of the files -/
theorem names_add {ds : Drawings} {n : StyledData} (new : n.id ∉ ds.sources.keys)
    (h : ds.sources.values.filterMap DrawingSource.name? = ds.files.map ExportedFile.importName) :
    (ds.add mode assets n).sources.values.filterMap DrawingSource.name?
      = (ds.add mode assets n).files.map ExportedFile.importName := by
  have values (source : DrawingSource) : (ds.sources.set n.id source).values
      = ds.sources.values ++ [source] := by
    rw [Dict.values, Dict.entries_set_of_not_mem new, List.map_append]
    rfl
  cases mode with
  | inlined =>
    refine Eq.trans ?_ h
    show (ds.sources.set n.id _).values.filterMap _ = _
    rw [values, List.filterMap_append]
    exact List.append_nil _
  | exported =>
    show (ds.sources.set n.id _).values.filterMap _ = (ds.files ++ [_]).map _
    rw [values, List.filterMap_append, h, List.map_append]
    rfl

theorem names_foldl (nodes : List StyledData) : ∀ ds : Drawings,
    (∀ n ∈ nodes, n.id ∉ ds.sources.keys) → (nodes.map StyledData.id).Nodup →
    ds.sources.values.filterMap DrawingSource.name? = ds.files.map ExportedFile.importName →
    (nodes.foldl (add mode assets) ds).sources.keys = ds.sources.keys ++ nodes.map StyledData.id ∧
      (nodes.foldl (add mode assets) ds).sources.values.filterMap DrawingSource.name?
        = (nodes.foldl (add mode assets) ds).files.map ExportedFile.importName := by
  induction nodes with
  | nil => exact fun ds _ _ h => ⟨(List.append_nil _).symm, h⟩
  | cons n nodes ih =>
    intro ds new ids h
    obtain ⟨apart, ids⟩ := List.nodup_cons.mp ids
    have own := new n List.mem_cons_self
    have keys := keys_add mode assets own
    have later : ∀ m ∈ nodes, m.id ∉ (ds.add mode assets n).sources.keys := by
      intro m hm key
      rw [keys] at key
      rcases List.mem_append.mp key with key | key
      · exact new m (List.mem_cons_of_mem _ hm) key
      · exact apart (List.mem_singleton.mp key ▸ List.mem_map_of_mem hm)
    obtain ⟨all, names⟩ := ih _ later ids (names_add mode assets own h)
    refine ⟨?_, names⟩
    rw [List.foldl_cons, all, keys, List.append_assoc]
    rfl

end Drawings

theorem Renderer.code?_drawingSource (c : Renderer) (n : StyledData) :
    (c.drawingSource n).code? = (c.drawings.sources.get? n.id).bind DrawingSource.name? := by
  unfold drawingSource
  cases c.drawings.sources.get? n.id with
  | none => rfl
  | some source => cases source <;> rfl

/-- the imports are the names that the drawings are shown by, in their order -/
theorem importNames_eq (r : Request) (assets : Assets)
    (ids : (r.root.preOrder.map fun n => n.id).Nodup) :
    (renderer r assets).importNames
      = (drawnNodes r.root).filterMap fun n => ((renderer r assets).drawingSource n).code? := by
  have part : ((drawnNodes r.root).map StyledData.id).Sublist
      (r.root.preOrder.map fun n => n.id) := by
    unfold drawnNodes
    rw [List.map_map]
    exact (List.filter_sublist.trans (emitted_sublist r.root)).map _
  have all : (renderer r assets).drawings
      = (drawnNodes r.root).foldl (Drawings.add r.options.svgMode assets) {} := by
    rw [← Drawings.visited_root]
    rfl
  obtain ⟨keys, names⟩ := Drawings.names_foldl r.options.svgMode assets (drawnNodes r.root) {}
    (fun _ _ => List.not_mem_nil) (part.nodup ids) rfl
  rw [← all] at keys names
  rw [Renderer.importNames, ← names, ← Dict.filterMap_keys, keys, List.filterMap_filterMap]
  show (List.map _ _).filterMap _ = _
  rw [List.filterMap_map]
  exact List.filterMap_congr fun n _ => ((renderer r assets).code?_drawingSource n).symm

/-! ## declarations -/

/-- the lines of an interface and of parameters that are no declarations -/
def frameLines : List String := "" :: propHeadings.map fun h => "  " ++ h.2

/-- the props in the order in which they are declared -/
def Props.declared (ps : Props) : List Binding := propHeadings.flatMap fun h => ps.ofKind h.1

theorem perm_declared (ps : Props) : ps.declared.Perm ps.bindings.values := by
  have image : ∀ b : Binding, decide (b.kind = .image) = !decide (b.kind = .text) := by
    intro b
    cases b.kind <;> rfl
  show (ps.ofKind .text ++ (ps.ofKind .image ++ [])).Perm _
  unfold Props.ofKind
  rw [List.append_nil, funext image]
  exact List.filter_append_perm _ _

theorem filter_flatten_intersperse {α : Type} {p : α → Bool} {sep : α} (h : p sep = false)
    (ls : List (List α)) : (ls.intersperse [sep]).flatten.filter p = ls.flatten.filter p := by
  induction ls with
  | nil => rfl
  | cons l ls ih =>
    cases ls with
    | nil => rfl
    | cons l' ls =>
      rw [List.intersperse_cons_cons, List.flatten_cons, List.flatten_cons, List.flatten_cons,
        List.filter_append, List.filter_append, List.filter_append, ih,
        List.filter_singleton, h]
      rfl

/-- besides the headings there is one line for each prop -/
theorem filter_propLines (ps : Props) {line : Binding → String} (h : ∀ b, line b ∉ frameLines) :
    (propLines ps line).filter (fun l => !frameLines.contains l) = ps.declared.map line := by
  have kept (bs : List Binding) :
      (bs.map line).filter (fun l => !frameLines.contains l) = bs.map line := by
    refine List.filter_eq_self.mpr (List.forall_mem_map.mpr fun b _ => ?_)
    simpa using h b
  have dropped : ∀ h ∈ propHeadings, frameLines.contains ("  " ++ h.2) = true := by decide
  unfold propLines
  dsimp only
  rw [filter_flatten_intersperse (by decide), Props.declared]
  generalize propHeadings = headings at dropped ⊢
  induction headings with
  | nil => rfl
  | cons heading headings ih =>
    obtain ⟨first, others⟩ := List.forall_mem_cons.mp dropped
    rw [List.flatMap_cons, List.map_append, ← ih others, ← kept (ps.ofKind heading.1),
      ← List.filter_append, List.filterMap_cons]
    cases ps.ofKind heading.1 with
    | nil => rfl
    | cons b bs => exact List.filter_cons_of_neg (by rw [first]; decide)

/-! ## what is declared and what is used -/

theorem filterMap_eq_of_sublist {α β : Type} {f : α → Option β} {l m : List α} (h : l.Sublist m)
    (distinct : m.Nodup) (none : ∀ a ∈ m, a ∉ l → f a = none) : l.filterMap f = m.filterMap f := by
  induction h with
  | slnil => rfl
  | cons a part ih =>
    obtain ⟨new, distinct⟩ := List.nodup_cons.mp distinct
    obtain ⟨first, others⟩ := List.forall_mem_cons.mp none
    rw [List.filterMap_cons_none (first fun h => new (part.subset h)), ih distinct others]
  | cons_cons a part ih =>
    obtain ⟨new, distinct⟩ := List.nodup_cons.mp distinct
    have others := ih distinct fun b hb other => none b (List.mem_cons_of_mem _ hb) fun h =>
      (List.mem_cons.mp h).elim (fun same => new (same ▸ hb)) other
    rw [List.filterMap_cons, List.filterMap_cons, others]

namespace Props
variable {ps : Props} {id : String}

theorem name?_of_get? {b : Binding} (h : ps.bindings.get? id = some b) (kind : PropKind) :
    ps.name? id kind = if b.kind = kind then some b.name else none := by
  unfold name?
  rw [h]

theorem name?_of_none (h : ps.bindings.get? id = none) (kind : PropKind) :
    ps.name? id kind = none := by
  unfold name?
  rw [h]

theorem isText_of_textOf? {n : StyledData} {text : String} (h : textOf? n = some text) :
    n.isText = true := by
  obtain ⟨-, long⟩ := Option.filter_eq_some_iff.mp h
  exact (Bool.and_eq_true_iff.mp long).1

/-- a node that is no text has the prop of the image that it is, or none -/
theorem image_of_offer? {assets : Assets} {n : StyledNode} {o : PropKind × String}
    (h : offer? assets n = some o) (text : n.isText = false) :
    o.1 = .image ∧ ∃ opacity ref mode, fillForm n = .image ⟨opacity, .image ref mode⟩ := by
  unfold offer? at h
  cases image : imageOf? assets n with
  | some url =>
    rw [image] at h
    obtain rfl : (PropKind.image, url) = o := Option.some.inj h
    refine ⟨rfl, ?_⟩
    unfold imageOf? at image
    cases form : fillForm n with
    | image layer =>
      obtain ⟨opacity, kind⟩ := layer
      cases kind with
      | image ref mode => exact ⟨opacity, ref, mode, rfl⟩
      | solid | gradient => rw [form] at image; cases image
    | styled | layered => rw [form] at image; cases image
  | none =>
    rw [image] at h
    obtain ⟨t, own, -⟩ := Option.map_eq_some_iff.mp ((Option.none_or).symm.trans h)
    exact absurd (isText_of_textOf? own) (by rw [text]; decide)

end Props

namespace Renderer
variable (c : Renderer)

theorem code?_textContent (n : StyledData) :
    (c.textContent n).code? = c.props.name? n.id .text := by
  unfold textContent
  split <;> next h => rw [h]; rfl

theorem code?_imageSource (n : StyledData) (ref : String) :
    (c.imageSource n ref).code? = c.props.name? n.id .image := by
  unfold imageSource
  split <;> next h => rw [h]; rfl

/-- the prop of the image of a text, which its element does not look for -/
def unreferenced? (n : StyledNode) : Option String :=
  if n.isText then c.props.name? n.id .image else none

end Renderer

section
variable (r : Request) (assets : Assets)

theorem props_renderer (props : r.options.withProps = true) :
    (renderer r assets).props = Props.of assets r.root := if_pos props

variable {r assets} (props : r.options.withProps = true)
  (ids : (r.root.preOrder.map fun n => n.id).Nodup)
include props ids

/-- a node that is no drawing is shown by its prop, unless this is the image of a text -/
theorem references_plain {n : StyledNode} (hn : n ∈ r.root.preOrder) (plain : n.isDrawn = false) :
    let c := renderer r assets
    c.references n ++ (c.unreferenced? n).toList
      = ((c.props.bindings.get? n.id).map Binding.name).toList := by
  intro c
  unfold Renderer.references Renderer.unreferenced?
  rw [plain, if_neg Bool.false_ne_true]
  cases found : c.props.bindings.get? n.id with
  | none =>
    have unnamed := Props.name?_of_none found
    cases n.isText with
    | true => simp [c.code?_textContent, unnamed]
    | false =>
      simp only [Bool.false_eq_true, if_false, c.code?_imageSource, unnamed]
      split <;> rfl
  | some b =>
    have named := Props.name?_of_get? found
    cases text : n.isText with
    | true =>
      simp only [if_true, c.code?_textContent, named]
      cases b.kind <;> rfl
    | false =>
      rw [props_renderer r assets props] at found
      obtain ⟨-, offer⟩ := (Props.exists_binding_iff ids hn).mp ⟨b, found, rfl⟩
      obtain ⟨kind, opacity, ref, mode, form⟩ := Props.image_of_offer? offer text
      have kind : b.kind = .image := kind
      rw [form]
      simp [c.code?_imageSource, named, kind]

/-- a drawing has no prop -/
theorem get?_of_drawn {n : StyledNode} (hn : n ∈ r.root.preOrder) (drawn : n.isDrawn = true) :
    (renderer r assets).props.bindings.get? n.id = none := by
  rw [props_renderer r assets props]
  refine Props.get?_eq_none ids hn (.inl fun offered => ?_)
  rw [not_drawn_of_mem_offered r.root offered] at drawn
  cases drawn

theorem references_split {n : StyledNode} (hn : n ∈ r.root.preOrder) :
    let c := renderer r assets
    c.references n ++ (c.unreferenced? n).toList
      = (if n.isDrawn then (c.drawingSource n.toStyledData).code? else none).toList
        ++ ((c.props.bindings.get? n.id).map Binding.name).toList := by
  intro c
  cases drawn : n.isDrawn with
  | false => exact references_plain props ids hn drawn
  | true =>
    have none := @get?_of_drawn r assets props ids n hn drawn
    have unreferenced : c.unreferenced? n = .none := by
      unfold Renderer.unreferenced?
      rw [Props.name?_of_none none, ite_self]
    rw [unreferenced, none, Renderer.references, drawn]
    rfl

/-- the names of the props, in the order of the nodes that are written -/
theorem names_of_written (written : r.root.written = r.root.emitted) :
    let c := renderer r assets
    (r.root.written.filterMap fun n => (c.props.bindings.get? n.id).map Binding.name)
      = c.props.bindings.values.map Binding.name := by
  intro c
  have part : r.root.offered.Sublist r.root.written :=
    written ▸ offered_sublist_emitted r.root
  have distinct : r.root.written.Nodup :=
    .of_map _ (((written_sublist r.root).map fun n : StyledNode => n.id).nodup ids)
  have own : c.props = Props.of assets r.root := props_renderer r assets props
  rw [own, Props.values_of ids, List.map_filterMap]
  refine (filterMap_eq_of_sublist part distinct fun n hn other => ?_).symm
  rw [Props.get?_eq_none ids ((written_sublist r.root).subset hn) (.inl other)]
  rfl

/-- what is said in the markup and what is never used are the imports and the props -/
theorem codes_perm (written : r.root.written = r.root.emitted) :
    let c := renderer r assets
    (codesIn c.root?.toList ++ r.root.written.filterMap c.unreferenced?).Perm
      (c.importNames ++ c.props.declared.map Binding.name) := by
  intro c
  have imports : c.importNames = r.root.written.filterMap fun n =>
      if n.isDrawn then (c.drawingSource n.toStyledData).code? else none := by
    rw [importNames_eq r assets ids, drawnNodes, written, List.filterMap_map, List.filterMap_filter]
    rfl
  have names := @names_of_written r assets props ids written
  calc codesIn c.root?.toList ++ r.root.written.filterMap c.unreferenced?
      = r.root.written.flatMap c.references
          ++ r.root.written.flatMap fun n => (c.unreferenced? n).toList := by
        rw [Renderer.root?, c.codesIn_element?, List.filterMap_eq_flatMap_toList]
        rfl
    List.Perm _ (r.root.written.flatMap fun n => c.references n ++ (c.unreferenced? n).toList) :=
        List.flatMap_append_perm ..
    _ = r.root.written.flatMap fun n =>
          (if n.isDrawn then (c.drawingSource n.toStyledData).code? else none).toList
            ++ ((c.props.bindings.get? n.id).map Binding.name).toList :=
        List.flatMap_congr fun n hn =>
          references_split props ids ((written_sublist r.root).subset hn)
    List.Perm _ _ := (List.flatMap_append_perm ..).symm
    _ = c.importNames ++ c.props.bindings.values.map Binding.name := by
        rw [imports, ← names, List.filterMap_eq_flatMap_toList, List.filterMap_eq_flatMap_toList]
    List.Perm _ (c.importNames ++ c.props.declared.map Binding.name) :=
        (((perm_declared c.props).map Binding.name).symm).append_left _

/-- a text that is shown has the prop of its image, or else that of its characters -/
theorem isSome_name?_of_text {n : StyledNode} (hn : n ∈ r.root.preOrder) (text : n.isText = true) :
    let c := renderer r assets
    ((c.props.name? n.id .image).isSome = true ↔
        n ∈ r.root.offered ∧ (Props.imageOf? assets n).isSome = true) ∧
      ∀ t, n.characters? = some t → Props.minTextLength ≤ (Chars.trim t.toList).length →
        ((c.props.name? n.id .text).isSome = true ↔
          n ∈ r.root.offered ∧ Props.imageOf? assets n = none) := by
  intro c
  have own : c.props = Props.of assets r.root := props_renderer r assets props
  rw [own, Props.isSome_name?_iff ids hn]
  refine ⟨and_congr_right fun _ => ?_, fun t characters long => ?_⟩
  · unfold Props.offer?
    cases Props.imageOf? assets n <;> simp
  · have offer : Props.textOf? n.toStyledData = some t := by
      unfold Props.textOf?
      rw [characters, Option.filter_some, if_pos (by rw [text, decide_eq_true long]; rfl)]
    rw [Props.isSome_name?_iff ids hn]
    refine and_congr_right fun _ => ?_
    unfold Props.offer?
    rw [offer]
    cases Props.imageOf? assets n <;> simp

end

/-- the line of a prop in the interface -/
def interfaceLine (b : Binding) : String := "  " ++ b.name ++ "?: string;"

/-- the line of a prop among the parameters -/
def parameterLine (b : Binding) : String :=
  "  " ++ b.name ++ " = \"" ++ Escape.script b.default ++ "\","

/-- a line is told from a heading by its last character -/
theorem not_mem_frameLines {front back : String} {mark : Char}
    (ends : back.toList.getLast? = some mark)
    (other : ∀ line ∈ frameLines, line.toList.getLast? ≠ some mark) :
    front ++ back ∉ frameLines := by
  refine fun h => other _ h ?_
  rw [String.toList_append, List.getLast?_append, ends]
  rfl

/-- **The props that are declared are those that are used, but for images that are texts.**  In a
component with props, from a tree that was made of a well-formed design and whose nodes have distinct
ids, for all rules, options and assets:

* the interface and the parameters declare the same props in the same order, by distinct names;
* the names in the markup, with those of the props that are never used, are the names of the imports
  and of the declared props, each once;
* the props that are never used are those of texts that are filled with one image that is known;
* any other text of three characters or more has a prop for them, if it is visible and all above it
  is visible. -/
theorem prop_references (s : Session) {design : DesignNode} (proper : design.WellFormed)
    (r : Request) (h : s.Yields design r.root) (assets : Assets)
    (props : r.options.withProps = true) (ids : (r.root.preOrder.map fun n => n.id).Nodup) :
    let c := renderer r assets
    (∀ line ∈ [interfaceLine, parameterLine],
        (propLines c.props line).filter (fun l => !frameLines.contains l)
          = c.props.declared.map line) ∧
      (c.props.declared.map Binding.name).Nodup ∧
      (codesIn c.root?.toList ++ r.root.shown.filterMap c.unreferenced?).Perm
        (c.importNames ++ c.props.declared.map Binding.name) ∧
      ∀ n ∈ r.root.shown, n.isText = true →
        ((c.unreferenced? n).isSome = true ↔
          n ∈ r.root.offered ∧ (Props.imageOf? assets n).isSome = true) ∧
        ∀ t, n.characters? = some t → Props.minTextLength ≤ (Chars.trim t.toList).length →
          ((c.props.name? n.id .text).isSome = true ↔
            n ∈ r.root.offered ∧ Props.imageOf? assets n = none) := by
  intro c
  have labels := Styling.textsAreLabels_of_yields proper h
  have written : r.root.written = r.root.emitted :=
    written_eq_emitted r.root fun m hm text => (labels m hm text).leaf
  have own : c.props = Props.of assets r.root := props_renderer r assets props
  rw [shown_eq_emitted, ← written]
  refine ⟨fun line hl => ?_, ?_, codes_perm props ids written, fun n hn text => ?_⟩
  · refine filter_propLines c.props fun b => ?_
    rcases List.mem_pair.mp hl with rfl | rfl
    · exact not_mem_frameLines (by decide : _ = some ';') (by decide)
    · exact not_mem_frameLines (by decide : _ = some ',') (by decide)
  · refine ((perm_declared c.props).map Binding.name).nodup_iff.mpr ?_
    rw [own]
    exact (Bound.of assets r.root).nodup_values
  · have unreferenced : c.unreferenced? n = c.props.name? n.id .image := if_pos text
    rw [unreferenced]
    exact isSome_name?_of_text props ids ((written_sublist r.root).subset hn) text

/-- a card with a title and an arrow: one prop and one import, each used once -/
theorem prop_references_card :
    let title : DesignNode := ⟨{
      id := "2", name := "Title", kind := .text, payload := .text "Hello" {} {} }, []⟩
    let arrow : DesignNode := ⟨{
      id := "3", name := "Arrow", kind := .vector, payload := .vector {} {} }, []⟩
    let card : DesignNode := ⟨{
      id := "1", name := "Card", kind := .frame, payload := .container {} }, [title, arrow]⟩
    card.WellFormed ∧ ∃ tree, ({} : Session).Yields card tree ∧
      (tree.preOrder.map fun n => n.id) = ["1", "2", "3"] ∧
      let c := renderer {
        root := tree, framework := .reactTailwind
        options := { svgMode := .exported, withProps := true } } {}
      c.props.declared.map Binding.name = ["title"] ∧
        (codesIn c.root?.toList).Perm ["arrow", "title"] := by
  intro title arrow card
  let request (tree : StyledNode) : Request := {
    root := tree, framework := .reactTailwind
    options := { svgMode := .exported, withProps := true } }
  have proper : card.WellFormed := by decide
  have styled : (({} : Session).style card).1.map (fun t => let c := renderer (request t) {}
      (t.preOrder.map (fun n => n.id), c.props.declared.map Binding.name, c.importNames,
        t.shown.filterMap c.unreferenced?)) = some (["1", "2", "3"], ["title"], ["arrow"], []) := by
    decide +kernel
  obtain ⟨tree, h, facts⟩ := Option.map_eq_some_iff.mp styled
  simp only [Prod.mk.injEq] at facts
  obtain ⟨ids, declared, imports, unused⟩ := facts
  have yields : ({} : Session).Yields card tree := .styled h
  refine ⟨proper, tree, yields, ids, declared, ?_⟩
  obtain ⟨-, -, perm, -⟩ := prop_references {} proper (request tree) yields {} rfl
    (by rw [ids]; decide)
  rw [declared, imports, unused, List.append_nil] at perm
  exact perm

/-- a title that is filled with an image has a prop that is never used; and a label that is hidden,
but there at larger widths, has none -/
theorem props_of_odd_texts :
    let image : Paint := { fill := .image { imageRef := some "ref" } }
    let title : DesignNode := ⟨{
      id := "2", name := "Title", kind := .text
      payload := .text "Hello" {} { fills := [image] } }, []⟩
    let label : DesignNode := ⟨{
      id := "2", name := "Label", kind := .text, visible := false
      payload := .text "Hello" {} {} }, []⟩
    let card (child : DesignNode) : DesignNode := ⟨{
      id := "1", name := "Card", kind := .frame, payload := .container {} }, [child]⟩
    let c (tree : StyledNode) := renderer
      { root := tree, framework := .reactTailwind, options := { withProps := true } }
      { images := Dict.set ∅ "ref" "https://images.test/a.png" }
    (card title).WellFormed ∧ (card label).WellFormed ∧
      (∃ tree, ({} : Session).Yields (card title) tree ∧
        (tree.preOrder.map fun n => n.id) = ["1", "2"] ∧
        (c tree).props.declared.map Binding.name = ["title2"] ∧
        codesIn (c tree).root?.toList = []) ∧
      ∃ tree, ({ policy := { hidden := .preserve } } : Session).Yields (card label) tree ∧
        (tree.preOrder.map fun n => n.id) = ["1", "2"] ∧
        (tree.shown.map fun n => (n.isText, n.characters?, (c tree).props.name? n.id .text))
          = [(false, none, none), (true, some "Hello", none)] := by
  intro image title label card c
  let larger : Overlays := Dict.set ∅ "2" { presence := some ⟨false, true, true⟩ }
  have first : (({} : Session).style (card title)).1.map (fun t => (t.preOrder.map (fun n => n.id),
      (c t).props.declared.map Binding.name, codesIn (c t).root?.toList))
        = some (["1", "2"], ["title2"], []) := by decide
  have second : (({ policy := { hidden := .preserve } } : Session).style (card label)).1.map
      (fun t => ((larger.apply t).preOrder.map (fun n => n.id), (larger.apply t).shown.map fun n =>
        (n.isText, n.characters?, (c (larger.apply t)).props.name? n.id .text)))
        = some (["1", "2"], [(false, none, none), (true, some "Hello", none)]) := by decide
  obtain ⟨tree, h, facts⟩ := Option.map_eq_some_iff.mp first
  obtain ⟨tree', h', facts'⟩ := Option.map_eq_some_iff.mp second
  simp only [Prod.mk.injEq] at facts facts'
  exact ⟨by decide, by decide, ⟨tree, .styled h, facts⟩, _, .overlaid larger (.styled h'), facts'⟩

end React
end Handoff
