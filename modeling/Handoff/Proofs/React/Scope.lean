import Handoff.Proofs.Naming.Fresh
import Handoff.Proofs.React.Drawings
import Handoff.Proofs.React.Expressions
import Mathlib.Data.List.Nodup

/-!
# The scope of a component

A component with exported drawings binds two kinds of names: it imports its drawings, and its props
are parameters of the function.  In the markup a parameter hides an import of the same name.  The
names of either kind are distinct, but the two kinds do not know of each other.

* `Prepared`          what holds while the drawings of a tree are prepared;
* `Bound`             what holds while the props of a tree are bound;
* `meaning?`          what a name means in the markup;
* `means_own_iff`     whether this is what was bound for the node that the name is there for;
* `names_in_scope`    a name means what was bound for its node, unless a prop hides an import.
-/

namespace Handoff

theorem find?_of_nodup {α : Type} {f : α → String} {l : List α} (h : (l.map f).Nodup) {a : α}
    (ha : a ∈ l) : l.find? (fun b => f b == f a) = some a := by
  cases found : l.find? fun b => f b == f a with
  | none => exact absurd (List.find?_eq_none.mp found a ha) (by simp)
  | some b =>
    have same : f b = f a := by simpa using List.find?_some found
    rw [List.inj_on_of_nodup_map h (List.mem_of_find?_eq_some found) ha same]

namespace React
open StyledNode Naming

/-! ## drawings -/

/-- while drawings are prepared: their names are handed out, and each node has a file of its own -/
structure Prepared (assets : Assets) (layers : List String) (nodes : List StyledData)
    (ds : Drawings) : Prop where
  names : Handed variableBase layers (ds.files.map ExportedFile.importName)
  own : ∀ n ∈ nodes, ∃ f ∈ ds.files, ds.sources.get? n.id = some (.imported f.importName) ∧
    f.content = (drawingDocument assets n).1

theorem Prepared.add {assets : Assets} {layers : List String} {nodes : List StyledData}
    {ds : Drawings} (h : Prepared assets layers nodes ds) {n : StyledData} (hl : n.name ∈ layers)
    (new : ∀ m ∈ nodes, m.id ≠ n.id) :
    Prepared assets layers (nodes ++ [n]) (ds.add .exported assets n) := by
  let x := freshVariable (ds.files.map ExportedFile.importName) n.name
  let f : ExportedFile := ⟨x, x ++ ".svg", (drawingDocument assets n).1⟩
  have files : (ds.add .exported assets n).files = ds.files ++ [f] := rfl
  have sources : (ds.add .exported assets n).sources = ds.sources.set n.id (.imported x) := rfl
  refine ⟨?_, fun m hm => ?_⟩
  · rw [files, List.map_append]
    exact (h.names.cons hl).perm (List.perm_append_singleton ..).symm
  · rw [files, sources, Dict.get?_set]
    rcases List.mem_append.mp hm with hm | hm
    · obtain ⟨g, hg, source, content⟩ := h.own m hm
      rw [if_neg (new m hm)]
      exact ⟨g, List.mem_append_left _ hg, source, content⟩
    · rw [List.mem_singleton.mp hm, if_pos rfl]
      exact ⟨f, List.mem_append_right _ List.mem_cons_self, rfl, rfl⟩

/-- the invariant is about all nodes so far, so these and the nodes to come have distinct ids -/
theorem Prepared.foldl {assets : Assets} {layers : List String} (nodes : List StyledData) :
    ∀ (before : List StyledData) {ds : Drawings}, Prepared assets layers before ds →
      ((before ++ nodes).map StyledData.id).Nodup → (∀ n ∈ nodes, n.name ∈ layers) →
      Prepared assets layers (before ++ nodes)
        (nodes.foldl (Drawings.add .exported assets) ds) := by
  induction nodes with
  | nil =>
    intro before ds h _ _
    rw [List.append_nil]
    exact h
  | cons n nodes ih =>
    intro before ds h ids named
    rw [List.append_cons] at ids ⊢
    have new : ∀ m ∈ before, m.id ≠ n.id := by
      rw [List.map_append, List.map_append, List.nodup_append, List.nodup_append] at ids
      exact fun m hm => ids.1.2.2 _ (List.mem_map_of_mem hm) _ List.mem_cons_self
    exact ih (before ++ [n]) (h.add (named n List.mem_cons_self) new) ids
      fun m hm => named m (List.mem_cons_of_mem _ hm)

/-! ## props -/

/-- a prop stands for a node: its text, or the image that is the node -/
def Shows (assets : Assets) (n : StyledNode) (b : Binding) : Prop :=
  b.kind = .text ∧ n.characters? = some b.default ∨
    b.kind = .image ∧ ∃ layer, fillForm n = .image layer ∧
      layer.imageRef?.bind assets.image? = some b.default

/-- while props are bound: their names are handed out, no two nodes share one, and each stands for
the node that it is bound for -/
structure Bound (assets : Assets) (nodes : List StyledNode) (ps : Props) : Prop where
  names : Handed identifierBase (nodes.map fun n => n.name) ps.used
  used : ∀ id b, ps.bindings.get? id = some b → b.name ∈ ps.used
  apart : ∀ id id' b b', ps.bindings.get? id = some b → ps.bindings.get? id' = some b' →
    b.name = b'.name → id = id'
  own : ∀ id b, ps.bindings.get? id = some b → ∃ n ∈ nodes, n.id = id ∧ Shows assets n b

namespace Bound
variable {assets : Assets} {nodes : List StyledNode} {ps : Props}

theorem bind (h : Bound assets nodes ps) {n : StyledNode} (hn : n ∈ nodes) {kind : PropKind}
    {default : String} (shows : ∀ name, Shows assets n ⟨name, kind, default⟩) :
    Bound assets nodes (ps.bind n.id n.name kind default) := by
  let x := freshIdentifier ps.used n.name
  have bindings : (ps.bind n.id n.name kind default).bindings
      = ps.bindings.set n.id ⟨x, kind, default⟩ := rfl
  have names : Handed identifierBase (nodes.map fun n => n.name) (x :: ps.used) :=
    h.names.cons (List.mem_map_of_mem hn)
  have new : x ∉ ps.used := (List.nodup_cons.mp names.nodup).1
  -- what is bound afterwards is the new prop, or was bound before and has another name
  have split {id : String} {b : Binding}
      (hb : (ps.bind n.id n.name kind default).bindings.get? id = some b) :
      id = n.id ∧ b = ⟨x, kind, default⟩ ∨ ps.bindings.get? id = some b := by
    rw [bindings, Dict.get?_set] at hb
    split at hb
    · next same => exact .inl ⟨same, (Option.some.inj hb).symm⟩
    · exact .inr hb
  refine ⟨names, fun id b hb => ?_, fun id id' b b' hb hb' same => ?_, fun id b hb => ?_⟩
  · rcases split hb with ⟨-, rfl⟩ | hb
    · exact List.mem_cons_self
    · exact List.mem_cons_of_mem _ (h.used id b hb)
  · rcases split hb with ⟨rfl, rfl⟩ | hb <;> rcases split hb' with ⟨rfl, rfl⟩ | hb'
    · rfl
    · exact absurd (h.used id' b' hb') (same ▸ new)
    · exact absurd (h.used id b hb) (same.symm ▸ new)
    · exact h.apart id id' b b' hb hb' same
  · rcases split hb with ⟨rfl, rfl⟩ | hb
    · exact ⟨n, hn, rfl, shows x⟩
    · exact h.own id b hb

theorem bindText (h : Bound assets nodes ps) {n : StyledNode} (hn : n ∈ nodes) :
    Bound assets nodes (ps.bindText n.toStyledData) := by
  unfold Props.bindText
  split
  · next text characters =>
    split
    · exact h.bind hn fun _ => .inl ⟨rfl, characters⟩
    · exact h
  · exact h

theorem bindImage (h : Bound assets nodes ps) {n : StyledNode} (hn : n ∈ nodes) :
    Bound assets nodes (Props.bindImage assets ps n) := by
  unfold Props.bindImage
  split
  · next layer form =>
    split
    · next url image => exact h.bind hn fun _ => .inr ⟨rfl, layer, form, image⟩
    · exact h
  · exact h

/-- the props of a part of the tree -/
theorem add (n : StyledNode) : n.preOrder ⊆ nodes → ∀ ps, Bound assets nodes ps →
    Bound assets nodes (Props.add assets ps n) := by
  induction n using forest (Q := fun ns => preOrderAll ns ⊆ nodes → ∀ ps, Bound assets nodes ps →
    Bound assets nodes (Props.addAll assets ps ns)) with
  | node d cs ih =>
    intro part ps h
    have own : ⟨d, cs⟩ ∈ nodes := part List.mem_cons_self
    rw [Props.add]
    split
    · exact h
    · exact ih (fun m hm => part (List.mem_cons_of_mem _ hm)) _ ((h.bindText own).bindImage own)
  | nil _ ps h => exact h
  | cons n ns ih ihs part ps h =>
    exact ihs (fun m hm => part (List.mem_append_right _ hm)) _
      (ih (fun m hm => part (List.mem_append_left _ hm)) ps h)

theorem empty (assets : Assets) (nodes : List StyledNode) : Bound assets nodes {} where
  names := .nil ..
  used _ _ h := by cases h
  apart _ _ _ _ h := by cases h
  own _ _ h := by cases h

theorem of (assets : Assets) (root : StyledNode) :
    Bound assets root.preOrder (Props.of assets root) :=
  add root (List.Subset.refl _) {} (empty assets root.preOrder)

/-- the names of the parameters -/
theorem nodup_values (h : Bound assets nodes ps) :
    (ps.bindings.values.map Binding.name).Nodup := by
  rw [Dict.values, List.map_map]
  refine List.pairwise_map.mpr ((List.pairwise_map.mp ps.bindings.nodup).imp_of_mem ?_)
  intro e e' he he' keys same
  have bound {e : String × Binding} (he : e ∈ ps.bindings.entries) := Dict.mem_entries_iff.mp he
  exact keys (h.apart e.1 e'.1 e.2 e'.2 (bound he) (bound he') same)

theorem mem_values {b : Binding} : b ∈ ps.bindings.values ↔ ∃ id, ps.bindings.get? id = some b := by
  rw [Dict.values, List.mem_map]
  constructor
  · rintro ⟨e, he, rfl⟩
    exact ⟨e.1, Dict.mem_entries_iff.mp he⟩
  · rintro ⟨id, h⟩
    exact ⟨(id, b), Dict.mem_entries_iff.mpr h, rfl⟩

end Bound

/-! ## names in the markup -/

/-- what a name can mean -/
inductive Meaning where
  | prop (b : Binding)
  | file (f : ExportedFile)

/-- what is bound for a node: its drawing, or else a prop that stands for it -/
def Meaning.IsOwn (assets : Assets) (n : StyledNode) : Meaning → Prop
  | .prop b => n.isDrawn = false ∧ Shows assets n b
  | .file f => n.isDrawn = true ∧ f.content = (drawingDocument assets n.toStyledData).1

namespace Renderer
variable (c : Renderer)

def importNames : List String := c.drawings.files.map ExportedFile.importName

def propNames : List String := c.props.bindings.values.map Binding.name

/-- parameters hide imports -/
def meaning? (x : String) : Option Meaning :=
  ((c.props.bindings.values.find? fun b => b.name == x).map .prop).or
    ((c.drawings.files.find? fun f => f.importName == x).map .file)

variable {c}

theorem meaning?_of_prop (distinct : c.propNames.Nodup) {b : Binding}
    (hb : b ∈ c.props.bindings.values) : c.meaning? b.name = some (.prop b) := by
  rw [meaning?, find?_of_nodup distinct hb]
  rfl

theorem meaning?_of_file (distinct : c.importNames.Nodup) {f : ExportedFile}
    (hf : f ∈ c.drawings.files) (shown : f.importName ∉ c.propNames) :
    c.meaning? f.importName = some (.file f) := by
  have none : (c.props.bindings.values.find? fun b => b.name == f.importName) = none := by
    refine List.find?_eq_none.mpr fun b hb => ?_
    simpa using fun same : b.name = f.importName => shown (same ▸ List.mem_map_of_mem hb)
  rw [meaning?, none, find?_of_nodup distinct hf]
  rfl

theorem meaning?_of_hidden {x : String} (h : x ∈ c.propNames) :
    ∃ b, c.meaning? x = some (.prop b) := by
  obtain ⟨b, hb, rfl⟩ := List.mem_map.mp h
  cases found : c.props.bindings.values.find? fun b' => b'.name == b.name with
  | none => exact absurd (List.find?_eq_none.mp found b hb) (by simp)
  | some b' => exact ⟨b', by rw [meaning?, found]; rfl⟩

end Renderer

theorem Props.get?_of_name? {ps : Props} {id x : String} {kind : PropKind}
    (h : ps.name? id kind = some x) :
    ∃ b, ps.bindings.get? id = some b ∧ b.name = x ∧ b.kind = kind := by
  unfold Props.name? at h
  split at h
  · next b hb =>
    split at h
    · next same => exact ⟨b, hb, Option.some.inj h, same⟩
    · cases h
  · cases h

theorem Prepared.of (assets : Assets) {root : StyledNode}
    (ids : (root.preOrder.map fun n => n.id).Nodup) :
    Prepared assets (root.preOrder.map fun n => n.name) (drawnNodes root)
      (Drawings.of .exported assets root) := by
  have part : ((root.emitted.filter isDrawn).map fun n => n.id).Sublist
      (root.preOrder.map fun n => n.id) :=
    (List.filter_sublist.trans (emitted_sublist root)).map _
  have drawn : (drawnNodes root).map StyledData.id
      = (root.emitted.filter isDrawn).map fun n => n.id := List.map_map
  rw [Drawings.of, Drawings.visited_root]
  refine Prepared.foldl (drawnNodes root) [] ⟨.nil .., List.forall_mem_nil _⟩ ?_ fun n hn => ?_
  · rw [List.nil_append, drawn]
    exact part.nodup ids
  · obtain ⟨m, hm, rfl⟩ := List.mem_map.mp hn
    exact List.mem_map_of_mem ((emitted_sublist root).subset (List.mem_filter.mp hm).1)

theorem mem_drawnNodes {root n : StyledNode} (hn : n ∈ root.written) (drawn : n.isDrawn = true) :
    n.toStyledData ∈ drawnNodes root :=
  List.mem_map_of_mem (List.mem_filter.mpr ⟨(written_sublist_emitted root).subset hn, drawn⟩)

/-- a prop means what was bound for the node that it is looked up for -/
theorem Bound.meaning {assets : Assets} {root n : StyledNode} {c : Renderer} {x : String}
    {kind : PropKind} (h : Bound assets root.preOrder c.props)
    (ids : (root.preOrder.map fun n => n.id).Nodup) (hn : n ∈ root.preOrder)
    (plain : n.isDrawn = false) (found : c.props.name? n.id kind = some x) :
    ∃ m, c.meaning? x = some m ∧ m.IsOwn assets n := by
  obtain ⟨b, hb, rfl, -⟩ := Props.get?_of_name? found
  obtain ⟨m, hm, same, shows⟩ := h.own _ b hb
  obtain rfl : m = n := List.inj_on_of_nodup_map ids hm hn same
  have known := Renderer.meaning?_of_prop h.nodup_values (Bound.mem_values.mpr ⟨_, hb⟩)
  exact ⟨.prop b, known, plain, shows⟩

/-- what a node is shown by means what was bound for it, unless a prop hides its import -/
theorem means_own_iff {assets : Assets} {root n : StyledNode} {c : Renderer} {layers : List String}
    {x : String} (prepared : Prepared assets layers (drawnNodes root) c.drawings)
    (bound : Bound assets root.preOrder c.props) (ids : (root.preOrder.map fun n => n.id).Nodup)
    (hn : n ∈ root.written) (mentions : c.Mentions n x) :
    (∃ m, c.meaning? x = some m ∧ m.IsOwn assets n) ↔ (n.isDrawn = true → x ∉ c.propNames) := by
  have part : n ∈ root.preOrder := (written_sublist root).subset hn
  cases mentions with
  | drawing drawn source =>
    obtain ⟨f, hf, get, content⟩ := prepared.own _ (mem_drawnNodes hn drawn)
    rw [Renderer.drawingSource, get] at source
    obtain rfl := AttributeValue.expression.inj source
    constructor
    · rintro ⟨m, meaning, own⟩ - hidden
      obtain ⟨b, hb⟩ := Renderer.meaning?_of_hidden hidden
      obtain rfl : m = .prop b := Option.some.inj (meaning.symm.trans hb)
      exact absurd drawn (by rw [own.1]; decide)
    · intro shown
      have known := Renderer.meaning?_of_file prepared.names.nodup hf (shown drawn)
      exact ⟨.file f, known, drawn, content⟩
  | text plain content =>
    refine iff_of_true ?_ fun drawn => absurd drawn (by rw [plain]; decide)
    unfold Renderer.textContent at content
    split at content
    · next prop found =>
      exact bound.meaning ids part plain (Content.expression.inj content ▸ found)
    · cases content
  | image plain ref source =>
    refine iff_of_true ?_ fun drawn => absurd drawn (by rw [plain]; decide)
    unfold Renderer.imageSource at source
    split at source
    · next prop found =>
      exact bound.meaning ids part plain (AttributeValue.expression.inj source ▸ found)
    · cases source

/-- **Names in scope mean what was bound for their node, but for imports that props hide.**  In a
component with exported drawings and props, from a tree whose nodes have distinct ids:

* imports have distinct names, and so have props, so all names are distinct if no prop has the name
  of an import;
* a name that is a reserved word is the name that a layer gives by itself, without a number;
* every drawing is shown by the name of an import;
* every name in the markup is there for a node that is written, and it means what was bound for this
  node exactly if the node is no drawing whose import is hidden by a prop. -/
theorem names_in_scope (r : Request) (assets : Assets) (exported : r.options.svgMode = .exported)
    (props : r.options.withProps = true) (ids : (r.root.preOrder.map fun n => n.id).Nodup) :
    let c := renderer r assets
    c.importNames.Nodup ∧ c.propNames.Nodup ∧
      ((c.importNames ++ c.propNames).Nodup ↔ ∀ x ∈ c.importNames, x ∉ c.propNames) ∧
      (∀ x ∈ c.importNames ++ c.propNames, x ∈ reservedWords →
        ∃ n ∈ r.root.preOrder, x = variableBase n.name ∨ x = identifierBase n.name) ∧
      (∀ n ∈ r.root.written, n.isDrawn = true → ∃ x ∈ c.importNames, c.Mentions n x) ∧
      (∀ x ∈ codesIn c.root?.toList, ∃ n ∈ r.root.written, c.Mentions n x) ∧
      ∀ n ∈ r.root.written, ∀ x, c.Mentions n x →
        ((∃ m, c.meaning? x = some m ∧ m.IsOwn assets n) ↔
          (n.isDrawn = true → x ∉ c.propNames)) := by
  intro c
  have prepared : Prepared assets (r.root.preOrder.map fun n => n.name) (drawnNodes r.root)
      c.drawings := by
    show Prepared _ _ _ (Drawings.of r.options.svgMode assets r.root)
    rw [exported]
    exact .of assets ids
  have bound : Bound assets r.root.preOrder c.props := by
    show Bound _ _ (if r.options.withProps then _ else _)
    rw [props]
    exact .of assets r.root
  have imports : c.importNames.Nodup := prepared.names.nodup
  have params : c.propNames.Nodup := bound.nodup_values
  refine ⟨imports, params, ?_, fun x hx reserved => ?_, fun n hn drawn => ?_,
    c.mentions_of_mem_codes r.root none, fun n hn x => means_own_iff prepared bound ids hn⟩
  · rw [List.nodup_append, and_iff_right imports, and_iff_right params]
    exact ⟨fun h x hx hx' => h x hx x hx' rfl, fun h x hx y hy e => h x hx (e ▸ hy)⟩
  · rcases List.mem_append.mp hx with hx | hx
    · obtain ⟨layer, hl, e⟩ := prepared.names.base_of_reserved hx reserved
      obtain ⟨n, hn, rfl⟩ := List.mem_map.mp hl
      exact ⟨n, hn, .inl e⟩
    · obtain ⟨b, hb, rfl⟩ := List.mem_map.mp hx
      obtain ⟨id, hb⟩ := Bound.mem_values.mp hb
      obtain ⟨layer, hl, e⟩ := bound.names.base_of_reserved (bound.used id b hb) reserved
      obtain ⟨n, hn, rfl⟩ := List.mem_map.mp hl
      exact ⟨n, hn, .inr e⟩
  · obtain ⟨f, hf, get, -⟩ := prepared.own _ (mem_drawnNodes hn drawn)
    refine ⟨f.importName, List.mem_map_of_mem hf, .drawing drawn ?_⟩
    rw [Renderer.drawingSource, get]

/-- an arrow and a title: their names are distinct, and none of them is reserved -/
theorem names_in_scope_card :
    let arrow : StyledNode := ⟨{
      source := { id := "2", name := "Arrow", kind := .vector }
      uniqueName := "Arrow"
      drawing := some {} }, []⟩
    let title : StyledNode := ⟨{
      source := { id := "3", name := "Title", kind := .text, payload := .text "Hello" {} {} }
      uniqueName := "Title" }, []⟩
    let r : Request := {
      root := ⟨{ source := { id := "1", name := "Card", kind := .frame }, uniqueName := "Card" },
        [arrow, title]⟩
      framework := .reactTailwind
      options := { svgMode := .exported, withProps := true } }
    let c := renderer r {}
    (r.root.preOrder.map fun n => n.id).Nodup ∧ (c.importNames ++ c.propNames).Nodup ∧
      ∀ x ∈ c.importNames ++ c.propNames, x ∉ reservedWords := by
  intro arrow title r c
  have ids : (r.root.preOrder.map fun n => n.id).Nodup := by decide +kernel
  obtain ⟨-, -, distinct, words, -⟩ := names_in_scope r {} rfl rfl ids
  refine ⟨ids, distinct.mpr (by decide +kernel), fun x hx reserved => ?_⟩
  obtain ⟨n, hn, e⟩ := words x hx reserved
  have plain : ∀ n ∈ r.root.preOrder,
      variableBase n.name ∉ reservedWords ∧ identifierBase n.name ∉ reservedWords := by
    decide +kernel
  rcases e with rfl | rfl
  · exact (plain n hn).1 reserved
  · exact (plain n hn).2 reserved

/-- an icon and a text have one name, which means the text for both; and one text is named by a
reserved word -/
theorem names_of_title_icon :
    let icon : StyledNode := ⟨{
      source := { id := "2", name := "Title", kind := .vector }
      uniqueName := "Title"
      drawing := some {} }, []⟩
    let title : StyledNode := ⟨{
      source := { id := "3", name := "Title", kind := .text, payload := .text "Hello" {} {} }
      uniqueName := "Title_01" }, []⟩
    let label : StyledNode := ⟨{
      source := { id := "4", name := "Class", kind := .text, payload := .text "First" {} {} }
      uniqueName := "Class" }, []⟩
    let r : Request := {
      root := ⟨{ source := { id := "1", name := "Card", kind := .frame }, uniqueName := "Card" },
        [icon, title, label]⟩
      framework := .reactTailwind
      options := { svgMode := .exported, withProps := true } }
    let c := renderer r {}
    (r.root.preOrder.map fun n => n.id).Nodup ∧
      codesIn c.root?.toList = ["title", "title", "class"] ∧
      c.importNames = ["title"] ∧ c.propNames = ["title", "class"] ∧
      ¬ (c.importNames ++ c.propNames).Nodup ∧ "class" ∈ reservedWords ∧
      ∃ b, c.meaning? "title" = some (.prop b) := by
  intro icon title label r c
  have params : c.propNames = ["title", "class"] := by decide +kernel
  have hidden : "title" ∈ c.propNames := by
    rw [params]
    exact List.mem_cons_self
  refine ⟨?_, ?_, ?_, params, ?_, ?_, Renderer.meaning?_of_hidden hidden⟩ <;> decide +kernel

end React
end Handoff
