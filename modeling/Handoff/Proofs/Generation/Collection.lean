import Handoff.Generation.Code
import Handoff.Proofs.Generation.Needs
import Handoff.Proofs.Html.Stylesheet
import Handoff.Proofs.React.Lookups
import Handoff.Proofs.Styling.Texts

/-!
# Whether all that is looked up was collected

The assets of a tree are collected before its code is made, and nothing is asked for later.  So code
should depend on no other assets than these.  Components do not; but the rules of a page have images
even for a drawing, and those of drawings are not collected.

* `Assets.AgreeOn`         assets that have the same of what is needed;
* `Request.NeedsSuffice`   the code depends on nothing that was not collected;
* `codeWith_congr`         what code depends on;
* `needsSuffice_iff`       nothing is missed but the images in the rules of drawings;
* `resolve_table`          what is found in a table that has all that was collected;
* `collection_complete`    both at once.
-/

namespace Handoff
open StyledNode

/-- assets that have the same of what is needed -/
structure Assets.AgreeOn (needs : AssetNeeds) (a b : Assets) : Prop where
  images : ∀ ref ∈ needs.images, a.image? ref = b.image? ref
  drawings : ∀ id ∈ needs.drawings, a.drawing? id = b.drawing? id

/-- assets that agree on what was collected agree on what each node needs -/
theorem Assets.AgreeOn.sameFor {root : StyledNode} {a b : Assets}
    (h : a.AgreeOn (.of root) b) : ∀ m ∈ root.emitted, a.SameFor b m := fun m hm =>
  { images := fun plain ref href =>
      h.images ref (AssetNeeds.mem_images_of.mpr ⟨m, hm, plain, href⟩)
    drawing := fun drawn => h.drawings m.id (AssetNeeds.mem_drawings_of.mpr ⟨m, hm, drawn, rfl⟩) }

namespace Request

/-- whether the code of a request depends on nothing but the assets that are collected for it -/
def NeedsSuffice (r : Request) : Prop :=
  ∀ a b : Assets, a.warnings = b.warnings → a.AgreeOn (.of r.root) b → r.codeWith a = r.codeWith b

/-- the images in the rules of drawings; components have no rules -/
def drawingImages (r : Request) : List String :=
  match r.framework with
  | .reactTailwind | .reactTailwindV4 => []
  | .htmlCss => (r.root.written.filter isDrawn).flatMap (Html.Page.ruleImages ⟨r, {}⟩)

variable {r : Request} {a b : Assets}

theorem component_congr (same : ∀ m ∈ r.root.emitted, a.SameFor b m)
    (warnings : a.warnings = b.warnings) (react : r.framework ≠ .htmlCss) :
    r.codeWith a = r.codeWith b := by
  obtain ⟨text, drawings⟩ := React.renderer_congr r same
  unfold codeWith
  split
  · dsimp only
    rw [text, drawings, warnings]
  · dsimp only
    rw [text, drawings, warnings]
  · next html => exact absurd html react

theorem page_congr (same : ∀ m ∈ r.root.emitted, a.SameFor b m)
    (warnings : a.warnings = b.warnings) (html : r.framework = .htmlCss)
    (rules : ∀ m ∈ r.root.written, ∀ ref ∈ Html.Page.ruleImages ⟨r, a⟩ m,
      a.image? ref = b.image? ref) : r.codeWith a = r.codeWith b := by
  obtain ⟨code, css, missing⟩ := Html.Page.code_congr same rules
  unfold codeWith
  rw [html]
  dsimp only
  rw [code, css, missing, warnings]

theorem css_codeWith (html : r.framework = .htmlCss) (a : Assets) :
    (r.codeWith a).css = some (Html.Page.css ⟨r, a⟩) := by
  unfold codeWith
  rw [html]

/-- code depends on what was collected, and on the images in the rules of drawings -/
theorem codeWith_congr (warnings : a.warnings = b.warnings) (agree : a.AgreeOn (.of r.root) b)
    (rules : ∀ ref ∈ r.drawingImages, a.image? ref = b.image? ref) :
    r.codeWith a = r.codeWith b := by
  by_cases html : r.framework = .htmlCss
  · refine page_congr agree.sameFor warnings html fun m hm ref href => ?_
    have emitted : m ∈ r.root.emitted := (written_sublist_emitted r.root).subset hm
    cases drawn : m.isDrawn with
    | true =>
      refine rules ref ?_
      unfold drawingImages
      rw [html]
      exact List.mem_flatMap.mpr ⟨m, List.mem_filter.mpr ⟨hm, drawn⟩, href⟩
    | false =>
      exact (agree.sameFor m emitted).images drawn ref (Html.Page.ruleImages_subset _ m href)
  · exact component_congr agree.sameFor warnings html

/-- an image in the rules of a drawing that was not collected changes the code: its address is in
the stylesheet -/
theorem exists_change {ref : String} (late : ref ∈ r.drawingImages)
    (missing : ref ∉ (AssetNeeds.of r.root).images) :
    ∃ found : Assets, found.warnings = [] ∧ ({} : Assets).AgreeOn (.of r.root) found ∧
      r.codeWith {} ≠ r.codeWith found := by
  unfold drawingImages at late
  split at late
  · cases late
  · cases late
  next html =>
  obtain ⟨m, hm, href⟩ := List.mem_flatMap.mp late
  -- an address that is not in the stylesheet without it
  obtain ⟨url, absent⟩ := Text.exists_not_within (Html.Page.css ⟨r, {}⟩)
  let found : Assets := { images := Dict.set ∅ ref url }
  have known : found.image? ref = some url := (Dict.get?_set ..).trans (if_pos rfl)
  have written : Text.Within url (Html.Page.css ⟨r, found⟩) :=
    Html.Page.within_css ⟨r, found⟩ (List.mem_filter.mp hm).1 href known
  refine ⟨found, rfl, ⟨fun other hother => ?_, fun _ _ => rfl⟩, fun same => ?_⟩
  · refine ((Dict.get?_set ..).trans (if_neg ?_)).symm
    rintro rfl
    exact missing hother
  · have css := congrArg GeneratedCode.css same
    rw [css_codeWith html, css_codeWith html] at css
    exact absent (Option.some.inj css ▸ written)

/-- nothing is missed but the images in the rules of drawings -/
theorem needsSuffice_iff (r : Request) :
    r.NeedsSuffice ↔ ∀ ref ∈ r.drawingImages, ref ∈ (AssetNeeds.of r.root).images := by
  constructor
  · intro suffice ref late
    by_contra missing
    obtain ⟨found, warnings, agree, change⟩ := exists_change late missing
    exact change (suffice {} found warnings.symm agree)
  · intro collected a b warnings agree
    exact codeWith_congr warnings agree fun ref href => agree.images ref (collected ref href)

end Request

/-! ## what is found in a table -/

/-- a table that has all that is needed -/
structure AssetTable.Covers (t : AssetTable) (needs : AssetNeeds) : Prop where
  images : ∀ ref ∈ needs.images, t.images.contains ref = true
  drawings : ∀ id ∈ needs.drawings, t.drawings.contains id = true

namespace Assets

section
variable {needs : AssetNeeds} {t : AssetTable}

theorem resolveImages_table (h : t.Covers needs) :
    resolveImages (.table t) needs.images = (pick t.images needs.images, []) := by
  unfold resolveImages
  split
  · next none => rw [List.isEmpty_iff.mp none]; rfl
  · have found : (needs.images.filter fun ref => !(pick t.images needs.images).contains ref) = [] :=
      List.filter_eq_nil_iff.mpr fun ref href => by
        have there : (pick t.images needs.images).contains ref = true := by
          rw [Dict.contains, get?_pick, if_pos href]
          exact h.images ref href
        rw [there]
        exact Bool.false_ne_true
    show (pick t.images needs.images, [] ++ List.map missingImage (needs.images.filter _)) = _
    rw [found]
    rfl

theorem resolveDrawings_table (t : AssetTable) (ids : List String) :
    resolveDrawings (.table t) ids = (pick t.drawings ids, []) := by
  unfold resolveDrawings
  split
  · next none => rw [List.isEmpty_iff.mp none]; rfl
  · rfl

/-- of a table that has all that is needed just this is taken, and there is nothing to complain
about -/
theorem resolve_table (h : t.Covers needs) :
    resolve needs (.table t)
      = { images := pick t.images needs.images, drawings := pick t.drawings needs.drawings } := by
  unfold resolve
  rw [resolveImages_table h, resolveDrawings_table]
  rfl

theorem image?_resolve_table (h : t.Covers needs) {ref : String} (href : ref ∈ needs.images) :
    ∃ url, t.images.get? ref = some url ∧ (resolve needs (.table t)).image? ref = some url := by
  obtain ⟨url, there⟩ := Option.isSome_iff_exists.mp (h.images ref href)
  refine ⟨url, there, ?_⟩
  rw [resolve_table h]
  exact (get?_pick ..).trans ((if_pos href).trans there)

theorem drawing?_resolve_table (h : t.Covers needs) {id : String} (hid : id ∈ needs.drawings) :
    ∃ document, t.drawings.get? id = some document
      ∧ (resolve needs (.table t)).drawing? id = some document := by
  obtain ⟨document, there⟩ := Option.isSome_iff_exists.mp (h.drawings id hid)
  refine ⟨document, there, ?_⟩
  rw [resolve_table h]
  exact (get?_pick ..).trans ((if_pos hid).trans there)

end
end Assets

/-! ## what is shown -/

/-- what is shown of a node is what a table has, and no placeholder -/
structure AssetTable.IsShown (t : AssetTable) (found : Assets) (n : StyledNode) : Prop where
  images : n.isDrawn = false → ∀ ref ∈ AssetNeeds.nodeImages n.toStyledData,
    t.images.get? ref = some (imageUrl found n.toStyledData ref)
  mask : n.isDrawn = false → (maskUrl? found n.toStyledData).isSome = n.maskImageRef.isSome
  drawing : n.isDrawn = true →
    ∃ document, t.drawings.get? n.id = some document
      ∧ drawingDocument found n.toStyledData = (document, [])

theorem AssetTable.Covers.isShown {root : StyledNode} {t : AssetTable} (h : t.Covers (.of root)) :
    ∀ n ∈ root.emitted, t.IsShown (Assets.resolve (.of root) (.table t)) n := by
  intro n hn
  have image (plain : n.isDrawn = false) {ref : String}
      (href : ref ∈ AssetNeeds.nodeImages n.toStyledData) :=
    Assets.image?_resolve_table h (AssetNeeds.mem_images_of.mpr ⟨n, hn, plain, href⟩)
  constructor
  case images =>
    intro plain ref href
    obtain ⟨url, there, found⟩ := image plain href
    rw [imageUrl, Assets.imageOr, found]
    exact there
  case mask =>
    intro plain
    unfold maskUrl?
    cases mask : n.maskImageRef with
    | none => rfl
    | some ref =>
      obtain ⟨url, there, found⟩ := image plain (mem_nodeImages_of_mask mask)
      exact Option.isSome_iff_exists.mpr ⟨url, found⟩
  case drawing =>
    intro drawn
    obtain ⟨document, there, found⟩ := Assets.drawing?_resolve_table h
      (AssetNeeds.mem_drawings_of.mpr ⟨n, hn, drawn, rfl⟩)
    refine ⟨document, there, ?_⟩
    unfold drawingDocument
    rw [found]

namespace Request

/-- the warnings of code are those of its assets, and those of its drawings -/
theorem warnings_codeWith (r : Request) (assets : Assets) :
    (r.codeWith assets).warnings
      = assets.warnings ++ (drawnNodes r.root).flatMap fun n => (drawingDocument assets n).2 := by
  have component : (React.renderer r assets).drawings.warnings
      = (drawnNodes r.root).flatMap fun n => (drawingDocument assets n).2 :=
    React.Drawings.warnings_of r.options.svgMode assets r.root
  unfold codeWith
  split
  · dsimp only
    rw [component]
  · dsimp only
    rw [component]
  · rfl

theorem warnings_generate {r : Request} {t : AssetTable} (h : t.Covers (.of r.root)) :
    (r.generate (.table t)).warnings = [] := by
  have complaints : (Assets.resolve (.of r.root) (.table t)).warnings = [] := by
    rw [Assets.resolve_table h]
  have drawings : (drawnNodes r.root).flatMap
      (fun n => (drawingDocument (Assets.resolve (.of r.root) (.table t)) n).2) = [] := by
    refine List.flatMap_eq_nil_iff.mpr fun d hd => ?_
    obtain ⟨n, hn, rfl⟩ := List.mem_map.mp hd
    obtain ⟨emitted, drawn⟩ := List.mem_filter.mp hn
    obtain ⟨document, _, shown⟩ := (h.isShown n emitted).drawing drawn
    rw [shown]
  rw [generate, warnings_codeWith, complaints, drawings]
  rfl

/-- **All that is looked up was collected, but for the images in the rules of drawings.**  For every
tree, framework and rules:

* the code of a request depends on nothing that was not collected if and only if the images in the
  rules of its drawings were collected for some other node; for a component there are none of them;
* where a table has all that was collected, it is what is shown of each node, and there are no
  placeholders. -/
theorem collection_complete (r : Request) :
    (r.NeedsSuffice ↔ ∀ ref ∈ r.drawingImages, ref ∈ (AssetNeeds.of r.root).images) ∧
      ∀ t : AssetTable, t.Covers (.of r.root) →
        (r.generate (.table t)).warnings = [] ∧
        ∀ n ∈ r.root.emitted, t.IsShown (Assets.resolve (.of r.root) (.table t)) n :=
  ⟨needsSuffice_iff r, fun _ h => ⟨warnings_generate h, h.isShown⟩⟩

/-- a card with a photo and an arrow, for every framework -/
theorem collection_complete_card :
    let photo : DesignNode := ⟨{
      id := "2", name := "Photo", kind := .rectangle
      payload := .shape { fills := [{ fill := .image { imageRef := some "photo" } }] } {} {} }, []⟩
    let arrow : DesignNode := ⟨{
      id := "3", name := "Arrow", kind := .vector, payload := .vector {} {} }, []⟩
    let card : DesignNode := ⟨{
      id := "1", name := "Card", kind := .frame, payload := .container {} }, [photo, arrow]⟩
    let t : AssetTable := {
      images := Dict.ofList [("photo", "photo.png")], drawings := Dict.ofList [("3", "<svg/>")] }
    ∃ tree, ({} : Session).Yields card tree ∧ AssetNeeds.of tree = ⟨["photo"], ["3"]⟩ ∧
      ∀ framework, let r : Request := { root := tree, framework }
        r.NeedsSuffice ∧ (r.generate (.table t)).warnings = [] ∧
        ∀ n ∈ tree.emitted, t.IsShown (Assets.resolve (.of tree) (.table t)) n := by
  intro photo arrow card t
  have styled : (({} : Session).style card).1.map (fun tree =>
      (AssetNeeds.of tree, drawingImages { root := tree, framework := .htmlCss }))
        = some (⟨["photo"], ["3"]⟩, []) := by decide
  obtain ⟨tree, h, found⟩ := Option.map_eq_some_iff.mp styled
  obtain ⟨needs, late⟩ := Prod.mk.inj found
  refine ⟨tree, .styled h, needs, fun framework => ?_⟩
  have covers : t.Covers (.of tree) := needs ▸ ⟨by decide, by decide⟩
  obtain ⟨suffice, shown⟩ := collection_complete { root := tree, framework }
  refine ⟨suffice.mpr ?_, shown t covers⟩
  cases framework with
  | reactTailwind => exact fun _ h => nomatch h
  | reactTailwindV4 => exact fun _ h => nomatch h
  | htmlCss => exact late ▸ fun _ h => nomatch h

/-- a vector behind a mask: the mask is not collected, but where it is known a page shows it -/
theorem mask_of_drawing_missed :
    let mask : DesignNode := ⟨{
      id := "2", name := "Mask", kind := .rectangle, isMask := true
      payload := .shape { fills := [{ fill := .image { imageRef := some "ref" } }] } {} {} }, []⟩
    let shape : DesignNode := ⟨{
      id := "3", name := "Shape", kind := .vector, payload := .vector {} {} }, []⟩
    let masked : DesignNode := ⟨{ id := "1", name := "Masked", kind := .group }, [mask, shape]⟩
    let t : AssetTable := {
      images := Dict.ofList [("ref", "mask.png")], drawings := Dict.ofList [("3", "<svg/>")] }
    masked.WellFormed ∧ ∃ tree, ({} : Session).Yields masked tree ∧
      let r : Request := { root := tree, framework := .htmlCss }
      AssetNeeds.of tree = ⟨[], ["3"]⟩ ∧ ¬ r.NeedsSuffice ∧
      (r.generate (.table t)).css ≠ (r.codeWith { toAssetTable := t }).css := by
  intro mask shape masked t
  have styled : (({} : Session).style masked).1.map (fun tree =>
      let r : Request := { root := tree, framework := .htmlCss }
      (AssetNeeds.of tree, r.drawingImages,
        decide ((r.generate (.table t)).css = (r.codeWith { toAssetTable := t }).css)))
        = some (⟨[], ["3"]⟩, ["ref"], false) := by decide +kernel
  obtain ⟨tree, h, found⟩ := Option.map_eq_some_iff.mp styled
  obtain ⟨needs, rest⟩ := Prod.mk.inj found
  obtain ⟨late, different⟩ := Prod.mk.inj rest
  refine ⟨by decide, tree, .styled h, needs, fun suffice => ?_, of_decide_eq_false different⟩
  have collected := (needsSuffice_iff _).mp suffice "ref" (late ▸ List.mem_singleton_self _)
  rw [needs] at collected
  cases collected

end Request
end Handoff
