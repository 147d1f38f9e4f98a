import Handoff.Proofs.Markup.Delimited
import Handoff.Proofs.Naming.Ordinary
import Handoff.Proofs.React.Unquoted
import Handoff.Proofs.Styled.Written
import Handoff.React.Component

/-!
# The texts between the delimiters of a component

Defaults of props are escaped, and so are all attributes but three: class lists, the strings of style
objects and the addresses of drawings.  Neither are the definitions of the variables.  Drawings have
ordinary addresses, so what is left is what a tree, its rules, its assets and its variables bring
along.

* `Renderer.delimited`       the texts between delimiters, and `within_componentText`, that they stand
                             in the code;
* `Variables.read_rootBlock`   the definitions of the variables are broken where a value is;
* `Renderer.Exposes`         how a node brings a text into the code that is not kept;
* `kept_or_exposed`          all other texts of the elements are kept;
* `Request.kept_iff_of_component`   and all others of the whole component.
-/

namespace Handoff
open Text StyledNode

/-! ## variables -/

namespace Variables

def definitionText (vs : Variables) (e : String × Variable) : String :=
  "  --" ++ vs.customProperty e.1 ++ ": " ++ e.2.cssValue ++ ";"

theorem read_definitionText (vs : Variables) (e : String × Variable) :
    Enclosure.template.read .plain (vs.definitionText e).toList =
      (Enclosure.template.read .plain e.2.cssValue.toList).map fun _ => .plain := by
  have front : Ordinary ("  --" ++ vs.customProperty e.1 ++ ": ") :=
    ((by decide : Ordinary "  --").append (ordinary_customProperty vs e.1)).append (by decide)
  rw [definitionText, String.toList_append, String.toList_append]
  exact Enclosure.read_around front (by decide) (by decide) (List.forall_mem_nil _)

/-- a value that is read to its end leaves the definitions whole -/
theorem read_rootBlock (vs : Variables) :
    Enclosure.template.read .plain vs.rootBlock.toList =
      if ∀ e ∈ vs.entries, Enclosure.template.read .plain e.2.cssValue.toList ≠ none
      then some .plain else none := by
  unfold rootBlock
  split
  · next empty =>
    rw [if_pos]
    · rfl
    · rw [List.isEmpty_iff.mp empty]
      exact List.forall_mem_nil _
  · have line (e : String × Variable) :
        Enclosure.template.read .plain (vs.definitionText e).toList = some .plain
          ∨ Enclosure.template.read .plain (vs.definitionText e).toList = none := by
      rw [read_definitionText]
      cases Enclosure.template.read .plain e.2.cssValue.toList with
      | none => exact .inr rfl
      | some p => exact .inl rfl
    have whole (e : String × Variable) :
        Enclosure.template.read .plain (vs.definitionText e).toList = some .plain
          ↔ Enclosure.template.read .plain e.2.cssValue.toList ≠ none := by
      rw [read_definitionText]
      cases Enclosure.template.read .plain e.2.cssValue.toList <;> simp
    have opening : Enclosure.template.read .plain ":root \x7b".toList = some .plain := by decide
    have closing : Enclosure.template.read .plain "\x7d".toList = some .plain := by decide
    rw [String.toList_intercalate, Enclosure.read_intercalate (by decide : Ordinary "\n")]
    · simp only [List.map_append, List.map_map, List.forall_mem_append, List.forall_mem_map,
        List.map_cons, List.map_nil, List.forall_mem_singleton, opening, closing, true_and, and_true]
      simp only [← whole]
      rfl
    · simp only [List.map_append, List.map_map, List.forall_mem_append, List.forall_mem_map,
        List.map_cons, List.map_nil, List.forall_mem_singleton, opening, closing, true_or, true_and,
        and_true]
      exact fun e _ => line e

theorem kept_rootBlock_iff (vs : Variables) : Delimited.Kept ⟨.template, vs.rootBlock⟩ ↔
    ∀ e ∈ vs.entries, ¬ Delimited.Broken ⟨.template, e.2.cssValue⟩ := by
  rw [Delimited.Kept, Enclosure.keeps_iff, read_rootBlock]
  split
  · next whole => exact iff_of_true ⟨.plain, rfl, by decide⟩ whole
  · next broken =>
    refine iff_of_false ?_ broken
    rintro ⟨_, ⟨⟩, _⟩

end Variables

/-! ## images -/

theorem kept_quotedCssUrl_iff {url : String} :
    Delimited.Kept ⟨.script, quotedCssUrl url⟩ ↔ ¬ Delimited.Broken ⟨.script, url⟩ := by
  have text : (quotedCssUrl url).toList = "url('".toList ++ url.toList ++ '\'' :: ")".toList := by
    rw [← String.toList_append]
    simp [quotedCssUrl, cssUrl]
  rw [Delimited.Kept, Delimited.Broken, Enclosure.keeps_iff]
  dsimp only
  rw [text, Enclosure.read_around (by decide : Ordinary "url('") (by decide) (by decide)
    (by decide : Ordinary ")")]
  cases Enclosure.script.read .plain url.toList <;> simp

theorem ordinary_rgba (c : Color) (alpha : Float) : Ordinary (c.rgba alpha) := by
  have comma : Ordinary ", " := by decide
  exact ((((((((by decide : Ordinary "rgba(").append (ordinary_toString _)).append comma).append
    (ordinary_toString _)).append comma).append (ordinary_toString _)).append comma).append
    (Decimal.ordinary_trimmed _)).append (by decide)

/-! ## the code of a component -/

namespace React

theorem mem_intersperse {α : Type} {sep a : α} {l : List α} (h : a ∈ l) :
    a ∈ l.intersperse sep := by
  induction l with
  | nil => cases h
  | cons b l ih =>
    cases l with
    | nil => exact h
    | cons b' l =>
      rw [List.intersperse_cons_cons]
      rcases List.mem_cons.mp h with rfl | h
      · exact List.mem_cons_self
      · exact List.mem_cons_of_mem _ (List.mem_cons_of_mem _ (ih h))

/-- there is a line for every prop -/
theorem mem_propLines {ps : Props} {b : Binding} (hb : b ∈ ps.bindings.values)
    (line : Binding → String) : line b ∈ propLines ps line := by
  obtain ⟨heading, hh⟩ : ∃ heading, (b.kind, heading) ∈ propHeadings := by
    cases b.kind with
    | text => exact ⟨_, List.mem_cons_self⟩
    | image => exact ⟨_, List.mem_cons_of_mem _ List.mem_cons_self⟩
  have own : b ∈ ps.ofKind b.kind := List.mem_filter.mpr ⟨hb, decide_eq_true rfl⟩
  unfold propLines
  refine List.mem_flatten.mpr ⟨("  " ++ heading) :: (ps.ofKind b.kind).map line,
    mem_intersperse (List.mem_filterMap.mpr ⟨_, hh, ?_⟩),
    List.mem_cons_of_mem _ (List.mem_map_of_mem own)⟩
  dsimp only
  split
  · next empty =>
    rw [empty] at own
    exact absurd own List.not_mem_nil
  · rfl

theorem within_parameterText (name : String) {ps : Props} {b : Binding}
    (hb : b ∈ ps.bindings.values) :
    Within (Attribute.quotes (Escape.script b.default)) (parameterText name ps) := by
  have mark : " = \"" = " = " ++ "\"" := by decide
  have line : Within (Attribute.quotes (Escape.script b.default))
      ("  " ++ b.name ++ " = \"" ++ Escape.script b.default ++ "\",") :=
    Delimited.within_around .script (Escape.script b.default) ("  " ++ b.name ++ " = ") ","
      (by rw [mark, String.append_assoc, String.append_assoc]; rfl) (by decide)
  exact ((((line.trans (within_intercalate (mem_propLines hb fun b =>
    "  " ++ b.name ++ " = \"" ++ Escape.script b.default ++ "\","))).append_left _).append_right
      _).append_right _).append_right _

theorem within_importText {files : List ExportedFile} {f : ExportedFile} (hf : f ∈ files) :
    Within (Attribute.quotes f.path) (importText files) := by
  have mark : " from \"" = " from " ++ "\"" := by decide
  have line : Within (Attribute.quotes f.path)
      ("import " ++ f.importName ++ " from \"" ++ f.path ++ "\";") :=
    Delimited.within_around .script f.path ("import " ++ f.importName ++ " from ") ";"
      (by rw [mark, String.append_assoc, String.append_assoc]; rfl) (by decide)
  have listed : Within (Attribute.quotes f.path) (String.intercalate "\n"
      (files.map fun f => "import " ++ f.importName ++ " from \"" ++ f.path ++ "\";")) :=
    line.trans (within_intercalate (List.mem_map_of_mem hf))
  unfold importText
  cases files with
  | nil => cases hf
  | cons g files => exact listed.append_right _

theorem within_styleText (definitions : String) :
    Within (Delimited.written ⟨.template, definitions⟩) (styleText (some definitions)) :=
  Delimited.within_around .template definitions
    "      <style dangerouslySetInnerHTML=\x7b\x7b __html: " " \x7d\x7d />\n" (by decide) (by decide)

namespace Renderer
variable (c : Renderer)

/-- the texts between delimiters that a component is written with -/
def delimited : List Delimited :=
  c.drawings.files.map (fun f => ⟨.script, f.path⟩)
    ++ c.props.bindings.values.map (fun b => ⟨.script, Escape.script b.default⟩)
    ++ (c.request.rootVariables.map fun s => ⟨.template, s⟩).toList
    ++ delimitedTexts c.root?.toList

theorem componentText_eq : c.componentText =
    importText c.drawings.files
      ++ (if c.props.isEmpty then "" else interfaceText c.request.componentName c.props)
      ++ "export function " ++ c.request.componentName ++ "("
      ++ (if c.props.isEmpty then "" else parameterText c.request.componentName c.props)
      ++ ") \x7b\n  return (\n    <>\n" ++ styleText c.request.rootVariables ++ markupText c.root?
      ++ "    </>\n  );\n\x7d" := by
  unfold componentText
  cases c.props.isEmpty <;> rfl

/-- each of them stands in the code, between its delimiters -/
theorem within_componentText : ∀ d ∈ c.delimited, Within d.written c.componentText := by
  rw [componentText_eq]
  simp only [delimited, List.forall_mem_append, List.forall_mem_map]
  refine ⟨⟨⟨fun f hf => ?_, fun b hb => ?_⟩, fun d hd => ?_⟩, fun d hd => ?_⟩
  · have imported : Within _ (importText c.drawings.files) := within_importText hf
    simp only [String.append_assoc]
    exact imported.append_right _
  · have given : c.props.isEmpty = false := by
      cases empty : c.props.isEmpty with
      | false => rfl
      | true =>
        rw [Dict.values, List.isEmpty_iff.mp empty] at hb
        exact absurd hb List.not_mem_nil
    have parameter := within_parameterText c.request.componentName hb
    rw [given]
    exact ((((parameter.append_left _).append_right _).append_right _).append_right _).append_right _
  · obtain ⟨s, hs, rfl⟩ := Option.map_eq_some_iff.mp (Option.mem_toList.mp hd)
    rw [hs]
    exact (((within_styleText s).append_left _).append_right _).append_right _
  · have printed : Within d.written (markupText c.root?) := by
      cases h : c.root? with
      | none =>
        rw [h] at hd
        exact absurd hd List.not_mem_nil
      | some e =>
        rw [h] at hd
        exact e.within_render 3 d hd
    exact (printed.append_left _).append_right _

/-! ## what nodes bring along -/

/-- the class lists of the elements that a node can be made into -/
inductive ClassesOf (n : StyledNode) : List String → Prop
  | drawing : ClassesOf n (drawingClasses n.toStyledData (c.request.styles n.toStyledData))
  | element (overlap : Option Overlap) :
      ClassesOf n (c.elementClasses overlap n (c.shownStyles n))
  | image (overlap : Option Overlap) (mode : ScaleMode) :
      ClassesOf n (c.elementClasses overlap n (c.shownStyles n) ++ ["object-" ++ mode.objectFit])

/-- how a node brings a text into the code that is not kept -/
inductive Exposes (n : StyledNode) : Delimited → Prop
  /-- by a quote in what its classes are made from -/
  | classes {classes : List String} {source : String} (own : c.ClassesOf n classes)
      (given : source ∈ c.request.classSources n.toStyledData) (quoted : ¬ Unquoted source)
      (written : ¬ Unquoted (c.classText classes)) : Exposes n ⟨.attribute, c.classText classes⟩
  /-- by the address of its mask -/
  | mask {url : String} (known : maskUrl? c.assets n.toStyledData = some url)
      (broken : Delimited.Broken ⟨.script, url⟩) : Exposes n ⟨.script, quotedCssUrl url⟩
  /-- by a gradient among its fills -/
  | gradient {layer : FillLayer} {css : String} (fill : layer ∈ n.fills)
      (kind : layer.kind = .gradient css) (lost : ¬ Delimited.Kept ⟨.script, css⟩) :
      Exposes n ⟨.script, css⟩

variable {c} {n : StyledNode} {d : Delimited}

theorem ClassesOf.unquoted {classes : List String} (own : c.ClassesOf n classes)
    (h : ∀ s ∈ c.request.classSources n.toStyledData, Unquoted s) :
    ∀ cls ∈ classes, Unquoted cls := by
  cases own with
  | drawing => exact c.unquoted_drawingClasses h
  | element overlap => exact c.unquoted_elementClasses overlap h
  | image overlap mode =>
    refine List.forall_mem_append.mpr ⟨c.unquoted_elementClasses overlap h, ?_⟩
    refine List.forall_mem_singleton.mpr ((by decide : Unquoted "object-").append ?_)
    cases mode <;> decide

theorem Exposes.not_kept (h : c.Exposes n d) : ¬ d.Kept := by
  cases h with
  | classes _ _ _ written => exact fun kept => written (Delimited.kept_attribute_iff.mp kept)
  | mask _ broken => exact fun kept => kept_quotedCssUrl_iff.mp kept broken
  | gradient _ _ lost => exact lost

/-! ## the elements of a node -/

theorem classMarkup_cases {classes : List String} (own : c.ClassesOf n classes) :
    ∀ d ∈ delimitedIn (c.classMarkup classes), d.Kept ∨ c.Exposes n d := by
  intro d hd
  have text : d = ⟨.attribute, c.classText classes⟩ := by
    unfold classMarkup at hd
    dsimp only at hd
    split at hd
    · exact absurd hd List.not_mem_nil
    · exact List.mem_singleton.mp hd
  rw [text]
  by_cases written : Unquoted (c.classText classes)
  · exact .inl (Delimited.kept_attribute_iff.mpr written)
  · right
    have quoted : ¬ ∀ s ∈ c.request.classSources n.toStyledData, Unquoted s := fun h =>
      written (c.unquoted_classText (own.unquoted h))
    simp only [not_forall] at quoted
    obtain ⟨source, given, quoted⟩ := quoted
    exact .classes own given quoted written

theorem maskMarkup_cases (n : StyledNode) :
    ∀ d ∈ delimitedIn (c.maskMarkup n.toStyledData), d.Kept ∨ c.Exposes n d := by
  intro d hd
  unfold maskMarkup at hd
  split at hd
  · next url known =>
    have image : Delimited.Kept ⟨.script, quotedCssUrl url⟩
        ∨ c.Exposes n ⟨.script, quotedCssUrl url⟩ := by
      by_cases broken : Delimited.Broken ⟨.script, url⟩
      · exact .inr (.mask known broken)
      · exact .inl (kept_quotedCssUrl_iff.mpr broken)
    have fixed : ∀ word ∈ ["contain", "no-repeat", "center"], Delimited.Kept ⟨.script, word⟩ := by
      decide
    simp only [delimitedIn, AttributeValue.delimited, List.flatMap_cons, List.flatMap_nil,
      List.append_nil, List.map_cons, List.map_nil, List.mem_cons, List.not_mem_nil, or_false] at hd
    rcases hd with rfl | rfl | rfl | rfl | rfl | rfl | rfl | rfl
    · exact image
    · exact image
    · exact .inl (fixed _ (by decide))
    · exact .inl (fixed _ (by decide))
    · exact .inl (fixed _ (by decide))
    · exact .inl (fixed _ (by decide))
    · exact .inl (fixed _ (by decide))
    · exact .inl (fixed _ (by decide))
  · exact absurd hd List.not_mem_nil

theorem layerElement_cases {corners : String} (hc : Ordinary corners) {layer : FillLayer}
    (fill : layer ∈ n.fills) :
    ∀ d ∈ delimitedTexts [c.layerElement n.toStyledData corners layer],
      d.Kept ∨ c.Exposes n d := by
  have box : Ordinary "absolute inset-0" := by decide
  unfold layerElement
  dsimp only
  cases kind : layer.kind with
  | image ref mode =>
    have fit : Ordinary mode.objectFit := by cases mode <;> decide
    have classes := (box.append (t := " w-full h-full object-") (by decide)).append fit
    simp only [delimitedTexts_closed, delimitedIn, AttributeValue.delimited, List.flatMap_cons,
      List.flatMap_nil, List.append_nil, List.singleton_append, List.forall_mem_cons,
      List.not_mem_nil, false_implies, implies_true, and_true]
    exact ⟨.inl (Delimited.kept_attributeValue _),
      .inl (Delimited.kept_of_ordinary _ (classes.append hc)),
      .inl (Delimited.kept_attributeValue _)⟩
  | solid color =>
    simp only [delimitedTexts_closed, delimitedIn, AttributeValue.delimited, List.flatMap_cons,
      List.flatMap_nil, List.append_nil, List.singleton_append, List.map_cons, List.map_nil,
      List.forall_mem_cons, List.not_mem_nil, false_implies, implies_true, and_true]
    exact ⟨.inl (Delimited.kept_of_ordinary _ (box.append hc)),
      .inl (Delimited.kept_of_ordinary _ (ordinary_rgba color _))⟩
  | gradient css =>
    simp only [delimitedTexts_closed, delimitedIn, AttributeValue.delimited, List.flatMap_cons,
      List.flatMap_nil, List.append_nil, List.singleton_append, List.map_cons, List.map_nil,
      List.forall_mem_cons, List.not_mem_nil, false_implies, implies_true, and_true]
    refine ⟨.inl (Delimited.kept_of_ordinary _ (box.append hc)), ?_⟩
    by_cases kept : Delimited.Kept ⟨.script, css⟩
    · exact .inl kept
    · exact .inr (.gradient fill kind kept)

theorem layersElement_cases (n : StyledNode) :
    ∀ d ∈ delimitedTexts [c.layersElement n.toStyledData], d.Kept ∨ c.Exposes n d := by
  have layers {corners : String} (hc : Ordinary corners) : ∀ {l : List FillLayer}, l ⊆ n.fills →
      ∀ d ∈ delimitedTexts (l.map (c.layerElement n.toStyledData corners)),
        d.Kept ∨ c.Exposes n d := by
    intro l
    induction l with
    | nil => exact fun _ => List.forall_mem_nil _
    | cons layer l ih =>
      intro sub
      rw [List.map_cons, delimitedTexts_cons]
      exact List.forall_mem_append.mpr ⟨layerElement_cases hc (sub List.mem_cons_self),
        ih fun x hx => sub (List.mem_cons_of_mem _ hx)⟩
  have around {extra corners : String} (he : Ordinary extra) (hc : Ordinary corners) :
      ∀ d ∈ delimitedTexts [.block "div" [⟨"aria-hidden", .text "true"⟩,
        ⟨"className", .verbatim ("absolute inset-0 pointer-events-none" ++ extra)⟩]
        (n.fills.map (c.layerElement n.toStyledData corners))], d.Kept ∨ c.Exposes n d := by
    rw [delimitedTexts_block]
    refine List.forall_mem_append.mpr ⟨?_, layers hc (List.Subset.refl _)⟩
    refine List.forall_mem_cons.mpr ⟨.inl (Delimited.kept_attributeValue _),
      List.forall_mem_singleton.mpr (.inl (Delimited.kept_of_ordinary _ ?_))⟩
    exact Ordinary.append (by decide) he
  unfold layersElement
  split
  next extra corners e =>
  split at e
  · obtain ⟨rfl, rfl⟩ := Prod.mk.inj e
    exact around (by decide) (by decide)
  · obtain ⟨rfl, rfl⟩ := Prod.mk.inj e
    exact around (by decide) (by decide)

theorem kept_altMarkup (n : StyledData) (unnamed : String) :
    ∀ d ∈ (altMarkup n unnamed).value.delimited, d.Kept := fun d hd => by
  rw [List.mem_singleton.mp hd]
  exact Delimited.kept_attributeValue _

theorem kept_imageSource (n : StyledData) (ref : String) :
    ∀ d ∈ (c.imageSource n ref).delimited, d.Kept := by
  unfold imageSource
  split
  · exact List.forall_mem_nil _
  · exact List.forall_mem_singleton.mpr (Delimited.kept_attributeValue _)

/-- an image with its classes and its source -/
theorem image_cases {classes : List String} (own : c.ClassesOf n classes) (unnamed : String)
    {source : AttributeValue} (hs : ∀ d ∈ source.delimited, d.Kept) :
    ∀ d ∈ delimitedTexts [.closed "img" (dataMarkup n.toStyledData ++ c.classMarkup classes
      ++ [altMarkup n.toStyledData unnamed, ⟨"src", source⟩])], d.Kept ∨ c.Exposes n d := by
  rw [delimitedTexts_closed, delimitedIn_append, delimitedIn_append]
  refine List.forall_mem_append.mpr ⟨List.forall_mem_append.mpr
    ⟨fun d hd => .inl (kept_dataMarkup _ d hd), classMarkup_cases own⟩, fun d hd => .inl ?_⟩
  obtain ⟨a, ha, hd⟩ := List.mem_flatMap.mp hd
  rcases List.mem_cons.mp ha with rfl | ha
  · exact kept_altMarkup _ _ d hd
  · rw [List.mem_singleton.mp ha] at hd
    exact hs d hd

theorem boxElement_cases {classes : List String} (own : c.ClassesOf n classes)
    (es : List Element) : ∀ d ∈ delimitedTexts [c.boxElement n classes es],
      d.Kept ∨ c.Exposes n d ∨ d ∈ delimitedTexts es := by
  have front : ∀ d ∈ delimitedIn (dataMarkup n.toStyledData ++ c.classMarkup classes
      ++ c.maskMarkup n.toStyledData), d.Kept ∨ c.Exposes n d := by
    rw [delimitedIn_append, delimitedIn_append]
    exact List.forall_mem_append.mpr ⟨List.forall_mem_append.mpr
      ⟨fun d hd => .inl (kept_dataMarkup _ d hd), classMarkup_cases own⟩, maskMarkup_cases n⟩
  intro d hd
  unfold boxElement at hd
  dsimp only at hd
  split at hd
  · rw [delimitedTexts_block, delimitedTexts_cons] at hd
    rcases List.mem_append.mp hd with hd | hd
    · exact (front d hd).imp_right .inl
    · rcases List.mem_append.mp hd with hd | hd
      · exact (layersElement_cases n d hd).imp_right .inl
      · exact .inr (.inr hd)
  · split at hd
    · rw [delimitedTexts_closed] at hd
      exact (front d hd).imp_right .inl
    · rw [delimitedTexts_block] at hd
      rcases List.mem_append.mp hd with hd | hd
      · exact (front d hd).imp_right .inl
      · exact .inr (.inr hd)

theorem nodeElement_cases (overlap : Option Overlap) (n : StyledNode) (es : List Element) :
    ∀ d ∈ delimitedTexts [c.nodeElement overlap n es],
      d.Kept ∨ c.Exposes n d ∨ n.isText = false ∧ d ∈ delimitedTexts es := by
  intro d hd
  unfold nodeElement at hd
  dsimp only at hd
  cases text : n.isText with
  | true =>
    rw [text, if_pos rfl, delimitedTexts_leaf, delimitedIn_append] at hd
    rcases List.mem_append.mp hd with hd | hd
    · exact .inl (kept_dataMarkup _ d hd)
    · exact (classMarkup_cases (.element overlap) d hd).imp_right .inl
  | false =>
    rw [text, if_neg Bool.false_ne_true] at hd
    split at hd
    · exact (image_cases (.image overlap _) _ (kept_imageSource _ _) d hd).imp_right .inl
    · exact (boxElement_cases (.element overlap) es d hd).imp_right fun h => h.imp_right fun inside =>
        ⟨rfl, inside⟩

theorem kept_drawingSource (n : StyledData)
    (addresses : ∀ id url, c.drawings.sources.get? id = some (.address url) → Ordinary url) :
    ∀ d ∈ (c.drawingSource n).delimited, d.Kept := by
  unfold drawingSource
  split
  · exact List.forall_mem_nil _
  · next url known =>
    exact List.forall_mem_singleton.mpr (Delimited.kept_of_ordinary _ (addresses _ url known))
  · exact List.forall_mem_singleton.mpr (Delimited.kept_of_ordinary _ (ordinary_svgUrl _))

/-- what is not kept in the elements of a tree is brought along by a node that is written -/
theorem kept_or_exposed
    (addresses : ∀ id url, c.drawings.sources.get? id = some (.address url) → Ordinary url)
    (n : StyledNode) : ∀ overlap, ∀ d ∈ delimitedTexts (c.element? overlap n).toList,
      d.Kept ∨ ∃ m ∈ n.written, c.Exposes m d := by
  induction n using StyledNode.forest (Q := fun ns => ∀ overlap,
    ∀ d ∈ delimitedTexts (c.elements overlap ns),
      d.Kept ∨ ∃ m ∈ writtenAll ns, c.Exposes m d) with
  | node data cs ih =>
    intro overlap d hd
    unfold element? at hd
    cases rendered : data.isRendered with
    | false =>
      rw [rendered] at hd
      exact absurd hd List.not_mem_nil
    | true =>
      rw [rendered] at hd
      simp only [Bool.not_true, Bool.false_eq_true, if_false] at hd
      have self : (⟨data, cs⟩ : StyledNode) ∈ written ⟨data, cs⟩ := mem_written_self rendered
      cases drawn : isDrawn ⟨data, cs⟩ with
      | true =>
        rw [drawn, if_pos rfl] at hd
        exact (image_cases (n := ⟨data, cs⟩) .drawing _ (kept_drawingSource data addresses) d
          hd).imp_right fun own => ⟨_, self, own⟩
      | false =>
        rw [drawn, if_neg Bool.false_ne_true] at hd
        rcases nodeElement_cases overlap _ _ d hd with kept | own | ⟨text, inside⟩
        · exact .inl kept
        · exact .inr ⟨_, self, own⟩
        · have text : data.isText = false := text
          rw [written_box rendered (by rw [drawn, text]; rfl)]
          exact (ih data.overlap d inside).imp_right fun ⟨m, hm, exposed⟩ =>
            ⟨m, List.mem_cons_of_mem _ hm, exposed⟩
  | nil overlap d hd => exact absurd hd List.not_mem_nil
  | cons n ns ih ihs overlap d hd =>
    have hd : d ∈ delimitedTexts ((c.element? (if ns.isEmpty then none else overlap) n).toList
      ++ c.elements overlap ns) := hd
    rw [delimitedTexts_append] at hd
    rcases List.mem_append.mp hd with hd | hd
    · exact (ih _ d hd).imp_right fun ⟨m, hm, exposed⟩ => ⟨m, List.mem_append_left _ hm, exposed⟩
    · exact (ihs overlap d hd).imp_right fun ⟨m, hm, exposed⟩ =>
        ⟨m, List.mem_append_right _ hm, exposed⟩

end Renderer

/-! ## drawings -/

/-- addresses and files that mean nothing to a reader -/
structure Drawings.Plain (ds : Drawings) : Prop where
  addresses : ∀ id url, ds.sources.get? id = some (.address url) → Ordinary url
  files : ∀ f ∈ ds.files, Ordinary f.path

theorem Drawings.Plain.add {ds : Drawings} (h : ds.Plain) (mode : SvgMode) (assets : Assets)
    (n : StyledData) : (ds.add mode assets n).Plain := by
  cases mode with
  | inlined =>
    refine ⟨fun id url get => ?_, h.files⟩
    have get : (ds.sources.set n.id
        (.address (Escape.svgUrl (drawingDocument assets n).1))).get? id = some (.address url) := get
    rw [Dict.get?_set] at get
    split at get
    · obtain rfl := DrawingSource.address.inj (Option.some.inj get)
      exact ordinary_svgUrl _
    · exact h.addresses id url get
  | exported =>
    let name := Naming.freshVariable (ds.files.map ExportedFile.importName) n.name
    constructor
    · intro id url get
      have get : (ds.sources.set n.id (.imported name)).get? id = some (.address url) := get
      rw [Dict.get?_set] at get
      split at get
      · cases get
      · exact h.addresses id url get
    · refine List.forall_mem_append.mpr ⟨h.files, List.forall_mem_singleton.mpr ?_⟩
      exact Ordinary.append (by decide)
        ((Naming.ordinary_freshVariable _ _).append (by decide))

theorem Drawings.plain_of (mode : SvgMode) (assets : Assets) (root : StyledNode) :
    (Drawings.of mode assets root).Plain := by
  have foldl (nodes : List StyledData) : ∀ ds : Drawings, ds.Plain →
      (nodes.foldl (Drawings.add mode assets) ds).Plain := by
    induction nodes with
    | nil => exact fun _ h => h
    | cons n nodes ih => exact fun ds h => ih _ (h.add mode assets n)
  exact foldl _ {} ⟨fun _ _ get => (nomatch get), List.forall_mem_nil _⟩

end React

/-! ## what is not kept -/

namespace Request

/-- how a text that is not kept comes into a component -/
inductive ComponentExposes (r : Request) (assets : Assets) : Delimited → Prop
  | node {n : StyledNode} {d : Delimited} (written : n ∈ r.root.written)
      (exposed : (React.renderer r assets).Exposes n d) : ComponentExposes r assets d
  /-- by the value of a variable -/
  | definition {e : String × Variable} (given : e ∈ r.variableTable.entries)
      (broken : Delimited.Broken ⟨.template, e.2.cssValue⟩) :
      ComponentExposes r assets ⟨.template, r.variableTable.rootBlock⟩

theorem kept_iff_of_component (r : Request) (assets : Assets) :
    ∀ d ∈ (React.renderer r assets).delimited, d.Kept ↔ ¬ r.ComponentExposes assets d := by
  have plain := React.Drawings.plain_of r.options.svgMode assets r.root
  have cases_ : ∀ d ∈ (React.renderer r assets).delimited,
      d.Kept ∨ r.ComponentExposes assets d := by
    simp only [React.Renderer.delimited, List.forall_mem_append, List.forall_mem_map]
    refine ⟨⟨⟨fun f hf => .inl (Delimited.kept_of_ordinary _ (plain.files f hf)),
      fun b _ => .inl (Delimited.kept_script _)⟩, fun d hd => ?_⟩, fun d hd => ?_⟩
    · obtain ⟨s, hs, rfl⟩ := Option.map_eq_some_iff.mp (Option.mem_toList.mp hd)
      unfold rootVariables at hs
      split at hs
      · cases hs
      · obtain rfl := Option.some.inj hs
        by_cases kept : Delimited.Kept ⟨.template, r.variableTable.rootBlock⟩
        · exact .inl kept
        · rw [Variables.kept_rootBlock_iff] at kept
          simp only [not_forall, Decidable.not_not] at kept
          obtain ⟨e, given, broken⟩ := kept
          exact .inr (.definition given broken)
    · exact (React.Renderer.kept_or_exposed plain.addresses r.root none d hd).imp_right
        fun ⟨n, written, exposed⟩ => .node written exposed
  intro d hd
  refine ⟨fun kept exposed => ?_, (cases_ d hd).resolve_right⟩
  cases exposed with
  | node _ exposed => exact exposed.not_kept kept
  | definition given broken => exact Variables.kept_rootBlock_iff _ |>.mp kept _ given broken

end Request
end Handoff
