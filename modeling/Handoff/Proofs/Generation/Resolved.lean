import Handoff.Generation.Code
import Handoff.Proofs.Styled.Shown
import Mathlib.Data.List.Nodup

/-!
# Evaluations that are known beforehand

The rules may be evaluated over the whole tree before any code is made, or for each node when its
turn comes.  Generators take evaluations by the ids of nodes, so if no two nodes of the tree have one
id, both ways lead to the same code.

* `Request.SameAt`       two tables from which the same evaluation of a node is taken;
* `element?_resolved`, `sheet_resolved`   the elements and the rules of a tree depend on nothing in a
                          table but the evaluations of its nodes;
* `codeWith_resolved`    nor does anything else in the code;
* `get?_evaluateTree`    the table of a tree has the evaluation of each node under its id;
* `generate_resolved`    code with the table of the tree, and code without a table.
-/

namespace Handoff
open StyledNode

/-- tables from which the same evaluation of a node is taken -/
def Request.SameAt (r : Request) (a b : Dict RuleEvaluation) (n : StyledData) : Prop :=
  { r with resolved := a }.evaluation n = { r with resolved := b }.evaluation n

section
variable {r : Request} {a b : Dict RuleEvaluation} {n : StyledData}

/-- all that a node gets from rules comes from its evaluation -/
theorem Request.SameAt.styles (same : r.SameAt a b n) :
    { r with resolved := a }.styles n = { r with resolved := b }.styles n := by
  have evaluation : { r with resolved := a }.evaluation n = { r with resolved := b }.evaluation n :=
    same
  unfold Request.styles Request.ruleDeclarations
  rw [evaluation]

theorem Request.SameAt.ruleClasses (same : r.SameAt a b n) :
    { r with resolved := a }.ruleClasses n = { r with resolved := b }.ruleClasses n := by
  have evaluation : { r with resolved := a }.evaluation n = { r with resolved := b }.evaluation n :=
    same
  unfold Request.ruleClasses
  rw [evaluation]

end

/-! ## components -/

namespace React

section
variable {r : Request} {a b : Dict RuleEvaluation} {assets : Assets} {ds : Drawings} {ps : Props}
  {n : StyledNode}

theorem drawingElement_resolved (same : r.SameAt a b n.toStyledData) :
    Renderer.drawingElement ⟨{ r with resolved := a }, assets, ds, ps⟩ n.toStyledData
      = Renderer.drawingElement ⟨{ r with resolved := b }, assets, ds, ps⟩ n.toStyledData := by
  have styles := same.styles
  unfold Renderer.drawingElement
  dsimp only
  rw [styles]
  rfl

theorem nodeElement_resolved (same : r.SameAt a b n.toStyledData) (overlap : Option Overlap)
    (es : List Element) :
    Renderer.nodeElement ⟨{ r with resolved := a }, assets, ds, ps⟩ overlap n es
      = Renderer.nodeElement ⟨{ r with resolved := b }, assets, ds, ps⟩ overlap n es := by
  have shown : Renderer.shownStyles ⟨{ r with resolved := a }, assets, ds, ps⟩ n
      = Renderer.shownStyles ⟨{ r with resolved := b }, assets, ds, ps⟩ n := by
    unfold Renderer.shownStyles
    dsimp only
    rw [same.styles]
  have classes (styles : Styles) :
      Renderer.elementClasses ⟨{ r with resolved := a }, assets, ds, ps⟩ overlap n styles
        = Renderer.elementClasses ⟨{ r with resolved := b }, assets, ds, ps⟩ overlap n styles := by
    unfold Renderer.elementClasses
    dsimp only
    rw [same.ruleClasses]
  unfold Renderer.nodeElement
  dsimp only
  rw [shown, classes]
  rfl

/-- tables that have the same for the nodes of a tree make the same elements of it -/
theorem element?_resolved (n : StyledNode) : ∀ overlap : Option Overlap,
    (∀ m ∈ n.preOrder, r.SameAt a b m.toStyledData) →
    Renderer.element? ⟨{ r with resolved := a }, assets, ds, ps⟩ overlap n
      = Renderer.element? ⟨{ r with resolved := b }, assets, ds, ps⟩ overlap n := by
  induction n using forest
    (Q := fun ns => ∀ overlap : Option Overlap,
      (∀ m ∈ preOrderAll ns, r.SameAt a b m.toStyledData) →
      Renderer.elements ⟨{ r with resolved := a }, assets, ds, ps⟩ overlap ns
        = Renderer.elements ⟨{ r with resolved := b }, assets, ds, ps⟩ overlap ns) with
  | node d cs ih =>
    intro overlap same
    have own : r.SameAt a b d := same _ List.mem_cons_self
    have below := ih d.overlap fun m hm => same m (List.mem_cons_of_mem _ hm)
    have drawing : Renderer.drawingElement ⟨{ r with resolved := a }, assets, ds, ps⟩ d
        = Renderer.drawingElement ⟨{ r with resolved := b }, assets, ds, ps⟩ d :=
      drawingElement_resolved (n := ⟨d, cs⟩) own
    unfold Renderer.element?
    rw [below, nodeElement_resolved own, drawing]
  | nil => exact rfl
  | cons n ns ih ihs overlap same =>
    have first := ih (if ns.isEmpty then none else overlap) fun m hm =>
      same m (List.mem_append_left _ hm)
    have others := ihs overlap fun m hm => same m (List.mem_append_right _ hm)
    unfold Renderer.elements
    rw [first, others]

end

/-- the drawings and the props of a component have nothing to do with rules -/
theorem componentText_resolved {r : Request} {a b : Dict RuleEvaluation} (assets : Assets)
    (same : ∀ m ∈ r.root.preOrder, r.SameAt a b m.toStyledData) :
    (renderer { r with resolved := a } assets).componentText
      = (renderer { r with resolved := b } assets).componentText := by
  have root : (renderer { r with resolved := a } assets).root?
      = (renderer { r with resolved := b } assets).root? := element?_resolved r.root none same
  unfold Renderer.componentText
  rw [root]
  rfl

end React

/-! ## pages -/

namespace Html.Page

section
variable {r : Request} {a b : Dict RuleEvaluation} {assets : Assets} {n : StyledNode}

theorem nodeElement_resolved (same : r.SameAt a b n.toStyledData) (es : List Element) :
    nodeElement ⟨{ r with resolved := a }, assets⟩ n es
      = nodeElement ⟨{ r with resolved := b }, assets⟩ n es := by
  have classes : classMarkup ⟨{ r with resolved := a }, assets⟩ n.toStyledData
      = classMarkup ⟨{ r with resolved := b }, assets⟩ n.toStyledData := by
    unfold classMarkup
    dsimp only
    rw [same.ruleClasses]
  unfold nodeElement imageMarkup
  dsimp only
  rw [classes]
  rfl

theorem nodeSheet_resolved (same : r.SameAt a b n.toStyledData) (overlap : Option Overlap)
    (s : Stylesheet) :
    nodeSheet ⟨{ r with resolved := a }, assets⟩ overlap n s
      = nodeSheet ⟨{ r with resolved := b }, assets⟩ overlap n s := by
  have form : formStyles ⟨{ r with resolved := a }, assets⟩ n
      = formStyles ⟨{ r with resolved := b }, assets⟩ n := by
    unfold formStyles
    dsimp only
    rw [same.styles]
  unfold nodeSheet nodeStyles
  rw [form]
  rfl

/-- tables that have the same for the nodes of a tree make the same elements of it -/
theorem element?_resolved (n : StyledNode) : (∀ m ∈ n.preOrder, r.SameAt a b m.toStyledData) →
    element? ⟨{ r with resolved := a }, assets⟩ n
      = element? ⟨{ r with resolved := b }, assets⟩ n := by
  induction n using forest
    (Q := fun ns => (∀ m ∈ preOrderAll ns, r.SameAt a b m.toStyledData) →
      elements ⟨{ r with resolved := a }, assets⟩ ns
        = elements ⟨{ r with resolved := b }, assets⟩ ns) with
  | node d cs ih =>
    intro same
    have own : r.SameAt a b d := same _ List.mem_cons_self
    have below := ih fun m hm => same m (List.mem_cons_of_mem _ hm)
    unfold element?
    rw [below, nodeElement_resolved own]
  | nil _ => rfl
  | cons n ns ih ihs same =>
    have first := ih fun m hm => same m (List.mem_append_left _ hm)
    have others := ihs fun m hm => same m (List.mem_append_right _ hm)
    unfold elements
    rw [first, others]

/-- and the same rules -/
theorem sheet_resolved (n : StyledNode) : ∀ overlap : Option Overlap,
    (∀ m ∈ n.preOrder, r.SameAt a b m.toStyledData) →
    sheet ⟨{ r with resolved := a }, assets⟩ overlap n
      = sheet ⟨{ r with resolved := b }, assets⟩ overlap n := by
  induction n using forest
    (Q := fun ns => ∀ overlap : Option Overlap,
      (∀ m ∈ preOrderAll ns, r.SameAt a b m.toStyledData) →
      sheets ⟨{ r with resolved := a }, assets⟩ overlap ns
        = sheets ⟨{ r with resolved := b }, assets⟩ overlap ns) with
  | node d cs ih =>
    intro overlap same
    have own : r.SameAt a b d := same _ List.mem_cons_self
    have below := ih d.overlap fun m hm => same m (List.mem_cons_of_mem _ hm)
    unfold sheet
    rw [below, nodeSheet_resolved own]
  | nil => exact rfl
  | cons n ns ih ihs overlap same =>
    have first := ih (if ns.isEmpty then none else overlap) fun m hm =>
      same m (List.mem_append_left _ hm)
    have others := ihs overlap fun m hm => same m (List.mem_append_right _ hm)
    unfold sheets
    rw [first, others]

end

theorem code_resolved {r : Request} {a b : Dict RuleEvaluation} (assets : Assets)
    (same : ∀ m ∈ r.root.preOrder, r.SameAt a b m.toStyledData) :
    code ⟨{ r with resolved := a }, assets⟩ = code ⟨{ r with resolved := b }, assets⟩ ∧
      css ⟨{ r with resolved := a }, assets⟩ = css ⟨{ r with resolved := b }, assets⟩ := by
  have root : root? ⟨{ r with resolved := a }, assets⟩ = root? ⟨{ r with resolved := b }, assets⟩ :=
    element?_resolved r.root same
  have html : html ⟨{ r with resolved := a }, assets⟩ = html ⟨{ r with resolved := b }, assets⟩ := by
    unfold html
    rw [root]
  have rules : css ⟨{ r with resolved := a }, assets⟩ = css ⟨{ r with resolved := b }, assets⟩ := by
    have sheets : sheet ⟨{ r with resolved := a }, assets⟩ none r.root
        = sheet ⟨{ r with resolved := b }, assets⟩ none r.root := sheet_resolved r.root none same
    unfold css
    dsimp only
    rw [sheets]
    rfl
  refine ⟨?_, rules⟩
  unfold code
  rw [html, rules]

end Html.Page

/-! ## the table of a tree -/

/-- the table of a tree has the evaluation of each node under its id, where no id comes twice -/
theorem get?_evaluateTree {root : StyledNode} (distinct : (root.preOrder.map fun n => n.id).Nodup)
    (rules : List Rule) (f : Framework) {n : StyledNode} (hn : n ∈ root.preOrder) :
    (evaluateTree rules f root).get? n.id = some (evaluate rules f n.source) := by
  let entry : StyledNode → String × RuleEvaluation := fun n => (n.id, evaluate rules f n.source)
  have written : evaluateTree rules f root = Dict.setAll ∅ (root.preOrder.map entry) := by
    unfold Dict.setAll
    rw [List.foldl_map]
    rfl
  have mem : entry n ∈ (root.preOrder.map entry).filter fun e => e.1 = n.id :=
    List.mem_filter.mpr ⟨List.mem_map_of_mem hn, decide_eq_true rfl⟩
  obtain ⟨last, hlast⟩ := Option.isSome_iff_exists.mp
    (List.getLast?_isSome.mpr (List.ne_nil_of_mem mem))
  -- the last entry under the id of the node is that of the node
  have own : last = entry n := by
    obtain ⟨hl, same⟩ := List.mem_filter.mp (List.mem_of_getLast? hlast)
    obtain ⟨m, hm, rfl⟩ := List.mem_map.mp hl
    have one : m = n := List.inj_on_of_nodup_map distinct hm hn (of_decide_eq_true same)
    rw [one]
  rw [written, Dict.get?_setAll, hlast, own]
  rfl

namespace Request
variable {r : Request}

/-- code depends on nothing in a table of evaluations but those of the nodes of the tree -/
theorem codeWith_resolved {a b : Dict RuleEvaluation} (assets : Assets)
    (same : ∀ m ∈ r.root.preOrder, r.SameAt a b m.toStyledData) :
    { r with resolved := a }.codeWith assets = { r with resolved := b }.codeWith assets := by
  have component := React.componentText_resolved assets same
  obtain ⟨code, css⟩ := Html.Page.code_resolved assets same
  unfold codeWith
  dsimp only
  rw [component, code, css]
  rfl

/-- **Evaluating the rules beforehand makes no difference.**  For a tree in which no id comes twice,
with any rules, framework, options, variables and assets, the code that is made with the evaluations
of the whole tree is the code that is made by evaluating the rules for each node when it is needed:
in its text and its stylesheet, with the same files and warnings. -/
theorem generate_resolved (r : Request) (source : AssetSource)
    (distinct : (r.root.preOrder.map fun n => n.id).Nodup) :
    { r with resolved := evaluateTree r.rules r.framework r.root }.generate source
      = { r with resolved := ∅ }.generate source := by
  refine codeWith_resolved _ fun m hm => ?_
  show ((evaluateTree r.rules r.framework r.root).get? m.id).getD _ = _
  rw [get?_evaluateTree distinct r.rules r.framework hm]
  rfl

/-- a card with a badge, and a rule for the badge -/
theorem generate_resolved_card :
    let badge : StyledNode :=
      ⟨{ source := { id := "2", name := "Badge", kind := .frame }, uniqueName := "Badge" }, []⟩
    let card : StyledNode :=
      ⟨{ source := { id := "1", name := "Card", kind := .frame }, uniqueName := "Card" }, [badge]⟩
    let tint : Rule := {
      id := "tint", selector := Dict.ofList [("name", .str "Badge")]
      properties := Dict.ofList [("backgroundColor", .text "red"), ("className", .text "badge")] }
    (card.preOrder.map fun n => n.id).Nodup ∧ ∀ framework,
      let r : Request := { root := card, framework, rules := [tint] }
      let table := evaluateTree r.rules framework card
      table.keys = ["1", "2"] ∧
      (table.get? "2").map RuleEvaluation.matchedRules = some ["tint"] ∧
      { r with resolved := table }.generate .empty = { r with resolved := ∅ }.generate .empty := by
  intro badge card tint
  have distinct : (card.preOrder.map fun n => n.id).Nodup := by decide
  refine ⟨distinct, fun framework => ?_⟩
  intro r table
  refine ⟨?_, ?_, generate_resolved r .empty distinct⟩
  · cases framework <;> decide
  · cases framework <;> decide

end Request
end Handoff
