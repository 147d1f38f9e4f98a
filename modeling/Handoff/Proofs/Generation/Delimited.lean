import Handoff.Generation.Code
import Handoff.Proofs.Html.Delimited
import Handoff.Proofs.React.Delimited

/-!
# The texts between the delimiters of generated code

Code is broken out of where a text between delimiters holds the closing one.  Which texts can do this
is known beforehand: class lists, masks, gradients and variables, if what they are made from has such
a mark.  All others are escaped, or made of names and numbers.

* `Request.delimited`     the texts between delimiters;
* `Request.Exposes`       how one that is not kept comes into the code;
* `delimited_kept_iff`    all others are kept, and all of them stand in the code;
* `delimited_broken`      some that are not.
-/

namespace Handoff
namespace Request

/-- the texts between delimiters that code is written with -/
def delimited (r : Request) (assets : Assets) : List Delimited :=
  match r.framework with
  | .reactTailwind | .reactTailwindV4 => (React.renderer r assets).delimited
  | .htmlCss => (⟨r, assets⟩ : Html.Page).delimited

/-- how a text that is not kept comes into the code -/
def Exposes (r : Request) (assets : Assets) (d : Delimited) : Prop :=
  match r.framework with
  | .reactTailwind | .reactTailwindV4 => r.ComponentExposes assets d
  | .htmlCss => ∃ n ∈ r.root.written, (⟨r, assets⟩ : Html.Page).Exposes n d

/-- **Delimited texts are kept.**  For every tree, framework, rules, options, variables and assets,
each text between delimiters stands in the code, and a reader of the code takes it for what it was
meant to be, unless it is a class list with a quote from the styles, overlays or rules of its node, a
mask or a gradient with a quote that ends it, or the definitions of the variables with a value that
ends or interrupts them. -/
theorem delimited_kept_iff (r : Request) (assets : Assets) : ∀ d ∈ r.delimited assets,
    Text.Within d.written (r.codeWith assets).code ∧ (d.Kept ↔ ¬ r.Exposes assets d) := by
  have component : ∀ d ∈ (React.renderer r assets).delimited,
      Text.Within d.written (React.renderer r assets).componentText
        ∧ (d.Kept ↔ ¬ r.ComponentExposes assets d) := fun d hd =>
    ⟨(React.renderer r assets).within_componentText d hd, r.kept_iff_of_component assets d hd⟩
  unfold delimited codeWith Exposes
  cases r.framework with
  | reactTailwind => exact component
  | reactTailwindV4 => exact component
  | htmlCss =>
    exact fun d hd => ⟨Html.Page.within_code ⟨r, assets⟩ d hd, Html.Page.kept_iff ⟨r, assets⟩ d hd⟩

/-- the identifier of a card, where that has a quote -/
theorem delimited_kept_iff_card :
    let card : StyledNode := ⟨{
      source := { id := "1\"", name := "Card" }, uniqueName := "card" }, []⟩
    let page : Request := { root := card, framework := .htmlCss }
    let component : Request := { root := card, framework := .reactTailwind }
    let d : Delimited := ⟨.attribute, "1&quot;"⟩
    (Text.Within d.written (page.codeWith {}).code ∧ ¬ page.Exposes {} d) ∧
      Text.Within d.written (component.codeWith {}).code ∧ ¬ component.Exposes {} d := by
  intro card page component d
  have kept : d.Kept := by decide
  obtain ⟨inPage, keptInPage⟩ := delimited_kept_iff page {} d (by decide)
  obtain ⟨inComponent, keptInComponent⟩ := delimited_kept_iff component {} d (by decide +kernel)
  exact ⟨⟨inPage, keptInPage.mp kept⟩, inComponent, keptInComponent.mp kept⟩

/-- classes of a rule in a page and in a component, a mask, and a variable -/
theorem delimited_broken :
    let card : StyledNode := ⟨{
      source := { id := "1", name := "Card" }, uniqueName := "card"
      maskImageRef := some "mask" }, []⟩
    let rule : Rule := {
      id := "quote", properties := Dict.set ∅ "className" (.text "content-[\"x\"]") }
    let table : Variables := Dict.set ∅ "1:2" { name := "mark", value := .str "`" }
    let assets : Assets := { images := Dict.set ∅ "mask" "https://images.test/a\"b.png" }
    let page : Request := { root := card, framework := .htmlCss, rules := [rule] }
    let component : Request := {
      root := card, framework := .reactTailwind, rules := [rule], variableTable := table }
    (∃ d ∈ page.delimited assets, d.enclosure = .attribute ∧ d.Broken) ∧
      ∀ e : Enclosure, ∃ d ∈ component.delimited assets, d.enclosure = e ∧ d.Broken := by
  intro card rule table assets page component
  have pageClass : (⟨.attribute, "card content-[\"x\"]"⟩ : Delimited) ∈ page.delimited assets := by
    decide
  have componentClass : (⟨.attribute, "box-border relative shrink-0 content-[\"x\"]"⟩ : Delimited)
      ∈ component.delimited assets := by decide +kernel
  have mask : (⟨.script, quotedCssUrl "https://images.test/a\"b.png"⟩ : Delimited)
      ∈ component.delimited assets := by decide +kernel
  have definitions : (⟨.template, table.rootBlock⟩ : Delimited)
      ∈ component.delimited assets := by decide +kernel
  refine ⟨⟨_, pageClass, rfl, by decide⟩, fun e => ?_⟩
  match e with
  | .attribute => exact ⟨_, componentClass, rfl, by decide⟩
  | .script => exact ⟨_, mask, rfl, by decide⟩
  | .template => exact ⟨_, definitions, rfl, by decide⟩

end Request
end Handoff
