import Handoff.Generation.Request
import Handoff.Proofs.Rule.Priority

/-!
# The value of a property that rules spell in several ways

A rule may write `backgroundColor` for `background-color`.  Rules compete under each spelling on
their own, by priority; what wins under the spellings is then written one after the other, and the
spelling that arrived last stays.

* `Spells`                a key that stands for a property;
* `Rule.WinsProperty`     the rule of the highest priority over all spellings of a property;
* `Rule.Decides`          the spelling whose value is written last, and this value;
* `get?_styles_of_decides`, `get?_styles_of_not_decides`   the styles of a node, by property;
* `styles_of_rules`       where the winner over all spellings prevails.
-/

namespace Handoff

/-- a key of a rule that stands for a property; the key for classes is none -/
def Spells (key property : String) : Prop :=
  key ≠ RuleEvaluation.classKey ∧ kebabProperty key = property

instance (key property : String) : Decidable (Spells key property) :=
  inferInstanceAs (Decidable (_ ∧ _))

/-! ## the order in which keys arrive -/

/-- the keys that rules give, in the order in which they give them first -/
def arrivals (rules : List Rule) : List String :=
  (rules.flatMap fun r => r.properties.keys).eraseDups

theorem keys_offer (d : Dict Emission) (k : String) (e : Emission) :
    (offer d k e).keys = if k ∈ d.keys then d.keys else d.keys ++ [k] := by
  unfold offer
  cases h : d.get? k with
  | none => exact Dict.keys_set d k e
  | some w =>
    have there : k ∈ d.keys := Dict.mem_keys_iff.mpr (by rw [h]; rfl)
    rw [if_pos there]
    dsimp only
    split
    · rfl
    · exact (Dict.keys_set d k e).trans (if_pos there)

theorem eraseDups_concat (ks : List String) (k : String) :
    (ks ++ [k]).eraseDups = if k ∈ ks.eraseDups then ks.eraseDups else ks.eraseDups ++ [k] := by
  rw [List.eraseDups_append]
  by_cases h : k ∈ ks
  · rw [if_pos (List.mem_eraseDups.mpr h)]
    simp [List.removeAll, h]
  · rw [if_neg (mt List.mem_eraseDups.mp h)]
    simp [List.removeAll, h, List.eraseDups_cons]

theorem keys_eq_flatMap {α : Type} (d : Dict α) : d.keys = d.entries.flatMap fun e => [e.1] :=
  List.map_eq_flatMap

/-- a fold in which each step adds the keys that are new adds all that are new -/
theorem keys_foldl {α β : Type} {step : Dict α → β → Dict α} {keysOf : β → List String}
    (one : ∀ (d : Dict α) (seen : List String) (b : β), d.keys = seen.eraseDups →
      (step d b).keys = (seen ++ keysOf b).eraseDups) (bs : List β) :
    ∀ (d : Dict α) (seen : List String), d.keys = seen.eraseDups →
      (bs.foldl step d).keys = (seen ++ bs.flatMap keysOf).eraseDups := by
  induction bs with
  | nil => exact fun d seen h => h.trans (by rw [List.flatMap_nil, List.append_nil])
  | cons b bs ih =>
    intro d seen h
    rw [List.foldl_cons, ih _ _ (one d seen b h), List.flatMap_cons, List.append_assoc]

theorem keys_offerRule {d : Dict Emission} {seen : List String} (r : Rule)
    (h : d.keys = seen.eraseDups) :
    (offerRule d r).keys = (seen ++ r.properties.keys).eraseDups := by
  rw [keys_eq_flatMap r.properties]
  refine keys_foldl (fun d seen e h => ?_) r.properties.entries d seen h
  rw [keys_offer, h, eraseDups_concat]

theorem keys_foldl_offerRule (rules : List Rule) :
    (rules.foldl offerRule ∅).keys = arrivals rules :=
  keys_foldl (fun _ _ r h => keys_offerRule r h) rules ∅ [] rfl

theorem keys_properties (rules : List Rule) (f : Framework) (n : NodeData) :
    (evaluate rules f n).properties.keys = arrivals (matching rules f n) := by
  rw [RuleEvaluation.properties, Dict.keys_mapValues]
  exact keys_foldl_offerRule _

/-! ## winners over all spellings -/

namespace Rule

/-- the rule gives the property, however it spells it -/
def GivesProperty (property : String) (r : Rule) : Prop := ∃ key, Spells key property ∧ r.Gives key

/-- of the rules that give a property under any spelling, `r` has the highest priority, and is the
last that has it -/
def WinsProperty (rules : List Rule) (property : String) (r : Rule) : Prop :=
  ∃ before after, rules = before ++ r :: after ∧ r.GivesProperty property ∧
    (∀ e ∈ before, e.GivesProperty property → e.priority ≤ r.priority) ∧
    (∀ e ∈ after, e.GivesProperty property → e.priority < r.priority)

/-- the value of the rule that wins a key -/
def Settles (rules : List Rule) (key : String) (v : StyleValue) : Prop :=
  ∃ r, Wins rules key r ∧ r.properties.get? key = some v

/-- of the spellings of a property that are won with a value that can be written, `key` arrives
last, and `v` is its value -/
structure Decides (rules : List Rule) (property key : String) (v : StyleValue) : Prop where
  spells : Spells key property
  settles : Settles rules key v
  usable : isUsableValue v.show = true
  last : ∃ before after, arrivals rules = before ++ key :: after ∧
    ∀ k ∈ after, Spells k property → ∀ w, Settles rules k w → isUsableValue w.show = false

variable {rules : List Rule} {property key : String} {r : Rule} {v : StyleValue}

/-- who wins a property wins each spelling that it gives -/
theorem WinsProperty.wins (h : WinsProperty rules property r) (spells : Spells key property)
    (gives : r.Gives key) : Wins rules key r := by
  obtain ⟨before, after, e, _, hb, ha⟩ := h
  exact ⟨before, after, e, gives, fun f hf gf => hb f hf ⟨key, spells, gf⟩,
    fun f hf gf => ha f hf ⟨key, spells, gf⟩⟩

theorem WinsProperty.settles (h : WinsProperty rules property r) (spells : Spells key property)
    (value : r.properties.get? key = some v) : Settles rules key v :=
  ⟨r, h.wins spells (gives_iff.mpr ⟨v, value⟩), value⟩

theorem Settles.unique {w : StyleValue} (h : Settles rules key v) (h' : Settles rules key w) :
    v = w := by
  obtain ⟨r, wins, hr⟩ := h
  obtain ⟨e, wins', he⟩ := h'
  obtain ⟨v', hv, emission⟩ := get?_of_wins wins
  obtain ⟨w', hw, emission'⟩ := get?_of_wins wins'
  have same := Option.some.inj (emission.symm.trans emission')
  rw [hr] at hv
  rw [he] at hw
  rw [Option.some.inj hv, Option.some.inj hw]
  exact congrArg Emission.value same

end Rule

/-- the properties of an evaluation are the values of the winners -/
theorem get?_properties_iff {rules : List Rule} {f : Framework} {n : NodeData} {key : String}
    {v : StyleValue} :
    (evaluate rules f n).properties.get? key = some v ↔
      Rule.Settles (matching rules f n) key v := by
  constructor
  · intro h
    have there : key ∈ (evaluate rules f n).properties.keys :=
      Dict.mem_keys_iff.mpr (by rw [h]; rfl)
    obtain ⟨r, wins⟩ := exists_wins (mem_keys_properties_iff.mp there)
    exact ⟨r, wins, (get?_properties_of_wins wins).1.symm.trans h⟩
  · rintro ⟨r, wins, value⟩
    exact (get?_properties_of_wins wins).1.trans value

/-- the last entry that satisfies `p` -/
theorem getLast?_filter_eq_some_iff {α : Type} {p : α → Bool} {l : List α} {a : α} :
    (l.filter p).getLast? = some a ↔
      p a = true ∧ ∃ before after, l = before ++ a :: after ∧ ∀ b ∈ after, p b = false := by
  rw [List.getLast?_filter, List.find?_eq_some_iff_append]
  refine and_congr_right fun _ => ⟨?_, ?_⟩
  · rintro ⟨before, after, e, h⟩
    have l' : l = after.reverse ++ a :: before.reverse := by
      rw [← List.reverse_reverse l, e]
      simp
    refine ⟨after.reverse, before.reverse, l', fun b hb => ?_⟩
    exact Bool.not_eq_true' _ |>.mp (h b (List.mem_reverse.mp hb))
  · rintro ⟨before, after, rfl, h⟩
    refine ⟨after.reverse, before.reverse, by simp, fun b hb => ?_⟩
    exact Bool.not_eq_true' _ |>.mpr (h b (List.mem_reverse.mp hb))

/-! ## the styles of a node -/

namespace Request
open Rule

/-- whether an entry of an evaluation is written for the property -/
def isWrittenFor (property : String) (e : Declaration) : Bool :=
  decide (Spells e.1 property) && isUsableValue e.2.show

section
variable {r : Request} {n : StyledData} {property : String}

/-- a style is that of the last entry that is written for it, or else that of the design -/
theorem get?_styles (r : Request) (n : StyledData) (property : String) :
    (r.styles n).get? property
      = ((((r.evaluation n).properties.entries.filter (isWrittenFor property)).getLast?).map
          Prod.snd).or (n.styles.get? property) := by
  have written : (r.ruleDeclarations n).filter (fun d => d.1 = property)
      = ((r.evaluation n).properties.entries.filter (isWrittenFor property)).map
          fun d => (kebabProperty d.1, d.2) := by
    unfold ruleDeclarations RuleEvaluation.declarations
    rw [List.filter_map, List.filter_filter, List.filter_filter]
    refine congrArg (List.map _) (List.filter_congr fun d _ => ?_)
    rw [Bool.eq_iff_iff]
    simp only [isWrittenFor, Function.comp_apply, Bool.and_eq_true, decide_eq_true_iff]
    exact ⟨fun ⟨⟨same, usable⟩, key⟩ => ⟨⟨key, same⟩, usable⟩,
      fun ⟨⟨key, same⟩, usable⟩ => ⟨⟨same, usable⟩, key⟩⟩
  rw [styles, Styles.write, Dict.get?_setAll, written, List.getLast?_map, Option.map_map]
  rfl

variable (known : r.evaluation n = evaluate r.rules r.framework n.source)
include known

theorem getLast?_eq_some_iff {key : String} {v : StyleValue} :
    ((r.evaluation n).properties.entries.filter (isWrittenFor property)).getLast? = some (key, v) ↔
      Decides (matching r.rules r.framework n.source) property key v := by
  have settled {k : String} {w : StyleValue} : (k, w) ∈ (r.evaluation n).properties.entries ↔
      Settles (matching r.rules r.framework n.source) k w := by
    rw [Dict.mem_entries_iff, known, get?_properties_iff]
  have keys : (r.evaluation n).properties.entries.map Prod.fst
      = arrivals (matching r.rules r.framework n.source) := by
    rw [known]
    exact keys_properties ..
  rw [getLast?_filter_eq_some_iff, isWrittenFor, Bool.and_eq_true, decide_eq_true_iff]
  constructor
  · rintro ⟨⟨spells, usable⟩, before, after, e, rest⟩
    refine ⟨spells, settled.mp (e ▸ List.mem_append_right _ List.mem_cons_self), usable,
      before.map Prod.fst, after.map Prod.fst, by rw [← keys, e]; simp, fun k hk sk w hw => ?_⟩
    obtain ⟨⟨k', w'⟩, he, rfl⟩ := List.mem_map.mp hk
    have unwritten := rest _ he
    rw [isWrittenFor, decide_eq_true sk, Bool.true_and] at unwritten
    rw [hw.unique (settled.mp (e ▸ List.mem_append_right _ (List.mem_cons_of_mem _ he)))]
    exact unwritten
  · rintro ⟨spells, settles, usable, before, after, e, rest⟩
    rw [← keys] at e
    obtain ⟨before', tail, e', rfl, e''⟩ := List.map_eq_append_iff.mp e
    obtain ⟨⟨k, w⟩, after', rfl, rfl, rfl⟩ := List.map_eq_cons_iff.mp e''
    obtain rfl : w = v :=
      (settled.mp (e' ▸ List.mem_append_right _ List.mem_cons_self)).unique settles
    refine ⟨⟨spells, usable⟩, before', after', e', fun d hd => ?_⟩
    rw [isWrittenFor]
    by_cases sd : Spells d.1 property
    · rw [rest d.1 (List.mem_map_of_mem hd) sd d.2
        (settled.mp (e' ▸ List.mem_append_right _ (List.mem_cons_of_mem _ hd))), Bool.and_false]
    · rw [decide_eq_false sd, Bool.false_and]

/-- what is decided by rules is written -/
theorem get?_styles_of_decides {key : String} {v : StyleValue}
    (h : Decides (matching r.rules r.framework n.source) property key v) :
    (r.styles n).get? property = some v := by
  rw [get?_styles, (getLast?_eq_some_iff known).mpr h]
  rfl

/-- what rules do not decide is as the design has it -/
theorem get?_styles_of_not_decides
    (h : ¬ ∃ key v, Decides (matching r.rules r.framework n.source) property key v) :
    (r.styles n).get? property = n.styles.get? property := by
  rw [get?_styles]
  cases e : ((r.evaluation n).properties.entries.filter (isWrittenFor property)).getLast? with
  | none => rfl
  | some d => exact absurd ⟨d.1, d.2, (getLast?_eq_some_iff known).mp e⟩ h

/-- a spelling that is won with a usable value is followed by one that decides -/
theorem exists_decides {key : String} {v : StyleValue} (spells : Spells key property)
    (settles : Settles (matching r.rules r.framework n.source) key v)
    (usable : isUsableValue v.show = true) :
    ∃ k w, Decides (matching r.rules r.framework n.source) property k w := by
  have there : (key, v) ∈ (r.evaluation n).properties.entries.filter (isWrittenFor property) := by
    rw [List.mem_filter, Dict.mem_entries_iff, known, get?_properties_iff, isWrittenFor,
      Bool.and_eq_true, decide_eq_true_iff]
    exact ⟨settles, spells, usable⟩
  cases e : ((r.evaluation n).properties.entries.filter (isWrittenFor property)).getLast? with
  | none =>
    rw [List.getLast?_eq_none_iff.mp e] at there
    exact absurd there List.not_mem_nil
  | some d => exact ⟨d.1, d.2, (getLast?_eq_some_iff known).mp e⟩

end

/-- **Where priority holds over spellings.**  A property that no rule gives is as the design has it.
The value of the rule that wins a property over all of its spellings is written exactly where the
spelling that decides has this value; so it is where rules spell the property in one way only. -/
theorem styles_of_rules (r : Request) (n : StyledData) (property : String)
    (known : r.evaluation n = evaluate r.rules r.framework n.source) :
    let rules := matching r.rules r.framework n.source
    ((¬ ∃ rule ∈ rules, rule.GivesProperty property) →
      (r.styles n).get? property = n.styles.get? property) ∧
    ∀ winner key v, WinsProperty rules property winner → Spells key property →
      winner.properties.get? key = some v → isUsableValue v.show = true →
      ((r.styles n).get? property = some v ↔ ∃ k, Decides rules property k v) ∧
      ((∀ rule ∈ rules, ∀ k, Spells k property → rule.Gives k → k = key) →
        (r.styles n).get? property = some v) := by
  intro rules
  refine ⟨fun none => get?_styles_of_not_decides known fun ⟨k, v, h⟩ => ?_,
    fun winner key v wins spells value usable => ?_⟩
  · obtain ⟨rule, won, _⟩ := h.settles
    exact none ⟨rule, won.mem, k, h.spells, won.gives⟩
  · have settles := wins.settles spells value
    obtain ⟨k, w, decides⟩ := exists_decides known spells settles usable
    have written := get?_styles_of_decides known decides
    refine ⟨⟨fun h => ⟨k, ?_⟩, fun ⟨_, h⟩ => get?_styles_of_decides known h⟩, fun one => ?_⟩
    · obtain rfl := Option.some.inj (written.symm.trans h)
      exact decides
    · obtain ⟨rule, won, _⟩ := decides.settles
      have settles' := decides.settles
      rw [one rule won.mem k decides.spells won.gives] at settles'
      rw [written, settles'.unique settles]

/-- a rule in camel case for a property that the design has: the value of the rule is written -/
theorem styles_of_rules_camelCase :
    let rule : Rule :=
      { id := "brand", properties := Dict.set ∅ "backgroundColor" (.text "red") }
    let r : Request := {
      root := ⟨{ source := {}, uniqueName := "Card" }, []⟩
      framework := .htmlCss
      rules := [rule] }
    let n : StyledData := {
      source := {}
      uniqueName := "Card"
      styles := Dict.set ∅ "background-color" (.text "white") }
    r.evaluation n = evaluate r.rules r.framework n.source ∧
      (r.styles n).get? "background-color" = some (.text "red") := by
  intro rule r n
  have known : r.evaluation n = evaluate r.rules r.framework n.source := rfl
  have spells : Spells "backgroundColor" "background-color" := by decide +kernel
  have wins : WinsProperty [rule] "background-color" rule :=
    ⟨[], [], rfl, ⟨_, spells, List.mem_singleton.mpr rfl⟩, fun e he => absurd he List.not_mem_nil,
      fun e he => absurd he List.not_mem_nil⟩
  have one : ∀ e ∈ [rule], ∀ k, Spells k "background-color" → e.Gives k →
      k = "backgroundColor" := by
    intro e he k _ gives
    rw [List.mem_singleton.mp he] at gives
    exact List.mem_singleton.mp gives
  exact ⟨known, ((styles_of_rules r n "background-color" known).2 rule "backgroundColor" _ wins
    spells rfl (by decide +kernel)).2 one⟩

/-- of two rules the one with the higher priority writes `backgroundColor`, the other
`background-color`: the value of the other one is written -/
theorem styles_of_outbid_rule :
    let high : Rule :=
      { id := "high", priority := 2, properties := Dict.set ∅ "backgroundColor" (.text "red") }
    let low : Rule :=
      { id := "low", priority := 1, properties := Dict.set ∅ "background-color" (.text "blue") }
    let r : Request := {
      root := ⟨{ source := {}, uniqueName := "Card" }, []⟩
      framework := .htmlCss
      rules := [high, low] }
    WinsProperty (matching r.rules r.framework {}) "background-color" high ∧
      Spells "backgroundColor" "background-color" ∧
      high.properties.text? "backgroundColor" = some "red" ∧ isUsableValue "red" = true ∧
      (r.styles r.root.toStyledData).text? "background-color" = some "blue" := by
  intro high low r
  have spells : Spells "backgroundColor" "background-color" := by decide +kernel
  refine ⟨⟨[], [low], rfl, ⟨_, spells, List.mem_singleton.mpr rfl⟩,
    fun e he => absurd he List.not_mem_nil, fun e he _ => ?_⟩, spells, ?_, ?_, ?_⟩
  · rw [List.mem_singleton.mp he]
    decide
  all_goals decide +kernel

end Request
end Handoff
