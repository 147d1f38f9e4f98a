import Handoff.Rule.Evaluation

/-!
# The rule that a property comes from

`evaluate` folds over rules and their properties and keeps one emission for each property.  Which
one this is can be said without the fold: the rule `Wins` a property if of all rules that give it
none has a higher priority, and none behind it has the same.

* `get?_offerRule`      what one rule does to the emission of a property;
* `foldl_offerRule_le`, `foldl_offerRule_lt`   what the rules in front of a winner leave, and that
                        those behind it change nothing;
* `get?_of_wins`        the emission of a property is that of the rule that wins it;
* `exists_wins`         a property that some rule gives has a winner;
* `Wins.of_perm`        where no two priorities are equal, the winner does not depend on the order;
* `evaluate_priority`   all of this for the evaluation of a node.
-/

namespace Handoff

/-- the rule gives the property some value -/
def Rule.Gives (r : Rule) (key : String) : Prop := key ∈ r.properties.keys

/-- of the rules that give a property, `r` has the highest priority, and is the last that has it -/
def Rule.Wins (rules : List Rule) (key : String) (r : Rule) : Prop :=
  ∃ before after, rules = before ++ r :: after ∧ r.Gives key ∧
    (∀ e ∈ before, e.Gives key → e.priority ≤ r.priority) ∧
    (∀ e ∈ after, e.Gives key → e.priority < r.priority)

/-! ## one rule -/

/-- the better of an emission that is there and one that is offered -/
def contest (winner : Option Emission) (e : Emission) : Emission :=
  match winner with
  | some w => if e.priority < w.priority then w else e
  | none => e

theorem get?_offer (d : Dict Emission) (k j : String) (e : Emission) :
    (offer d k e).get? j = if j = k then some (contest (d.get? k) e) else d.get? j := by
  unfold offer contest
  cases hw : d.get? k with
  | none => exact Dict.get?_set d k j e
  | some w =>
    dsimp only
    split
    · by_cases hj : j = k
      · rw [if_pos hj, hj, hw]
      · rw [if_neg hj]
    · exact Dict.get?_set d k j e

theorem foldl_offer_of_not_mem (p : Int) (id : String) {key : String} :
    ∀ (es : List Declaration) (d : Dict Emission), key ∉ es.map Prod.fst →
      (es.foldl (fun acc e => offer acc e.1 ⟨e.2, p, id⟩) d).get? key = d.get? key := by
  intro es
  induction es with
  | nil => exact fun _ _ => rfl
  | cons e es ih =>
    intro d h
    rw [List.map_cons, List.mem_cons, not_or] at h
    rw [List.foldl_cons, ih _ h.2, get?_offer, if_neg h.1]

theorem foldl_offer (p : Int) (id : String) {key : String} :
    ∀ (es : List Declaration) (d : Dict Emission), (es.map Prod.fst).Nodup →
      (es.foldl (fun acc e => offer acc e.1 ⟨e.2, p, id⟩) d).get? key =
        match es.lookup key with
        | some v => some (contest (d.get? key) ⟨v, p, id⟩)
        | none => d.get? key := by
  intro es
  induction es with
  | nil => exact fun _ _ => rfl
  | cons e es ih =>
    obtain ⟨k, v⟩ := e
    intro d h
    rw [List.map_cons, List.nodup_cons] at h
    rw [List.foldl_cons, List.lookup_cons]
    by_cases hk : key = k
    · subst hk
      rw [foldl_offer_of_not_mem p id es _ h.1, get?_offer, if_pos rfl, beq_self_eq_true]
    · rw [ih _ h.2, get?_offer, if_neg hk, beq_false_of_ne hk]

/-- a rule that does not give the property changes nothing, one that does enters a contest -/
theorem get?_offerRule (d : Dict Emission) (r : Rule) (key : String) :
    (offerRule d r).get? key =
      match r.properties.get? key with
      | some v => some (contest (d.get? key) ⟨v, r.priority, r.id⟩)
      | none => d.get? key :=
  foldl_offer r.priority r.id r.properties.entries d r.properties.nodup

theorem Rule.gives_iff {r : Rule} {key : String} :
    r.Gives key ↔ ∃ v, r.properties.get? key = some v := by
  rw [Rule.Gives, Dict.mem_keys_iff, Option.isSome_iff_exists]

theorem get?_offerRule_of_not_gives {d : Dict Emission} {r : Rule} {key : String}
    (h : ¬ r.Gives key) : (offerRule d r).get? key = d.get? key := by
  rw [get?_offerRule]
  cases hv : r.properties.get? key with
  | none => rfl
  | some v => exact absurd (Rule.gives_iff.mpr ⟨v, hv⟩) h

/-! ## all rules -/

/-- priorities stay below a bound that no rule exceeds -/
theorem foldl_offerRule_le {key : String} {p : Int} : ∀ (rules : List Rule) (d : Dict Emission),
    (∀ r ∈ rules, r.Gives key → r.priority ≤ p) → (∀ w, d.get? key = some w → w.priority ≤ p) →
      ∀ w, (rules.foldl offerRule d).get? key = some w → w.priority ≤ p := by
  intro rules
  induction rules with
  | nil => exact fun _ _ hd => hd
  | cons r rules ih =>
    intro d hr hd
    refine ih _ (fun e he => hr e (List.mem_cons_of_mem _ he)) fun w hw => ?_
    rw [get?_offerRule] at hw
    cases hv : r.properties.get? key with
    | none =>
      rw [hv] at hw
      exact hd w hw
    | some v =>
      have bound := hr r List.mem_cons_self (Rule.gives_iff.mpr ⟨v, hv⟩)
      rw [hv] at hw
      obtain rfl := Option.some.inj hw
      unfold contest
      split
      · next w hw =>
        split
        · exact hd w hw
        · exact bound
      · exact bound

/-- an emission stays where it is against rules of lower priorities -/
theorem foldl_offerRule_lt {key : String} {w : Emission} :
    ∀ (rules : List Rule) (d : Dict Emission), d.get? key = some w →
      (∀ r ∈ rules, r.Gives key → r.priority < w.priority) →
      (rules.foldl offerRule d).get? key = some w := by
  intro rules
  induction rules with
  | nil => exact fun _ hd _ => hd
  | cons r rules ih =>
    intro d hd hr
    refine ih _ ?_ fun e he => hr e (List.mem_cons_of_mem _ he)
    rw [get?_offerRule]
    cases hv : r.properties.get? key with
    | none => exact hd
    | some v =>
      have lower : r.priority < w.priority :=
        hr r List.mem_cons_self (Rule.gives_iff.mpr ⟨v, hv⟩)
      rw [hd]
      exact congrArg some (if_pos lower)

theorem foldl_offerRule_of_none_gives {key : String} : ∀ (rules : List Rule) (d : Dict Emission),
    (∀ r ∈ rules, ¬ r.Gives key) → (rules.foldl offerRule d).get? key = d.get? key := by
  intro rules
  induction rules with
  | nil => exact fun _ _ => rfl
  | cons r rules ih =>
    intro d hr
    rw [List.foldl_cons, ih _ fun e he => hr e (List.mem_cons_of_mem _ he),
      get?_offerRule_of_not_gives (hr r List.mem_cons_self)]

/-- the emission of a property is that of its winner -/
theorem get?_of_wins {rules : List Rule} {key : String} {r : Rule} (h : Rule.Wins rules key r) :
    ∃ v, r.properties.get? key = some v ∧
      (rules.foldl offerRule ∅).get? key = some ⟨v, r.priority, r.id⟩ := by
  obtain ⟨before, after, rfl, gives, hb, ha⟩ := h
  obtain ⟨v, hv⟩ := Rule.gives_iff.mp gives
  refine ⟨v, hv, ?_⟩
  rw [List.foldl_append, List.foldl_cons]
  refine foldl_offerRule_lt after _ ?_ ha
  have bound := foldl_offerRule_le before ∅ hb fun w hw => nomatch hw
  rw [get?_offerRule, hv]
  dsimp only
  unfold contest
  split
  · next w hw => rw [if_neg (Int.not_lt.mpr (bound w hw))]
  · rfl

/-! ## winners -/

theorem exists_wins {key : String} : ∀ {rules : List Rule}, (∃ r ∈ rules, r.Gives key) →
    ∃ r, Rule.Wins rules key r := by
  intro rules
  induction rules with
  | nil => rintro ⟨r, hr, _⟩; exact absurd hr List.not_mem_nil
  | cons r rules ih =>
    intro h
    by_cases later : ∃ e ∈ rules, e.Gives key
    · obtain ⟨w, before, after, rfl, gives, hb, ha⟩ := ih later
      by_cases hr : r.Gives key ∧ w.priority < r.priority
      · refine ⟨r, [], _, rfl, hr.1, fun e he => absurd he List.not_mem_nil, fun e he ge => ?_⟩
        rcases List.mem_append.mp he with he | he
        · exact Int.lt_of_le_of_lt (hb e he ge) hr.2
        · rcases List.mem_cons.mp he with rfl | he
          · exact hr.2
          · exact Int.lt_trans (ha e he ge) hr.2
      · refine ⟨w, r :: before, after, rfl, gives, fun e he ge => ?_, ha⟩
        rcases List.mem_cons.mp he with rfl | he
        · exact Int.not_lt.mp fun lt => hr ⟨ge, lt⟩
        · exact hb e he ge
    · obtain ⟨e, he, ge⟩ := h
      rcases List.mem_cons.mp he with rfl | he
      · exact ⟨e, [], rules, rfl, ge, fun e he => absurd he List.not_mem_nil,
          fun f hf gf => absurd ⟨f, hf, gf⟩ later⟩
      · exact absurd ⟨e, he, ge⟩ later

namespace Rule.Wins
variable {rules rules' : List Rule} {key : String} {r : Rule}

theorem mem (h : Wins rules key r) : r ∈ rules := by
  obtain ⟨before, after, rfl, _⟩ := h
  exact List.mem_append_right _ List.mem_cons_self

theorem gives (h : Wins rules key r) : r.Gives key := by
  obtain ⟨_, _, _, gives, _⟩ := h
  exact gives

theorem le (h : Wins rules key r) {e : Rule} (he : e ∈ rules) (ge : e.Gives key) :
    e.priority ≤ r.priority := by
  obtain ⟨before, after, rfl, _, hb, ha⟩ := h
  rcases List.mem_append.mp he with he | he
  · exact hb e he ge
  · rcases List.mem_cons.mp he with rfl | he
    · exact Int.le_refl _
    · exact Int.le_of_lt (ha e he ge)

/-- without ties the order of the rules does not matter -/
theorem of_perm (h : Wins rules key r) (perm : rules.Perm rules')
    (distinct : rules.Pairwise fun a b => a.priority ≠ b.priority) : Wins rules' key r := by
  obtain ⟨before, after, e⟩ := List.append_of_mem (perm.mem_iff.mp h.mem)
  have distinct' : rules'.Pairwise fun a b => a.priority ≠ b.priority :=
    (perm.pairwise_iff fun ne e => ne e.symm).mp distinct
  rw [e] at distinct'
  have ne : ∀ f ∈ after, r.priority ≠ f.priority :=
    (List.pairwise_cons.mp (List.pairwise_append.mp distinct').2.1).1
  have le (f : Rule) (hf : f ∈ rules') (gf : f.Gives key) : f.priority ≤ r.priority :=
    h.le (perm.mem_iff.mpr hf) gf
  refine ⟨before, after, e, h.gives, fun f hf gf => ?_, fun f hf gf => ?_⟩
  · exact le f (e ▸ List.mem_append_left _ hf) gf
  · have hf' : f ∈ rules' := e ▸ List.mem_append_right _ (List.mem_cons_of_mem _ hf)
    exact Int.lt_iff_le_and_ne.mpr ⟨le f hf' gf, fun e => ne f hf e.symm⟩

end Rule.Wins

/-! ## evaluations -/

/-- what a property is if no rule gives it -/
theorem get?_properties_of_none {rules : List Rule} {f : Framework} {n : NodeData} {key : String}
    (h : ¬ ∃ r ∈ matching rules f n, r.Gives key) :
    (evaluate rules f n).properties.get? key = none ∧
      (evaluate rules f n).provenance.get? key = none := by
  have emission : (evaluate rules f n).emissions.get? key = none :=
    foldl_offerRule_of_none_gives _ ∅ fun r hr gr => h ⟨r, hr, gr⟩
  rw [RuleEvaluation.properties, RuleEvaluation.provenance, Dict.get?_mapValues,
    Dict.get?_mapValues, emission]
  exact ⟨rfl, rfl⟩

theorem get?_properties_of_wins {rules : List Rule} {f : Framework} {n : NodeData} {key : String}
    {r : Rule} (h : Rule.Wins (matching rules f n) key r) :
    (evaluate rules f n).properties.get? key = r.properties.get? key ∧
      (evaluate rules f n).provenance.get? key = some r.id := by
  obtain ⟨v, hv, e⟩ := get?_of_wins h
  have emission : (evaluate rules f n).emissions.get? key = some ⟨v, r.priority, r.id⟩ := e
  rw [RuleEvaluation.properties, RuleEvaluation.provenance, Dict.get?_mapValues,
    Dict.get?_mapValues, emission, hv]
  exact ⟨rfl, rfl⟩

theorem mem_keys_properties_iff {rules : List Rule} {f : Framework} {n : NodeData} {key : String} :
    key ∈ (evaluate rules f n).properties.keys ↔ ∃ r ∈ matching rules f n, r.Gives key := by
  rw [Dict.mem_keys_iff]
  by_cases given : ∃ r ∈ matching rules f n, r.Gives key
  · obtain ⟨r, wins⟩ := exists_wins given
    obtain ⟨v, hv⟩ := Rule.gives_iff.mp wins.gives
    rw [(get?_properties_of_wins wins).1, hv]
    exact iff_of_true rfl given
  · rw [(get?_properties_of_none given).1]
    exact iff_of_false Bool.false_ne_true given

/-- without ties, rules in another order give a node the same properties -/
theorem evaluate_of_perm {rules rules' : List Rule} (f : Framework) (n : NodeData)
    (perm : rules.Perm rules') (distinct : rules.Pairwise fun a b => a.priority ≠ b.priority)
    (key : String) :
    (evaluate rules' f n).properties.get? key = (evaluate rules f n).properties.get? key ∧
      (evaluate rules' f n).provenance.get? key = (evaluate rules f n).provenance.get? key := by
  have permM : (matching rules f n).Perm (matching rules' f n) := perm.filter _
  by_cases given : ∃ r ∈ matching rules f n, r.Gives key
  · obtain ⟨r, wins⟩ := exists_wins given
    obtain ⟨h, h'⟩ := get?_properties_of_wins wins
    obtain ⟨k, k'⟩ := get?_properties_of_wins (wins.of_perm permM (distinct.filter _))
    exact ⟨k.trans h.symm, k'.trans h'.symm⟩
  · have given' : ¬ ∃ r ∈ matching rules' f n, r.Gives key :=
      fun ⟨r, hr, gr⟩ => given ⟨r, permM.mem_iff.mpr hr, gr⟩
    obtain ⟨h, h'⟩ := get?_properties_of_none given
    obtain ⟨k, k'⟩ := get?_properties_of_none given'
    exact ⟨k.trans h.symm, k'.trans h'.symm⟩

/-- **Evaluation is by priority.**  The rules that apply to the framework and match the node are
listed in the order of their declaration; a property is there if one of them gives it, with the
value and under the name of the rule that wins it, and no property is there without a rule it comes
from.  So the order of rules matters only among those of equal priorities. -/
theorem evaluate_priority (rules : List Rule) (f : Framework) (n : NodeData) :
    (evaluate rules f n).matchedRules
      = (rules.filter fun r => r.appliesTo f && r.isMatch n).map Rule.id ∧
    (∀ key, key ∈ (evaluate rules f n).properties.keys ↔
      ∃ r ∈ rules, r.appliesTo f = true ∧ r.isMatch n = true ∧ r.Gives key) ∧
    (∀ key ∈ (evaluate rules f n).properties.keys,
      ∃ r, Rule.Wins (rules.filter fun r => r.appliesTo f && r.isMatch n) key r ∧
        (evaluate rules f n).properties.get? key = r.properties.get? key ∧
        (evaluate rules f n).provenance.get? key = some r.id) ∧
    (evaluate rules f n).properties.keys = (evaluate rules f n).provenance.keys ∧
    (∀ rules', rules.Perm rules' → (rules.Pairwise fun a b => a.priority ≠ b.priority) →
      ∀ key, (evaluate rules' f n).properties.get? key = (evaluate rules f n).properties.get? key ∧
        (evaluate rules' f n).provenance.get? key
          = (evaluate rules f n).provenance.get? key) := by
  refine ⟨rfl, fun key => ?_, fun key hk => ?_, ?_,
    fun rules' perm distinct => evaluate_of_perm f n perm distinct⟩
  · rw [mem_keys_properties_iff]
    refine exists_congr fun r => ?_
    rw [matching, List.mem_filter, Bool.and_eq_true, and_assoc, and_assoc]
  · obtain ⟨r, wins⟩ := exists_wins (mem_keys_properties_iff.mp hk)
    exact ⟨r, wins, get?_properties_of_wins wins⟩
  · rw [RuleEvaluation.properties, RuleEvaluation.provenance, Dict.keys_mapValues,
      Dict.keys_mapValues]

/-- two rules for one property: in both orders the one with the higher priority wins it -/
theorem evaluate_priority_swapped :
    let low : Rule := { id := "low", priority := 1, properties := Dict.set ∅ "color" (.text "red") }
    let high : Rule :=
      { id := "high", priority := 2, properties := Dict.set ∅ "color" (.text "blue") }
    (evaluate [high, low] .htmlCss {}).provenance.get? "color" = some "high" ∧
      (evaluate [low, high] .htmlCss {}).provenance.get? "color" = some "high" := by
  intro low high
  have swapped := (evaluate_priority [low, high] .htmlCss {}).2.2.2.2 [high, low]
    (.swap high low []) (by simp [low, high]) "color"
  have last : (evaluate [low, high] .htmlCss {}).provenance.get? "color" = some "high" := by
    decide +kernel
  exact ⟨swapped.2.trans last, last⟩

end Handoff
