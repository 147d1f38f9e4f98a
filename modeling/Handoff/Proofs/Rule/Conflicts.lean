import Handoff.Proofs.Rule.Spelling
import Mathlib.Data.List.Basic

/-!
# Reported conflicts

Where several rules give a property there is a contest over it: one of them wins, and the others,
in front of the winner and behind it, lose.  `evaluate` reports one conflict for each contest of at
least two rules.  The report names the winner, and the losers whose ids differ from that of the
winner; so a loser with the same id is missing from it.

* `contributors_entries`   the rules of each property, without the fold that collects them;
* `Contest`                the rules that give a property, with the winner among them;
* `conflicts_eq`           the conflicts of an evaluation, one for each property with two rules;
* `conflicts_reported`     what is reported for each property, and when no loser is missing.
-/

namespace Handoff

namespace Rule

/-- whether the rule gives the property -/
def isGiver (key : String) (r : Rule) : Bool := r.properties.keys.contains key

theorem isGiver_iff {key : String} {r : Rule} : isGiver key r = true ↔ r.Gives key :=
  List.contains_iff_mem

/-- the rules that give a property, in the order of their declaration -/
def givers (rules : List Rule) (key : String) : List Rule := rules.filter (isGiver key)

theorem mem_givers {rules : List Rule} {key : String} {r : Rule} :
    r ∈ givers rules key ↔ r ∈ rules ∧ r.Gives key := by
  rw [givers, List.mem_filter, isGiver_iff]

/-- the contest over a property: the winner, and the rules in front of it and behind it -/
structure Contest (rules : List Rule) (key : String) where
  before : List Rule
  winner : Rule
  after : List Rule
  givers_eq : givers rules key = before ++ winner :: after
  le : ∀ r ∈ before, r.priority ≤ winner.priority
  lt : ∀ r ∈ after, r.priority < winner.priority

namespace Contest
variable {rules : List Rule} {key : String}

/-- the rules that give the property and do not win it -/
def losers (c : Contest rules key) : List Rule := c.before ++ c.after

theorem length_givers (c : Contest rules key) :
    (givers rules key).length = c.losers.length + 1 := by
  rw [c.givers_eq, losers, List.length_append, List.length_append, List.length_cons]
  omega

/-- the winner of the contest wins among all rules -/
theorem wins (c : Contest rules key) : Wins rules key c.winner := by
  obtain ⟨before, w, after, split, hb, ha⟩ := c
  obtain ⟨front, back, rfl, rfl, hback⟩ := List.filter_eq_append_iff.mp split
  obtain ⟨silent, tail, rfl, unsaid, gives, rfl⟩ := List.filter_eq_cons_iff.mp hback
  -- the givers around the winner are the rules around it, without those that do not give
  refine ⟨front ++ silent, tail, (List.append_assoc ..).symm, isGiver_iff.mp gives,
    fun r hr given => ?_, fun r hr given => ?_⟩
  · rcases List.mem_append.mp hr with hr | hr
    · exact hb r (mem_givers.mpr ⟨hr, given⟩)
    · exact absurd (isGiver_iff.mpr given) (unsaid r hr)
  · exact ha r (mem_givers.mpr ⟨hr, given⟩)

/-- where some rule gives a property there is a contest over it -/
theorem exists_of_giver (h : ∃ r ∈ rules, r.Gives key) : Nonempty (Contest rules key) := by
  obtain ⟨w, before, after, rfl, gives, hb, ha⟩ := exists_wins h
  have split : givers (before ++ w :: after) key
      = givers before key ++ w :: givers after key := by
    rw [givers, List.filter_append, List.filter_cons_of_pos (isGiver_iff.mpr gives)]
    rfl
  exact ⟨⟨givers before key, w, givers after key, split,
    fun r hr => hb r (mem_givers.mp hr).1 (mem_givers.mp hr).2,
    fun r hr => ha r (mem_givers.mp hr).1 (mem_givers.mp hr).2⟩⟩

/-- who lost against another id than its own -/
theorem filter_ids (c : Contest rules key) :
    ((givers rules key).map Rule.id).filter (· ≠ c.winner.id)
      = (c.losers.map Rule.id).filter (· ≠ c.winner.id) := by
  rw [c.givers_eq, losers, List.map_append, List.map_append, List.map_cons, List.filter_append,
    List.filter_append, List.filter_cons_of_neg (by simp)]

/-- nothing is filtered out just if no loser has the id of the winner -/
theorem filter_ids_eq_iff (c : Contest rules key) :
    (c.losers.map Rule.id).filter (· ≠ c.winner.id) = c.losers.map Rule.id ↔
      ∀ r ∈ c.losers, r.id ≠ c.winner.id := by
  rw [List.filter_eq_self, List.forall_mem_map]
  exact forall₂_congr fun r _ => decide_eq_true_iff

end Contest
end Rule

open Rule

/-! ## the rules of each property -/

/-- one more rule for a property -/
def enter (acc : Dict (List String)) (id key : String) : Dict (List String) :=
  acc.set key ((acc.get? key).getD [] ++ [id])

/-- one more rule for each of its properties -/
def enterRule (acc : Dict (List String)) (r : Rule) : Dict (List String) :=
  r.properties.entries.foldl (fun acc d => enter acc r.id d.1) acc

theorem contributors_eq (rules : List Rule) : contributors rules = rules.foldl enterRule ∅ := rfl

theorem getD_enter (acc : Dict (List String)) (id key j : String) :
    ((enter acc id key).get? j).getD []
      = (acc.get? j).getD [] ++ if j = key then [id] else [] := by
  rw [enter, Dict.get?_set]
  by_cases same : j = key
  · rw [if_pos same, if_pos same, same, Option.getD_some]
  · rw [if_neg same, if_neg same, List.append_nil]

theorem getD_foldl_enter (id : String) {key : String} (es : List Declaration) :
    ∀ acc : Dict (List String), (es.map Prod.fst).Nodup →
      ((es.foldl (fun acc d => enter acc id d.1) acc).get? key).getD []
        = (acc.get? key).getD [] ++ if key ∈ es.map Prod.fst then [id] else [] := by
  induction es with
  | nil => exact fun acc _ => (List.append_nil _).symm
  | cons e es ih =>
    intro acc distinct
    rw [List.map_cons, List.nodup_cons] at distinct
    rw [List.foldl_cons, ih _ distinct.2, getD_enter, List.append_assoc, List.map_cons]
    by_cases same : key = e.1
    · -- no property comes twice in a rule, so its id is entered once
      have once : key ∉ es.map Prod.fst := same ▸ distinct.1
      rw [if_pos same, if_neg once, if_pos (List.mem_cons.mpr (.inl same)), List.append_nil]
    · simp only [if_neg same, List.nil_append, List.mem_cons, or_iff_right same]

theorem getD_enterRule (acc : Dict (List String)) (r : Rule) (key : String) :
    ((enterRule acc r).get? key).getD []
      = (acc.get? key).getD [] ++ (givers [r] key).map Rule.id := by
  have here : (if key ∈ r.properties.entries.map Prod.fst then [r.id] else [])
      = (givers [r] key).map Rule.id := by
    by_cases gives : key ∈ r.properties.entries.map Prod.fst
    · rw [if_pos gives, givers, List.filter_cons_of_pos (isGiver_iff.mpr gives)]
      rfl
    · rw [if_neg gives, givers, List.filter_cons_of_neg (mt isGiver_iff.mp gives)]
      rfl
  rw [← here]
  exact getD_foldl_enter r.id r.properties.entries acc r.properties.nodup

/-- under a property stand the ids of the rules that give it -/
theorem getD_foldl_enterRule (rules : List Rule) (key : String) :
    ∀ acc : Dict (List String), ((rules.foldl enterRule acc).get? key).getD []
      = (acc.get? key).getD [] ++ (givers rules key).map Rule.id := by
  induction rules with
  | nil => exact fun acc => (List.append_nil _).symm
  | cons r rules ih =>
    intro acc
    have both : givers (r :: rules) key = givers [r] key ++ givers rules key :=
      List.filter_append [r] rules
    rw [List.foldl_cons, ih, getD_enterRule, both, List.map_append, List.append_assoc]

theorem keys_enterRule {acc : Dict (List String)} {seen : List String} (r : Rule)
    (h : acc.keys = seen.eraseDups) :
    (enterRule acc r).keys = (seen ++ r.properties.keys).eraseDups := by
  rw [keys_eq_flatMap r.properties]
  refine keys_foldl (fun acc seen d h => ?_) r.properties.entries acc seen h
  rw [enter, Dict.keys_set, h, eraseDups_concat]

theorem keys_contributors (rules : List Rule) : (contributors rules).keys = arrivals rules := by
  rw [contributors_eq]
  exact keys_foldl (fun _ _ r h => keys_enterRule r h) rules ∅ [] rfl

theorem nodup_arrivals (rules : List Rule) : (arrivals rules).Nodup :=
  keys_contributors rules ▸ (contributors rules).nodup

/-- the properties in the order in which they arrive, each with the rules that give it -/
theorem contributors_entries (rules : List Rule) : (contributors rules).entries
    = (arrivals rules).map fun key => (key, (givers rules key).map Rule.id) := by
  have value (e : String × List String) (he : e ∈ (contributors rules).entries) :
      e.2 = (givers rules e.1).map Rule.id := by
    have there : (contributors rules).get? e.1 = some e.2 := Dict.mem_entries_iff.mp he
    have ids : ((contributors rules).get? e.1).getD [] = (givers rules e.1).map Rule.id := by
      rw [contributors_eq]
      exact getD_foldl_enterRule rules e.1 ∅
    rw [there] at ids
    exact ids
  calc (contributors rules).entries
      = (contributors rules).entries.map fun e => (e.1, (givers rules e.1).map Rule.id) :=
        (List.map_id _).symm.trans (List.map_congr_left fun e he => Prod.ext rfl (value e he))
    _ = (contributors rules).keys.map fun key => (key, (givers rules key).map Rule.id) := by
        rw [Dict.keys, List.map_map]
        rfl
    _ = (arrivals rules).map fun key => (key, (givers rules key).map Rule.id) := by
        rw [keys_contributors]

/-! ## the conflicts -/

/-- what is reported of a contest -/
def Rule.Contest.report {rules : List Rule} {key : String} (c : Contest rules key) :
    RuleConflict :=
  ⟨key, c.winner.id, (c.losers.map Rule.id).filter (· ≠ c.winner.id), .of key⟩

/-- a contest is reported just if there are at least two rules in it -/
theorem conflict?_of_contest {rules : List Rule} {key : String} (c : Contest rules key) :
    conflict? (rules.foldl offerRule ∅) key ((givers rules key).map Rule.id)
      = if 1 < (givers rules key).length then some c.report else none := by
  obtain ⟨v, -, emission⟩ := get?_of_wins c.wins
  rw [Contest.report, ← c.filter_ids, ← List.length_map Rule.id, conflict?, emission]

theorem property_of_conflict? {emissions : Dict Emission} {key : String} {ids : List String}
    {conflict : RuleConflict} (h : conflict? emissions key ids = some conflict) :
    conflict.property = key := by
  unfold conflict? at h
  split at h
  · split at h
    · exact Option.some.inj h ▸ rfl
    · exact nomatch h
  · exact nomatch h

/-- whether at least two rules give the property -/
def disputed (rules : List Rule) (key : String) : Bool := decide (1 < (givers rules key).length)

theorem mem_arrivals {rules : List Rule} {key : String} :
    key ∈ arrivals rules ↔ ∃ r ∈ rules, r.Gives key := by
  rw [arrivals, List.mem_eraseDups, List.mem_flatMap]
  rfl

section
variable {rules : List Rule} {f : Framework} {n : NodeData}

theorem conflicts_eq (rules : List Rule) (f : Framework) (n : NodeData) :
    (evaluate rules f n).conflicts = (arrivals (matching rules f n)).filterMap fun key =>
      conflict? ((matching rules f n).foldl offerRule ∅) key
        ((givers (matching rules f n) key).map Rule.id) := by
  rw [evaluate, contributors_entries, List.filterMap_map]
  rfl

/-- the properties of the conflicts are the disputed ones, in the order in which they arrive -/
theorem map_property_conflicts (rules : List Rule) (f : Framework) (n : NodeData) :
    (evaluate rules f n).conflicts.map RuleConflict.property
      = (arrivals (matching rules f n)).filter (disputed (matching rules f n)) := by
  rw [conflicts_eq, List.map_filterMap, ← List.filterMap_eq_filter]
  refine List.filterMap_congr fun key hk => ?_
  obtain ⟨c⟩ := Contest.exists_of_giver (mem_arrivals.mp hk)
  rw [conflict?_of_contest c, Option.guard, disputed]
  by_cases two : 1 < (givers (matching rules f n) key).length
  · rw [if_pos two, decide_eq_true two]
    rfl
  · rw [if_neg two, decide_eq_false two]
    rfl

/-- each conflict is the report of the contest over its property -/
theorem eq_report_of_mem_conflicts {conflict : RuleConflict}
    (h : conflict ∈ (evaluate rules f n).conflicts)
    (c : Contest (matching rules f n) conflict.property) : conflict = c.report := by
  rw [conflicts_eq, List.mem_filterMap] at h
  obtain ⟨key, -, report⟩ := h
  obtain rfl := property_of_conflict? report
  rw [conflict?_of_contest c] at report
  split at report
  · exact (Option.some.inj report).symm
  · exact nomatch report

theorem mem_disputed_arrivals {key : String} :
    key ∈ (arrivals rules).filter (disputed rules) ↔ 1 < (givers rules key).length := by
  rw [List.mem_filter, disputed, decide_eq_true_iff]
  refine and_iff_right_of_imp fun two => mem_arrivals.mpr ?_
  obtain ⟨r, hr⟩ := List.exists_mem_of_length_pos (Nat.zero_lt_of_lt two)
  exact ⟨r, mem_givers.mp hr⟩

/-- **One conflict for each disputed property.**  A property is reported just if at least two of
the rules that apply and match give it, and then once, in the order in which properties arrive.
The report names the winner of the contest, which is the rule that the value of the property comes
from, and the ids of the losers, in the order of their declaration, except those that are also the
id of the winner; so all losers are there just if none of them shares its id with the winner. -/
theorem conflicts_reported (rules : List Rule) (f : Framework) (n : NodeData) :
    let matched := rules.filter fun r => r.appliesTo f && r.isMatch n
    let reports := (evaluate rules f n).conflicts
    reports.map RuleConflict.property = (arrivals matched).filter (disputed matched) ∧
    (reports.map RuleConflict.property).Nodup ∧
    (∀ key, key ∈ reports.map RuleConflict.property ↔ 1 < (givers matched key).length) ∧
    ∀ conflict ∈ reports, ∃ c : Contest matched conflict.property,
      (givers matched conflict.property).length = c.losers.length + 1 ∧
      (evaluate rules f n).provenance.get? conflict.property = some conflict.winner ∧
      conflict.winner = c.winner.id ∧
      conflict.severity = .of conflict.property ∧
      conflict.overridden = (c.losers.map Rule.id).filter (· ≠ c.winner.id) ∧
      (conflict.overridden = c.losers.map Rule.id ↔ ∀ r ∈ c.losers, r.id ≠ c.winner.id) := by
  intro matched reports
  have properties := map_property_conflicts rules f n
  refine ⟨properties, ?_, fun key => ?_, fun conflict h => ?_⟩
  · rw [properties]
    exact (nodup_arrivals matched).filter _
  · rw [properties]
    exact mem_disputed_arrivals
  · have there : conflict.property ∈ reports.map RuleConflict.property := List.mem_map_of_mem h
    rw [properties, List.mem_filter] at there
    obtain ⟨c⟩ := Contest.exists_of_giver (mem_arrivals.mp there.1)
    have report : conflict = c.report := eq_report_of_mem_conflicts h c
    have winner : conflict.winner = c.winner.id := congrArg RuleConflict.winner report
    have overridden : conflict.overridden = (c.losers.map Rule.id).filter (· ≠ c.winner.id) :=
      congrArg RuleConflict.overridden report
    refine ⟨c, c.length_givers, ?_, winner, congrArg RuleConflict.severity report, overridden, ?_⟩
    · rw [winner]
      exact (get?_properties_of_wins c.wins).2
    · rw [overridden]
      exact c.filter_ids_eq_iff

end

/-- of two rules `brand` that give the gap the second wins, and the first is not reported -/
theorem conflict_of_two_brands :
    let narrow : Rule := { id := "brand", properties := Dict.set ∅ "gap" (.text "4px") }
    let wide : Rule := { id := "brand", properties := Dict.set ∅ "gap" (.text "8px") }
    let reports := (evaluate [narrow, wide] .htmlCss {}).conflicts
    reports.map RuleConflict.property = ["gap"] ∧ reports.map RuleConflict.winner = ["brand"] ∧
      (givers [narrow, wide] "gap").map Rule.id = ["brand", "brand"] ∧
      reports.map RuleConflict.overridden = [[]] := by
  decide +kernel

end Handoff
