import Handoff.Dict
import Handoff.Proofs.ClassList.Effective
import Handoff.Proofs.ClassList.Tidied

/-!
# Which classes of a list are kept

Of the classes with one variant and one group the last is kept, and of equal classes without a group
the first.  The pair of variant and group can be written as one text, since a variant ends with a
colon and no group has one; so the last place of each pair can be kept in a table of texts, and a
second walk over the list keeps what stands at these places.

* `keyText?`, `keyText?_eq_iff`   variant and group as one text;
* `dedupeByTable`      the two walks, and `dedupeByTable_eq`, that they keep the same classes;
* `Represented`        what it means that a list is kept by some of its classes;
* `dedupe_represents`  `dedupe` keeps such classes, and nothing more goes when it is done again.
-/

namespace Handoff.ClassList

/-! ## variant and group as one text -/

def keyText? (cls : String) : Option String := (groupKey? cls).map fun key => key.1 ++ key.2

theorem no_colon_of_group? {base g : String} (h : group? base = some g) : ':' ∉ g.toList := by
  have exact' : ∀ e ∈ exactGroups, ':' ∉ e.2.toList := by decide
  have lead : ∀ e ∈ leadGroups, ':' ∉ e.2.toList := by decide
  have other : ∀ g ∈ otherGroups, ':' ∉ g.toList := by decide
  rcases group?_cases h with named | ⟨e, he, rfl, -⟩ | mem
  · exact exact' _ named
  · exact lead e he
  · exact other g mem

/-- a text that is empty or ends with a mark is told from one behind it without the mark -/
theorem append_inj_of_last {x : Char} {v w a b : List Char} (hv : v = [] ∨ v.getLast? = some x)
    (hw : w = [] ∨ w.getLast? = some x) (ha : x ∉ a) (hb : x ∉ b) (h : v ++ a = w ++ b) :
    v = w ∧ a = b := by
  have shorter {v w a b : List Char} (hw : w = [] ∨ w.getLast? = some x) (ha : x ∉ a) {m : List Char}
      (e : w = v ++ m) (ea : a = m ++ b) : m = [] := by
    by_contra filled
    have last : w.getLast? = m.getLast? := by
      rw [e, List.getLast?_append_of_ne_nil v filled]
    rcases hw with rfl | hw
    · exact filled (List.append_eq_nil_iff.mp e.symm).2
    · exact ha (ea ▸ List.mem_append_left b (List.mem_of_getLast? (last ▸ hw)))
  rcases List.append_eq_append_iff.mp h with ⟨m, ew, ea⟩ | ⟨m, ev, eb⟩
  · obtain rfl := shorter hw ha ew ea
    exact ⟨by rw [ew, List.append_nil], ea⟩
  · obtain rfl := shorter hv hb ev eb
    exact ⟨by rw [ev, List.append_nil], eb.symm⟩

/-- equal texts come from equal pairs -/
theorem keyText?_eq_iff {c d : String} : keyText? c = keyText? d ↔ groupKey? c = groupKey? d := by
  refine ⟨fun h => ?_, fun h => by rw [keyText?, keyText?, h]⟩
  unfold keyText? groupKey? at *
  cases hc : group? (baseOf c) with
  | none =>
    cases hd : group? (baseOf d) with
    | none => rfl
    | some g => rw [hc, hd] at h; cases h
  | some g =>
    cases hd : group? (baseOf d) with
    | none => rw [hc, hd] at h; cases h
    | some g' =>
      rw [hc, hd] at h
      have chars := congrArg String.toList (Option.some.inj h)
      rw [String.toList_append, String.toList_append] at chars
      obtain ⟨variant, group⟩ := append_inj_of_last (isVariant_variantOf c).last
        (isVariant_variantOf d).last (no_colon_of_group? hc) (no_colon_of_group? hd) chars
      exact congrArg some (Prod.ext (String.toList_inj.mp variant) (String.toList_inj.mp group))

theorem keyText?_eq_none {c : String} : keyText? c = none ↔ groupKey? c = none :=
  Option.map_eq_none_iff

/-! ## two walks -/

/-- the keys in a list with their places -/
def keyPlaces (start : Nat) (classes : List String) : List (String × Nat) :=
  (classes.zipIdx start).filterMap fun x => (keyText? x.1).map fun key => (key, x.2)

/-- the last place of each key -/
def lastPlaces (classes : List String) : Dict Nat := Dict.ofList (keyPlaces 0 classes)

/-- keeps what stands at the last place of its key, and the first of equal classes -/
def keptAt (last : Dict Nat) (seen : List String) : List (String × Nat) → List String
  | [] => []
  | (c, i) :: rest =>
    if (keyText? c).any fun key => last.get? key != some i then keptAt last seen rest
    else if seen.contains c then keptAt last seen rest
    else c :: keptAt last (c :: seen) rest

def dedupeByTable (classes : List String) : List String :=
  keptAt (lastPlaces classes) [] classes.zipIdx

theorem keyPlaces_cons_some {c key : String} (hk : keyText? c = some key) (start : Nat)
    (cs : List String) : keyPlaces start (c :: cs) = (key, start) :: keyPlaces (start + 1) cs := by
  rw [keyPlaces, List.zipIdx_cons, List.filterMap_cons_some (b := (key, start))]
  · rfl
  · rw [hk, Option.map_some]

theorem keyPlaces_append (a b : List String) :
    keyPlaces 0 (a ++ b) = keyPlaces 0 a ++ keyPlaces a.length b := by
  rw [keyPlaces, List.zipIdx_append, List.filterMap_append, Nat.zero_add]
  rfl

theorem mem_keyPlaces {start : Nat} {classes : List String} {e : String × Nat}
    (h : e ∈ keyPlaces start classes) :
    start ≤ e.2 ∧ ∃ c ∈ classes, keyText? c = some e.1 := by
  obtain ⟨⟨c, i⟩, hx, he⟩ := List.mem_filterMap.mp h
  obtain ⟨key, hk, rfl⟩ := Option.map_eq_some_iff.mp he
  exact ⟨(List.mem_zipIdx hx).1, c, List.fst_mem_of_mem_zipIdx hx, hk⟩

theorem exists_keyPlace {c key : String} {classes : List String} (hc : c ∈ classes)
    (hk : keyText? c = some key) (start : Nat) : ∃ e ∈ keyPlaces start classes, e.1 = key := by
  obtain ⟨i, hi⟩ := List.mem_iff_getElem?.mp hc
  have hx : (c, start + i) ∈ classes.zipIdx start := List.mk_add_mem_zipIdx_iff_getElem?.mpr hi
  exact ⟨(key, start + i), List.mem_filterMap.mpr ⟨_, hx, by rw [hk]; rfl⟩, rfl⟩

/-- the table names a place just if no class behind it has the same key -/
theorem lastPlaces_eq_iff {before cs : List String} {c key : String} (hk : keyText? c = some key) :
    (lastPlaces (before ++ c :: cs)).get? key = some before.length
      ↔ ∀ d ∈ cs, keyText? d ≠ some key := by
  rw [lastPlaces, Dict.ofList, Dict.get?_setAll, Dict.get?_empty, Option.or_none, keyPlaces_append,
    keyPlaces_cons_some hk, List.filter_append, List.filter_cons_of_pos (by simp),
    List.getLast?_append, List.getLast?_cons]
  cases later : ((keyPlaces (before.length + 1) cs).filter fun e => e.1 = key).getLast? with
  | none =>
    refine iff_of_true rfl fun d hd same => ?_
    obtain ⟨e, he, rfl⟩ := exists_keyPlace hd same (before.length + 1)
    rw [List.getLast?_eq_none_iff, List.filter_eq_nil_iff] at later
    exact later e he (decide_eq_true rfl)
  | some e =>
    obtain ⟨mem, same⟩ := List.mem_filter.mp (List.mem_of_getLast? later)
    obtain ⟨behind, d, hd, hdk⟩ := mem_keyPlaces mem
    refine iff_of_false (fun h => ?_) fun none => none d hd (hdk.trans ?_)
    · have place : e.2 = before.length := Option.some.inj h
      omega
    · rw [of_decide_eq_true same]

theorem keptAt_eq (before cs seen : List String) :
    keptAt (lastPlaces (before ++ cs)) seen (cs.zipIdx before.length) = dedupeAfter seen cs := by
  induction cs generalizing before seen with
  | nil => rfl
  | cons c cs ih =>
    have rest (seen' : List String) :
        keptAt (lastPlaces (before ++ c :: cs)) seen' (cs.zipIdx (before.length + 1))
          = dedupeAfter seen' cs := by
      have e := ih (before ++ [c]) seen'
      rw [List.append_assoc, List.length_append] at e
      exact e
    have superseded : ((keyText? c).any fun key =>
          (lastPlaces (before ++ c :: cs)).get? key != some before.length)
        = ((groupKey? c).isSome && cs.any fun d => groupKey? d == groupKey? c) := by
      cases hk : keyText? c with
      | none => rw [keyText?_eq_none.mp hk]; rfl
      | some key =>
        have given : (groupKey? c).isSome = true := by
          rw [Option.isSome_iff_ne_none, Ne, ← keyText?_eq_none, hk]
          exact Option.some_ne_none key
        rw [given, Bool.true_and, Option.any_some, Bool.eq_iff_iff, bne_iff_ne, Ne,
          lastPlaces_eq_iff hk, List.any_eq_true, not_forall]
        simp only [Classical.not_imp, not_not, ← hk, keyText?_eq_iff, beq_iff_eq]
    rw [List.zipIdx_cons, keptAt, dedupeAfter, superseded, rest, rest]

theorem dedupeByTable_eq (classes : List String) : dedupeByTable classes = dedupe classes :=
  keptAt_eq [] classes []

/-! ## what is kept -/

/-- `kept` stands for the list: in its order and without repetition, it has the last class of each
variant and group, and the first of equal classes without a group -/
structure Represented (classes kept : List String) : Prop where
  sublist : kept.Sublist classes
  nodup : kept.Nodup
  /-- one class stays of each variant and group, the last one -/
  last : ∀ key, (∃ c ∈ classes, groupKey? c = some key) → ∃ before c after,
    classes = before ++ c :: after ∧ groupKey? c = some key ∧
      (∀ d ∈ after, groupKey? d ≠ some key) ∧
      kept.filter (fun d => groupKey? d = some key) = [c]
  /-- a class without a group stays once -/
  once : ∀ c ∈ classes, groupKey? c = none → kept.count c = 1
  /-- what stays is at the last place of its variant and group, or the first of the class -/
  places : kept = (classes.zipIdx.filter fun x => counts classes x.1 x.2).map Prod.fst

theorem not_mem_seen {c : String} {classes seen : List String} (h : c ∈ dedupeAfter seen classes) :
    c ∉ seen := by
  induction classes generalizing seen with
  | nil => cases h
  | cons d ds ih =>
    unfold dedupeAfter at h
    split at h
    · exact ih h
    split at h
    · exact ih h
    · next new =>
      rcases List.mem_cons.mp h with rfl | h
      · exact fun old => new (List.contains_iff_mem.mpr old)
      · exact fun old => ih h (List.mem_cons_of_mem d old)

theorem nodup_dedupeAfter (classes seen : List String) : (dedupeAfter seen classes).Nodup := by
  induction classes generalizing seen with
  | nil => exact .nil
  | cons c cs ih =>
    unfold dedupeAfter
    split
    · exact ih seen
    split
    · exact ih seen
    · exact List.nodup_cons.mpr ⟨fun again => not_mem_seen again List.mem_cons_self, ih _⟩

theorem nodup_dedupe (classes : List String) : (dedupe classes).Nodup :=
  nodup_dedupeAfter classes []

theorem mem_dedupeAfter_of_free {c : String} {classes seen : List String} (hc : c ∈ classes)
    (free : groupKey? c = none) (new : c ∉ seen) : c ∈ dedupeAfter seen classes := by
  induction classes generalizing seen with
  | nil => cases hc
  | cons d ds ih =>
    unfold dedupeAfter
    rcases List.mem_cons.mp hc with rfl | hc
    · rw [free, if_neg (by simp), if_neg (by simpa using new)]
      exact List.mem_cons_self
    · split
      · exact ih hc new
      split
      · exact ih hc new
      · by_cases same : c = d
        · exact same ▸ List.mem_cons_self
        · refine List.mem_cons_of_mem d (ih hc ?_)
          rw [List.mem_cons, not_or]
          exact ⟨same, new⟩

/-- what is said of the last class with a key says it of the only one that is kept -/
theorem filter_dedupe (key : String × String) (classes : List String) :
    (dedupe classes).filter (fun c => groupKey? c = some key)
      = ((classes.filter fun c => groupKey? c = some key).getLast?).toList := by
  let keyed : String → Option String := Option.guard fun c => groupKey? c = some key
  have grouped : Grouped keyed := by
    intro c hc
    have given : groupKey? c = some key := by simpa [keyed] using hc
    refine ⟨by rw [given]; rfl, fun d hd => ?_⟩
    simpa [keyed] using hd.trans given
  have last := lastBy_dedupe grouped classes
  rw [lastBy, lastBy, List.filterMap_eq_filter] at last
  rw [← last]
  -- two classes with the key would exclude each other
  have single := (distinct_dedupe classes).sublist
    (List.filter_sublist (p := fun c => decide (groupKey? c = some key)))
  have keys : ∀ c ∈ (dedupe classes).filter (fun c => groupKey? c = some key),
      groupKey? c = some key := fun c hc => by simpa using (List.mem_filter.mp hc).2
  generalize (dedupe classes).filter (fun c => groupKey? c = some key) = kept at single keys
  cases kept with
  | nil => rfl
  | cons c others =>
    cases others with
    | nil => rfl
    | cons d rest =>
      have hc := keys c List.mem_cons_self
      have hd := keys d (List.mem_cons_of_mem c List.mem_cons_self)
      exact absurd (hd.trans hc.symm)
        (List.rel_of_pairwise_cons single List.mem_cons_self (by rw [hc]; rfl))

theorem represented_dedupe (classes : List String) : Represented classes (dedupe classes) where
  sublist := by
    have picked := (List.filter_sublist (l := classes.zipIdx)
      (p := fun x => counts classes x.1 x.2)).map Prod.fst
    rw [List.zipIdx_map_fst] at picked
    exact dedupe_eq_counting classes ▸ picked
  nodup := nodup_dedupe classes
  last key present := by
    obtain ⟨c, hc, hk⟩ := present
    cases h : (classes.filter fun c => groupKey? c = some key).getLast? with
    | none =>
      rw [List.getLast?_eq_none_iff, List.filter_eq_nil_iff] at h
      exact absurd (decide_eq_true hk) (h c hc)
    | some d =>
      obtain ⟨front, e⟩ := List.getLast?_eq_some_iff.mp h
      obtain ⟨before, rest, rfl, -, hrest⟩ := List.filter_eq_append_iff.mp e
      obtain ⟨between, after, rfl, -, hd, none⟩ := List.filter_eq_cons_iff.mp hrest
      refine ⟨before ++ between, d, after, by rw [List.append_assoc], of_decide_eq_true hd,
        fun d' hd' => ?_, by rw [filter_dedupe, h]; rfl⟩
      simpa using List.filter_eq_nil_iff.mp none d' hd'
  once c hc free := by
    have kept : c ∈ dedupe classes := mem_dedupeAfter_of_free hc free List.not_mem_nil
    rw [(nodup_dedupe classes).count, if_pos kept]
  places := dedupe_eq_counting classes

/-! ## once more -/

theorem dedupeAfter_eq_self {classes seen : List String} (distinct : Distinct classes)
    (nodup : classes.Nodup) (new : ∀ c ∈ classes, c ∉ seen) : dedupeAfter seen classes = classes := by
  induction classes generalizing seen with
  | nil => rfl
  | cons c cs ih =>
    obtain ⟨alone, distinct⟩ := List.pairwise_cons.mp distinct
    obtain ⟨once, nodup⟩ := List.nodup_cons.mp nodup
    obtain ⟨newc, new⟩ := List.forall_mem_cons.mp new
    have last : ¬ ((groupKey? c).isSome && cs.any fun d => groupKey? d == groupKey? c) = true := by
      rw [Bool.and_eq_true, List.any_eq_true]
      rintro ⟨given, d, hd, same⟩
      exact alone d hd given (eq_of_beq same)
    rw [dedupeAfter, if_neg last, if_neg (by simpa using newc), ih distinct nodup]
    intro d hd
    rw [List.mem_cons, not_or]
    exact ⟨fun same => once (same ▸ hd), new d hd⟩

theorem dedupe_dedupe (classes : List String) : dedupe (dedupe classes) = dedupe classes :=
  dedupeAfter_eq_self (distinct_dedupe classes) (nodup_dedupe classes) fun _ _ => List.not_mem_nil

/-- **What is kept of a class list.**  The result stands for the list: the last class of each variant
and group, the first of equal classes without a group, and all in their order.  Doing it again
changes nothing, and a table of last places under one text for variant and group gives the same. -/
theorem dedupe_represents (classes : List String) :
    Represented classes (dedupe classes) ∧ dedupe (dedupe classes) = dedupe classes ∧
      dedupeByTable classes = dedupe classes :=
  ⟨represented_dedupe classes, dedupe_dedupe classes, dedupeByTable_eq classes⟩

example : dedupe ["text-[14px]", "flex", "shadow", "md:text-sm", "text-sm", "shadow", "inline-flex"]
    = ["shadow", "md:text-sm", "text-sm", "inline-flex"] := by decide +kernel

end Handoff.ClassList
