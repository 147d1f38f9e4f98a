/-!
# Insertion-ordered dictionaries

`Dict α` is a list of pairs read as a finite map from strings.  A key keeps the place where it
first arrived, and writing to it again changes its value only; styles, rule properties and
variables are all written out in this order.  No key comes twice: the type says so, and every
operation keeps it.

The view is `get?`; `keys` gives the order.
-/

namespace Handoff

universe u v

/-- a finite map from strings that remembers the order in which its keys arrived -/
structure Dict (α : Type u) where
  entries : List (String × α)
  nodup : (entries.map Prod.fst).Nodup
deriving Repr

namespace Dict
variable {α : Type u} {β : Type v}

instance : EmptyCollection (Dict α) := ⟨⟨[], List.nodup_nil⟩⟩
instance : Inhabited (Dict α) := ⟨∅⟩

/-- writes `v` under `k` in a list of pairs: in place if `k` is there, else at the end -/
def assign (k : String) (v : α) : List (String × α) → List (String × α)
  | [] => [(k, v)]
  | (k', v') :: rest => if k' = k then (k, v) :: rest else (k', v') :: assign k v rest

theorem map_fst_assign (k : String) (v : α) (es : List (String × α)) :
    (assign k v es).map Prod.fst
      = if k ∈ es.map Prod.fst then es.map Prod.fst else es.map Prod.fst ++ [k] := by
  induction es with
  | nil => simp [assign]
  | cons e es ih =>
    obtain ⟨k', v'⟩ := e
    unfold assign
    by_cases hk : k' = k
    · subst hk; simp
    · rw [if_neg hk, List.map_cons, ih]
      have hk' : ¬ k = k' := fun h => hk h.symm
      by_cases hm : k ∈ es.map Prod.fst
      · rw [if_pos hm, if_pos (by rw [List.map_cons]; exact List.mem_cons_of_mem _ hm)]
        rfl
      · rw [if_neg hm, if_neg (by rw [List.map_cons, List.mem_cons]; exact fun h => h.elim hk' hm)]
        rfl

theorem nodup_assign (k : String) (v : α) {es : List (String × α)}
    (h : (es.map Prod.fst).Nodup) : ((assign k v es).map Prod.fst).Nodup := by
  rw [map_fst_assign]
  split
  · exact h
  · next hk =>
    refine List.nodup_append.mpr ⟨h, by simp, fun a ha b hb => ?_⟩
    rw [List.mem_singleton.mp hb]
    exact fun e => hk (e ▸ ha)

def keys (d : Dict α) : List String := d.entries.map Prod.fst

def values (d : Dict α) : List α := d.entries.map Prod.snd

def get? (d : Dict α) (k : String) : Option α := d.entries.lookup k

def contains (d : Dict α) (k : String) : Bool := (d.get? k).isSome

def set (d : Dict α) (k : String) (v : α) : Dict α :=
  ⟨assign k v d.entries, nodup_assign k v d.nodup⟩

/-- writes only where the key is absent -/
def setDefault (d : Dict α) (k : String) (v : α) : Dict α :=
  if d.contains k then d else d.set k v

/-- removes a key; the others keep their order -/
def erase (d : Dict α) (k : String) : Dict α :=
  ⟨d.entries.filter fun e => e.1 ≠ k, d.nodup.sublist (List.filter_sublist.map Prod.fst)⟩

def size (d : Dict α) : Nat := d.entries.length

def isEmpty (d : Dict α) : Bool := d.entries.isEmpty

/-- writes the entries one after the other, so that a later one wins -/
def setAll (d : Dict α) (es : List (String × α)) : Dict α :=
  es.foldl (fun acc e => acc.set e.1 e.2) d

def ofList (es : List (String × α)) : Dict α := setAll ∅ es

/-- writes every entry of `e` over `d` -/
def merge (d e : Dict α) : Dict α := d.setAll e.entries

def mapValues (f : α → β) (d : Dict α) : Dict β where
  entries := d.entries.map fun e => (e.1, f e.2)
  nodup := by rw [List.map_map]; exact d.nodup

/-! ## what the operations do to the view -/

@[simp] theorem get?_empty (k : String) : (∅ : Dict α).get? k = none := rfl

theorem lookup_assign (k j : String) (v : α) (es : List (String × α)) :
    (assign k v es).lookup j = if j = k then some v else es.lookup j := by
  induction es with
  | nil => by_cases h : j = k <;> simp [assign, h]
  | cons e es ih =>
    obtain ⟨k', v'⟩ := e
    unfold assign
    by_cases hk : k' = k
    · subst hk
      by_cases h : j = k'
      · simp [h]
      · simp [List.lookup_cons, beq_false_of_ne h, h]
    · rw [if_neg hk]
      by_cases hj : j = k'
      · subst hj
        simp [hk]
      · simp only [List.lookup_cons, beq_false_of_ne hj]
        exact ih

@[simp] theorem get?_set (d : Dict α) (k j : String) (v : α) :
    (d.set k v).get? j = if j = k then some v else d.get? j :=
  lookup_assign k j v d.entries

theorem lookup_filter_ne (k j : String) (es : List (String × α)) :
    (es.filter fun e => e.1 ≠ k).lookup j = if j = k then none else es.lookup j := by
  induction es with
  | nil => simp
  | cons e es ih =>
    obtain ⟨k', v'⟩ := e
    by_cases hk : k' = k
    · subst hk
      by_cases hj : j = k'
      · simpa [hj] using ih
      · simpa [List.lookup_cons, beq_false_of_ne hj, hj] using ih
    · by_cases hj : j = k'
      · subst hj
        simp [hk]
      · simp only [ne_eq, hk, not_false_eq_true, decide_true, List.filter_cons_of_pos,
          List.lookup_cons, beq_false_of_ne hj]
        simpa using ih

@[simp] theorem get?_erase (d : Dict α) (k j : String) :
    (d.erase k).get? j = if j = k then none else d.get? j :=
  lookup_filter_ne k j d.entries

/-- a key that is present keeps its place, a new one goes to the end -/
theorem keys_set (d : Dict α) (k : String) (v : α) :
    (d.set k v).keys = if k ∈ d.keys then d.keys else d.keys ++ [k] :=
  map_fst_assign k v d.entries

theorem mem_keys_iff {d : Dict α} {k : String} : k ∈ d.keys ↔ (d.get? k).isSome = true := by
  rw [get?, List.lookup_isSome_iff, keys, List.mem_map]
  exact exists_congr fun e => and_congr_right fun _ => eq_comm.trans beq_iff_eq.symm

theorem lookup_map_snd (f : α → β) (k : String) (es : List (String × α)) :
    (es.map fun e => (e.1, f e.2)).lookup k = (es.lookup k).map f := by
  induction es with
  | nil => rfl
  | cons e es ih =>
    rw [List.map_cons, List.lookup_cons, List.lookup_cons, ih]
    cases k == e.1 <;> rfl

@[simp] theorem get?_mapValues (f : α → β) (d : Dict α) (k : String) :
    (d.mapValues f).get? k = (d.get? k).map f := lookup_map_snd f k d.entries

@[simp] theorem keys_mapValues (f : α → β) (d : Dict α) : (d.mapValues f).keys = d.keys := by
  show (d.entries.map _).map Prod.fst = d.entries.map Prod.fst
  rw [List.map_map]
  rfl

/-- the entries are the graph of the view -/
theorem mem_entries_iff {d : Dict α} {k : String} {v : α} :
    (k, v) ∈ d.entries ↔ d.get? k = some v := by
  rw [get?, List.lookup_eq_some_iff]
  constructor
  · intro h
    obtain ⟨before, after, e⟩ := List.append_of_mem h
    refine ⟨before, after, e, fun p hp => bne_iff_ne.mpr fun same => ?_⟩
    have nodup := d.nodup
    rw [e, List.map_append, List.map_cons, List.nodup_append] at nodup
    exact nodup.2.2 p.1 (List.mem_map_of_mem hp) k List.mem_cons_self same.symm
  · rintro ⟨before, after, e, _⟩
    rw [e]
    exact List.mem_append_right _ List.mem_cons_self

/-- of the entries that are written under a key the last one stays -/
theorem get?_setAll (d : Dict α) (es : List (String × α)) (k : String) :
    (d.setAll es).get? k
      = (((es.filter fun e => e.1 = k).getLast?).map Prod.snd).or (d.get? k) := by
  induction es generalizing d with
  | nil => rfl
  | cons e es ih =>
    show ((d.set e.1 e.2).setAll es).get? k = _
    rw [ih, get?_set, List.filter_cons]
    by_cases h : e.1 = k
    · rw [if_pos h.symm, if_pos (decide_eq_true h), List.getLast?_cons]
      cases (es.filter fun e => e.1 = k).getLast? <;> rfl
    · rw [if_neg (Ne.symm h), if_neg (by simpa using h)]

/-- entries with other keys do not matter -/
theorem get?_setAll_of_not_mem {d : Dict α} {es : List (String × α)} {k : String}
    (h : ∀ e ∈ es, e.1 ≠ k) : (d.setAll es).get? k = d.get? k := by
  have none : es.filter (fun e => e.1 = k) = [] :=
    List.filter_eq_nil_iff.mpr fun e he => by simpa using h e he
  rw [get?_setAll, none]
  rfl

theorem get?_foldl_erase (d : Dict α) (ks : List String) (k : String) :
    (ks.foldl erase d).get? k = if k ∈ ks then none else d.get? k := by
  induction ks generalizing d with
  | nil => rfl
  | cons j ks ih =>
    show (ks.foldl erase (d.erase j)).get? k = _
    rw [ih, get?_erase]
    by_cases same : k = j
    · rw [if_pos same, if_pos (List.mem_cons.mpr (.inl same)), ite_self]
    · simp only [same, if_false, List.mem_cons, false_or]

theorem assign_assign (k : String) (v w : α) (es : List (String × α)) :
    assign k w (assign k v es) = assign k w es := by
  induction es with
  | nil => simp [assign]
  | cons e es ih =>
    obtain ⟨k', v'⟩ := e
    by_cases hk : k' = k
    · simp [assign, hk]
    · simp [assign, hk, ih]

/-- of two values that are written under a key the second stays -/
theorem set_set (d : Dict α) (k : String) (v w : α) : (d.set k v).set k w = d.set k w := by
  unfold set
  simp only [assign_assign]

theorem assign_of_not_mem {k : String} {es : List (String × α)} (new : k ∉ es.map Prod.fst)
    (v : α) : assign k v es = es ++ [(k, v)] := by
  induction es with
  | nil => rfl
  | cons e es ih =>
    obtain ⟨k', v'⟩ := e
    rw [List.map_cons, List.mem_cons, not_or] at new
    rw [assign, if_neg (Ne.symm new.1), ih new.2, List.cons_append]

/-- an entry with a new key goes to the end -/
theorem entries_set_of_not_mem {d : Dict α} {k : String} (new : k ∉ d.keys) (v : α) :
    (d.set k v).entries = d.entries ++ [(k, v)] := assign_of_not_mem new v

theorem mem_keys_ofList {es : List (String × α)} {k : String} :
    k ∈ (ofList es).keys ↔ k ∈ es.map Prod.fst := by
  rw [mem_keys_iff, ofList, get?_setAll, get?_empty, Option.or_none, Option.isSome_map,
    List.getLast?_isSome, Ne, List.filter_eq_nil_iff]
  simp

end Dict
end Handoff
