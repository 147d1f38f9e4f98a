import Handoff.Design.Node

/-!
# Addresses in a design tree

Two nodes of a tree may be alike in all of their data, so what becomes of a node is said of its
ADDRESS: the way from the root down to it, as the index of a child at every level.

* `DesignNode.located`        the pre-order walk, each node beside its address;
* `DesignNode.forest`, `byChildren`   induction over a tree and its lists of children;
* `map_snd_located`           without the addresses it is `preOrder`;
* `nodup_located`             no address comes twice;
* `nil_mem_located`, `cons_mem_located`   what is found at an address;
* `path`, `getLast?_path`     the nodes on the way down to it, which ends there.
-/

namespace Handoff

/-- the way down to a node: the index of a child at every level -/
abbrev Address := List Nat

/-- moves a located node below the `i`-th child of a parent -/
def Address.under (i : Nat) (e : Address × DesignNode) : Address × DesignNode := (i :: e.1, e.2)

namespace DesignNode
open Address

/-- induction along the recursion of the walks: from lists of children to their parents -/
theorem forest {P : DesignNode → Prop} {Q : List DesignNode → Prop}
    (node : ∀ d cs, Q cs → P ⟨d, cs⟩) (nil : Q []) (cons : ∀ n ns, P n → Q ns → Q (n :: ns))
    (n : DesignNode) : P n :=
  DesignNode.rec node nil cons n

/-- the same where it is enough to know something of each child -/
theorem byChildren {P : DesignNode → Prop} (node : ∀ d cs, (∀ c ∈ cs, P c) → P ⟨d, cs⟩)
    (n : DesignNode) : P n :=
  forest (Q := fun ns => ∀ c ∈ ns, P c) node (List.forall_mem_nil _)
    (fun _ _ first others => List.forall_mem_cons.mpr ⟨first, others⟩) n

mutual
/-- a node and its descendants, each before its own descendants and beside its address -/
def located (n : DesignNode) : List (Address × DesignNode) :=
  match n with
  | ⟨d, cs⟩ => ([], ⟨d, cs⟩) :: locatedFrom 0 cs
termination_by structural n

/-- the same for nodes that are the children from the `i`-th on -/
def locatedFrom (i : Nat) (ns : List DesignNode) : List (Address × DesignNode) :=
  match ns with
  | [] => []
  | n :: ns => n.located.map (under i) ++ locatedFrom (i + 1) ns
termination_by structural ns
end

theorem located_mk (d : NodeData) (cs : List DesignNode) :
    located ⟨d, cs⟩ = ([], ⟨d, cs⟩) :: locatedFrom 0 cs := rfl

theorem locatedFrom_cons (i : Nat) (n : DesignNode) (ns : List DesignNode) :
    locatedFrom i (n :: ns) = n.located.map (under i) ++ locatedFrom (i + 1) ns := rfl

theorem preOrder_mk (d : NodeData) (cs : List DesignNode) :
    preOrder ⟨d, cs⟩ = ⟨d, cs⟩ :: preOrderAll cs := rfl

theorem preOrderAll_cons (n : DesignNode) (ns : List DesignNode) :
    preOrderAll (n :: ns) = n.preOrder ++ preOrderAll ns := rfl

theorem mem_preOrderAll_of_child {c m : DesignNode} {cs : List DesignNode} (hc : c ∈ cs)
    (hm : m ∈ c.preOrder) : m ∈ preOrderAll cs := by
  induction cs with
  | nil => cases hc
  | cons n ns ih =>
    rw [preOrderAll_cons]
    rcases List.mem_cons.mp hc with rfl | hc
    · exact List.mem_append_left _ hm
    · exact List.mem_append_right _ (ih hc)

/-- the located walk is the walk -/
theorem map_snd_located (n : DesignNode) : n.located.map Prod.snd = n.preOrder := by
  induction n using DesignNode.forest
    (Q := fun ns => ∀ i, (locatedFrom i ns).map Prod.snd = preOrderAll ns) with
  | node d cs ih => rw [located_mk, preOrder_mk, List.map_cons, ih]
  | nil => rfl
  | cons n ns ih ihs i =>
    rw [locatedFrom_cons, preOrderAll_cons, List.map_append, List.map_map, ihs, ← ih]
    rfl

/-! ## what is found at an address -/

theorem mem_locatedFrom {k : Nat} {ns : List DesignNode} {a : Address} {m : DesignNode} :
    (a, m) ∈ locatedFrom k ns ↔
      ∃ i c b, ns[i]? = some c ∧ (b, m) ∈ c.located ∧ a = (k + i) :: b := by
  induction ns generalizing k with
  | nil => simp [locatedFrom]
  | cons n ns ih =>
    rw [locatedFrom_cons, List.mem_append, ih, List.mem_map]
    constructor
    · rintro (⟨⟨b, m'⟩, hb, e⟩ | ⟨i, c, b, hi, hb, rfl⟩)
      · obtain ⟨rfl, rfl⟩ := Prod.mk.inj e
        exact ⟨0, n, b, rfl, hb, rfl⟩
      · exact ⟨i + 1, c, b, hi, hb, by rw [Nat.add_assoc, Nat.add_comm 1]⟩
    · rintro ⟨i, c, b, hi, hb, rfl⟩
      cases i with
      | zero =>
        obtain rfl : n = c := Option.some.inj hi
        exact .inl ⟨(b, m), hb, rfl⟩
      | succ i => exact .inr ⟨i, c, b, hi, hb, by rw [Nat.add_assoc, Nat.add_comm 1]⟩

/-- the root is at the empty address -/
theorem nil_mem_located {n m : DesignNode} : ([], m) ∈ n.located ↔ m = n := by
  obtain ⟨d, cs⟩ := n
  rw [located_mk, List.mem_cons]
  constructor
  · rintro (e | h)
    · exact (Prod.mk.inj e).2
    · obtain ⟨i, c, b, _, _, e⟩ := mem_locatedFrom.mp h
      cases e
  · rintro rfl
    exact .inl rfl

/-- an address that begins with `i` leads below the `i`-th child -/
theorem cons_mem_located {n m : DesignNode} {i : Nat} {b : Address} :
    (i :: b, m) ∈ n.located ↔ ∃ c, n.children[i]? = some c ∧ (b, m) ∈ c.located := by
  obtain ⟨d, cs⟩ := n
  rw [located_mk, List.mem_cons]
  constructor
  · rintro (e | h)
    · cases (Prod.mk.inj e).1
    · obtain ⟨j, c, b', hj, hb, e⟩ := mem_locatedFrom.mp h
      obtain ⟨rfl, rfl⟩ := List.cons.inj e
      rw [Nat.zero_add] at *
      exact ⟨c, hj, hb⟩
  · rintro ⟨c, hc, hb⟩
    exact .inr (mem_locatedFrom.mpr ⟨i, c, b, hc, hb, by rw [Nat.zero_add]⟩)

/-- no two nodes of a tree have one address -/
theorem nodup_located (n : DesignNode) : (n.located.map Prod.fst).Nodup := by
  induction n using DesignNode.forest
    (Q := fun ns => ∀ i, ((locatedFrom i ns).map Prod.fst).Nodup) with
  | node d cs ih =>
    rw [located_mk, List.map_cons]
    refine List.nodup_cons.mpr ⟨fun h => ?_, ih 0⟩
    obtain ⟨⟨a, m⟩, hm, e⟩ := List.mem_map.mp h
    obtain ⟨j, c, b, _, _, rfl⟩ := mem_locatedFrom.mp hm
    cases e
  | nil => exact List.nodup_nil
  | cons n ns ih ihs i =>
    have e : Prod.fst ∘ under i = (i :: ·) ∘ (Prod.fst : Address × DesignNode → Address) := rfl
    rw [locatedFrom_cons, List.map_append, List.map_map, e, ← List.map_map]
    refine List.nodup_append.mpr
      ⟨List.Pairwise.map _ (fun a b hab h => hab (List.cons.inj h).2) ih, ihs (i + 1), ?_⟩
    intro a ha b hb
    -- the first child has index `i`, all others a larger one
    obtain ⟨a', _, rfl⟩ := List.mem_map.mp ha
    obtain ⟨⟨b', m⟩, hm, rfl⟩ := List.mem_map.mp hb
    obtain ⟨j, c, b, _, _, rfl⟩ := mem_locatedFrom.mp hm
    intro h
    have := (List.cons.inj h).1
    omega

/-! ## the way down to an address -/

/-- the nodes on the way down to an address, from the root on -/
def path (n : DesignNode) (a : Address) : List DesignNode :=
  match a with
  | [] => [n]
  | i :: a => n :: (n.children[i]?.map fun c => c.path a).getD []

theorem path_nil (n : DesignNode) : n.path [] = [n] := rfl

theorem path_cons {n c : DesignNode} {i : Nat} (hc : n.children[i]? = some c) (a : Address) :
    n.path (i :: a) = n :: c.path a := by
  rw [path, hc]
  rfl

theorem head?_path (n : DesignNode) (a : Address) : (n.path a).head? = some n := by
  cases a <;> rfl

theorem path_ne_nil (n : DesignNode) (a : Address) : n.path a ≠ [] := by
  intro none
  have head := head?_path n a
  rw [none] at head
  cases head

/-- the way to an address ends with the node that is found there -/
theorem getLast?_path {n m : DesignNode} {a : Address} (h : (a, m) ∈ n.located) :
    (n.path a).getLast? = some m := by
  induction a generalizing n with
  | nil => rw [path_nil, nil_mem_located.mp h, List.getLast?_singleton]
  | cons i a ih =>
    obtain ⟨c, hc, below⟩ := cons_mem_located.mp h
    rw [path_cons hc, List.getLast?_cons, ih below, Option.getD_some]

end DesignNode
end Handoff
