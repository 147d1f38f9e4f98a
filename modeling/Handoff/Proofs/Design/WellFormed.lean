import Handoff.Design.Reader
import Handoff.Proofs.Design.Walk

/-!
# Well-formed designs

The kind of a node decides which payload it has, and texts and shapes have no children.  All designs
that are read are like this.

* `Payload.fits`            whether a payload is what nodes of a kind have;
* `DesignNode.WellFormed`   every payload fits, and every leaf is one;
* `wellFormed_of_ofJson?`   what is read is well-formed.
-/

namespace Handoff

def NodeKind.isShape : NodeKind → Bool
  | .rectangle | .ellipse | .polygon | .star | .regularPolygon => true
  | _ => false

/-- whether a payload is what nodes of a kind have -/
def Payload.fits (kind : NodeKind) : Payload → Bool
  | .group => kind = .group
  | .text .. => kind = .text
  | .shape .. => kind.isShape
  | .vector .. => kind.isVector
  | .container _ => kind ≠ .group && kind ≠ .text && !kind.isShape && !kind.isVector

namespace NodeData

theorem fits_readPayload (get : String → Option Json) (kind : NodeKind) :
    (readPayload get kind).fits kind = true := by
  cases kind <;> rfl

/-- a text has the characters that it shows -/
theorem characters?_of_fits {d : NodeData} (fits : d.payload.fits d.kind = true)
    (text : d.kind = .text) : d.characters?.isSome = true := by
  rw [text] at fits
  unfold characters?
  cases payload : d.payload <;> rw [payload] at fits <;> first | rfl | cases fits

/-- only texts have a type style -/
theorem typeStyle?_of_fits {d : NodeData} (fits : d.payload.fits d.kind = true)
    (other : d.kind ≠ .text) : d.typeStyle? = none := by
  unfold typeStyle?
  cases payload : d.payload with
  | text _ _ _ =>
    rw [payload] at fits
    exact absurd (of_decide_eq_true fits) other
  | _ => rfl

theorem not_keepsChildren_of_fits {d : NodeData} (fits : d.payload.fits d.kind = true)
    (text : d.kind = .text) : d.keepsChildren = false := by
  rw [text] at fits
  unfold keepsChildren
  cases payload : d.payload <;> rw [payload] at fits <;> first | rfl | cases fits

end NodeData

namespace DesignNode

/-- a node has the payload of its kind, and no children if it keeps none -/
structure Proper (n : DesignNode) : Prop where
  fits : n.payload.fits n.kind = true
  leaf : n.keepsChildren = false → n.children = []

instance (n : DesignNode) : Decidable n.Proper :=
  decidable_of_iff
    (n.payload.fits n.kind = true ∧ (n.keepsChildren = false → n.children.isEmpty = true))
    ⟨fun h => ⟨h.1, fun none => List.isEmpty_iff.mp (h.2 none)⟩,
      fun h => ⟨h.fits, fun none => List.isEmpty_iff.mpr (h.leaf none)⟩⟩

def AllProper (ns : List DesignNode) : Prop := ∀ m ∈ preOrderAll ns, m.Proper

def WellFormed (n : DesignNode) : Prop := ∀ m ∈ n.preOrder, m.Proper

instance (n : DesignNode) : Decidable n.WellFormed :=
  inferInstanceAs (Decidable (∀ m ∈ n.preOrder, m.Proper))

theorem WellFormed.self {n : DesignNode} (h : n.WellFormed) : n.Proper := by
  obtain ⟨d, cs⟩ := n
  exact h _ List.mem_cons_self

theorem WellFormed.children {d : NodeData} {cs : List DesignNode} (h : WellFormed ⟨d, cs⟩) :
    AllProper cs := fun m hm => h m (List.mem_cons_of_mem _ hm)

theorem allProper_iff {ns : List DesignNode} : AllProper ns ↔ ∀ n ∈ ns, n.WellFormed := by
  induction ns with
  | nil => exact ⟨fun _ => List.forall_mem_nil _, fun _ => List.forall_mem_nil _⟩
  | cons n ns ih => rw [List.forall_mem_cons, ← ih]; exact List.forall_mem_append

theorem WellFormed.of_child {d : NodeData} {cs : List DesignNode} (h : WellFormed ⟨d, cs⟩)
    {c : DesignNode} (hc : c ∈ cs) : c.WellFormed := allProper_iff.mp h.children c hc

theorem allProper_nil : AllProper [] := List.forall_mem_nil _

theorem allProper_cons {n : DesignNode} {ns : List DesignNode} :
    AllProper (n :: ns) ↔ n.WellFormed ∧ AllProper ns := List.forall_mem_append

theorem wellFormed_build {ms : List (String × Json)} {cs : List DesignNode}
    (h : AllProper cs) : (build (NodeData.ofMembers ms) cs).WellFormed := by
  intro m hm
  rcases List.mem_cons.mp hm with rfl | hm
  · exact ⟨NodeData.fits_readPayload _ _, fun none => if_neg (Bool.eq_false_iff.mp none)⟩
  · split at hm
    · exact h m hm
    · cases hm

/-- **Designs that are read are well-formed.** -/
theorem wellFormed_of_ofJson? (v : Json) : ∀ n, ofJson? v = some n → n.WellFormed := by
  -- along the recursion of the reader: over nodes, members, lists of children and their items
  refine ofJson?.induct (fun v => ∀ n, ofJson? v = some n → n.WellFormed)
    (fun ms => ∀ cs, childrenOf? ms = some cs → AllProper cs)
    (fun v => ∀ cs, itemsOf? v = some cs → AllProper cs)
    (fun vs => ∀ cs, allOf? vs = some cs → AllProper cs)
    ?object ?noObject ?items ?noItems ?nil ?cons ?failed ?noChildren ?children ?member v
  case object =>
    intro ms ih n h
    obtain ⟨cs, children, rfl⟩ := Option.map_eq_some_iff.mp h
    exact wellFormed_build (ih cs children)
  case noObject =>
    intro v other n h
    cases v with
    | obj ms => exact absurd rfl (other ms)
    | _ => cases h
  case items => exact fun items ih cs h => ih cs h
  case noItems =>
    intro v other cs h
    cases v with
    | arr items => exact absurd rfl (other items)
    | _ =>
      cases h
      exact allProper_nil
  case nil =>
    intro cs h
    cases h
    exact allProper_nil
  case cons =>
    intro v vs n ns rest first ih ihs cs h
    simp only [allOf?, first, rest] at h
    cases h
    exact allProper_cons.mpr ⟨ih n first, ihs ns rest⟩
  case failed =>
    intro v vs failed ih ihs cs h
    unfold allOf? at h
    split at h
    · next n ns first rest => exact absurd rest (failed n ns first)
    · cases h
  case noChildren =>
    intro cs h
    cases h
    exact allProper_nil
  case children => exact fun v ms ih cs h => ih cs (by simpa only [childrenOf?, if_true] using h)
  case member =>
    exact fun k v ms other ih cs h => ih cs (by simpa only [childrenOf?, other, if_false] using h)

end DesignNode
end Handoff
