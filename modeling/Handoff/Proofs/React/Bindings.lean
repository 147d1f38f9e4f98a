import Handoff.Proofs.Styled.Shown
import Handoff.React.Props
import Mathlib.Data.List.Nodup

/-!
# The props that are bound for a tree

Props are bound along a walk that stops at hidden nodes and at drawings.  A text that is long enough
has a prop, and so has a node that is an image; where a node is both, the prop of its image takes
the place of that of its text.

* `StyledNode.offered`     the nodes that the walk comes to, among those that become elements;
* `Props.offer?`           the kind and the default of the prop that a node has;
* `add_eq_foldl`           binding is a fold over these nodes;
* `entries_of`             what is bound in the end, in order, if all ids are distinct;
* `exists_binding_iff`     which prop a node has;
* `values_of`              the props in the order of the walk.
-/

namespace Handoff

/-- the values are what the view has for the keys, in their order -/
theorem Dict.filterMap_keys {α : Type} (d : Dict α) : d.keys.filterMap d.get? = d.values := by
  rw [keys, values, List.filterMap_map, ← List.filterMap_eq_map]
  exact List.filterMap_congr fun e he => mem_entries_iff.mp he

namespace StyledNode

mutual
/-- the nodes that can have props: visible ones that are no drawings, and below nothing else -/
def offered (n : StyledNode) : List StyledNode :=
  match n with
  | ⟨d, cs⟩ => if !d.isVisible || isDrawn ⟨d, cs⟩ then [] else ⟨d, cs⟩ :: offeredAll cs
termination_by structural n

def offeredAll (ns : List StyledNode) : List StyledNode :=
  match ns with
  | [] => []
  | n :: ns => n.offered ++ offeredAll ns
termination_by structural ns
end

/-- what is visible is rendered, but not the other way round -/
theorem offered_sublist_emitted (n : StyledNode) : n.offered.Sublist n.emitted := by
  induction n using forest (Q := fun ns => (offeredAll ns).Sublist (emittedAll ns)) with
  | node d cs ih =>
    unfold offered
    split
    · exact List.nil_sublist _
    · next h =>
      obtain ⟨visible, plain⟩ : d.isVisible = true ∧ isDrawn ⟨d, cs⟩ = false := by simpa using h
      rw [emitted_box (by rw [StyledData.isRendered, visible, Bool.true_or]) plain]
      exact ih.cons_cons _
  | nil => exact List.Sublist.refl _
  | cons n ns ih ihs => exact ih.append ihs

theorem offered_sublist (n : StyledNode) : n.offered.Sublist n.preOrder :=
  (offered_sublist_emitted n).trans (emitted_sublist n)

theorem not_drawn_of_mem_offered {m : StyledNode} (n : StyledNode) :
    m ∈ n.offered → m.isDrawn = false := by
  induction n using forest (Q := fun ns => m ∈ offeredAll ns → m.isDrawn = false) with
  | node d cs ih =>
    unfold offered
    split
    · exact fun h => absurd h List.not_mem_nil
    · next plain =>
      intro h
      rcases List.mem_cons.mp h with rfl | h
      · exact (by simpa using plain : _ ∧ _).2
      · exact ih h
  | nil h => exact absurd h List.not_mem_nil
  | cons n ns ih ihs h => exact (List.mem_append.mp h).elim ih ihs

end StyledNode

namespace React
open StyledNode

/-- the kind and the default of a prop -/
def Binding.offer (b : Binding) : PropKind × String := (b.kind, b.default)

namespace Props

/-- the text of a node, if it is long enough for a prop -/
def textOf? (n : StyledData) : Option String :=
  n.characters?.filter fun text => n.isText && minTextLength ≤ (Chars.trim text.toList).length

/-- the address of the image that a node is, if it is known -/
def imageOf? (assets : Assets) (n : StyledNode) : Option String :=
  match fillForm n with
  | .image layer => layer.imageRef?.bind assets.image?
  | _ => none

/-- the kind and the default of the prop that a node has; an image comes before a text -/
def offer? (assets : Assets) (n : StyledNode) : Option (PropKind × String) :=
  ((imageOf? assets n).map (.image, ·)).or ((textOf? n.toStyledData).map (.text, ·))

theorem bindText_eq (ps : Props) (n : StyledData) :
    ps.bindText n = ((textOf? n).map (ps.bind n.id n.name .text)).getD ps := by
  unfold bindText textOf?
  cases n.characters? with
  | none => rfl
  | some text =>
    dsimp only
    rw [Option.filter_some]
    split <;> rfl

theorem bindImage_eq (assets : Assets) (ps : Props) (n : StyledNode) :
    bindImage assets ps n = ((imageOf? assets n).map (ps.bind n.id n.name .image)).getD ps := by
  unfold bindImage imageOf?
  cases fillForm n with
  | image layer =>
    dsimp only
    cases layer.imageRef?.bind assets.image? <;> rfl
  | styled | layered => rfl

/-- binds what there is to bind for a node -/
def bindNode (assets : Assets) (ps : Props) (n : StyledNode) : Props :=
  bindImage assets (ps.bindText n.toStyledData) n

/-- binding goes along the walk -/
theorem add_eq_foldl (assets : Assets) (n : StyledNode) :
    ∀ ps, add assets ps n = n.offered.foldl (bindNode assets) ps := by
  induction n using forest
    (Q := fun ns => ∀ ps, addAll assets ps ns = (offeredAll ns).foldl (bindNode assets) ps) with
  | node d cs ih =>
    intro ps
    unfold add offered
    split
    · rfl
    · rw [List.foldl_cons, ih]
      rfl
  | nil ps => rfl
  | cons n ns ih ihs ps =>
    show addAll assets (add assets ps n) ns = (n.offered ++ offeredAll ns).foldl _ ps
    rw [List.foldl_append, ih, ihs]

/-! ## the bindings -/

/-- ids with what is bound for them -/
def offers (ps : Props) : List (String × PropKind × String) :=
  ps.bindings.entries.map fun e => (e.1, e.2.offer)

theorem keys_eq_map_offers (ps : Props) : ps.bindings.keys = ps.offers.map Prod.fst := by
  rw [offers, List.map_map]
  rfl

variable (assets : Assets)

/-- a node with a new id adds what it has at the end -/
theorem offers_bindNode {ps : Props} {n : StyledNode} (new : n.id ∉ ps.bindings.keys) :
    (bindNode assets ps n).offers = ps.offers ++ ((offer? assets n).map (n.id, ·)).toList := by
  have one (b : Binding) : ((ps.bindings.set n.id b).entries.map fun e => (e.1, e.2.offer))
      = ps.offers ++ [(n.id, b.offer)] := by
    rw [Dict.entries_set_of_not_mem new, List.map_append]
    rfl
  unfold bindNode offer?
  rw [bindImage_eq, bindText_eq]
  cases imageOf? assets n with
  | none =>
    cases textOf? n.toStyledData with
    | none => exact (List.append_nil _).symm
    | some text => exact one _
  | some url =>
    cases textOf? n.toStyledData with
    | none => exact one _
    | some text =>
      -- the image is bound under the same id as the text
      exact (congrArg (fun d : Dict Binding => d.entries.map fun e => (e.1, e.2.offer))
        (Dict.set_set ..)).trans (one _)

theorem offers_foldl (nodes : List StyledNode) : ∀ ps : Props,
    (∀ n ∈ nodes, n.id ∉ ps.bindings.keys) → (nodes.map fun n => n.id).Nodup →
    (nodes.foldl (bindNode assets) ps).offers
      = ps.offers ++ nodes.filterMap fun n => (offer? assets n).map (n.id, ·) := by
  induction nodes with
  | nil => exact fun ps _ _ => (List.append_nil _).symm
  | cons n nodes ih =>
    intro ps new ids
    obtain ⟨apart, ids⟩ := List.nodup_cons.mp ids
    have first := offers_bindNode assets (new n List.mem_cons_self)
    rw [List.foldl_cons, ih _ (fun m hm key => ?_) ids, first, List.append_assoc,
      List.filterMap_cons]
    · cases offer? assets n <;> rfl
    · rw [keys_eq_map_offers, first, List.map_append, ← keys_eq_map_offers] at key
      rcases List.mem_append.mp key with key | key
      · exact new m (List.mem_cons_of_mem _ hm) key
      · have same : m.id = n.id := by
          cases found : offer? assets n with
          | none => rw [found] at key; exact absurd key List.not_mem_nil
          | some o => rw [found] at key; exact List.mem_singleton.mp key
        exact apart (List.mem_map.mpr ⟨m, hm, same⟩)

variable {assets} {root : StyledNode} (ids : (root.preOrder.map fun n => n.id).Nodup)
include ids

/-- what is bound for a tree -/
theorem offers_of :
    (of assets root).offers = root.offered.filterMap fun n => (offer? assets n).map (n.id, ·) := by
  have part := (offered_sublist root).map fun n => n.id
  rw [of, add_eq_foldl, offers_foldl assets _ {} (fun n _ => List.not_mem_nil) (part.nodup ids)]
  rfl

/-- a node has the prop that it offers, if the walk comes to it -/
theorem exists_binding_iff {n : StyledNode} (hn : n ∈ root.preOrder) {o : PropKind × String} :
    (∃ b, (of assets root).bindings.get? n.id = some b ∧ b.offer = o) ↔
      n ∈ root.offered ∧ offer? assets n = some o := by
  have bound : (∃ b, (of assets root).bindings.get? n.id = some b ∧ b.offer = o) ↔
      (n.id, o) ∈ (of assets root).offers := by
    unfold offers
    simp only [List.mem_map, ← Dict.mem_entries_iff]
    constructor
    · rintro ⟨b, hb, rfl⟩
      exact ⟨_, hb, rfl⟩
    · rintro ⟨⟨id, b⟩, hb, e⟩
      obtain ⟨rfl, rfl⟩ := Prod.mk.inj e
      exact ⟨b, hb, rfl⟩
  rw [bound, offers_of ids, List.mem_filterMap]
  constructor
  · rintro ⟨m, hm, e⟩
    obtain ⟨o', offer, e⟩ := Option.map_eq_some_iff.mp e
    obtain ⟨same, rfl⟩ := Prod.mk.inj e
    obtain rfl := List.inj_on_of_nodup_map ids ((offered_sublist root).subset hm) hn same
    exact ⟨hm, offer⟩
  · rintro ⟨hm, offer⟩
    exact ⟨n, hm, by rw [offer]; rfl⟩

theorem get?_eq_none {n : StyledNode} (hn : n ∈ root.preOrder)
    (h : n ∉ root.offered ∨ offer? assets n = none) :
    (of assets root).bindings.get? n.id = none := by
  cases found : (of assets root).bindings.get? n.id with
  | none => rfl
  | some b =>
    obtain ⟨offered, offer⟩ := (exists_binding_iff ids hn).mp ⟨b, found, rfl⟩
    rcases h with h | h
    · exact absurd offered h
    · rw [h] at offer
      cases offer

/-- the props in the order of the walk -/
theorem values_of : (of assets root).bindings.values
    = root.offered.filterMap fun n => (of assets root).bindings.get? n.id := by
  rw [← Dict.filterMap_keys, keys_eq_map_offers, offers_of ids, List.map_filterMap,
    List.filterMap_filterMap]
  refine List.filterMap_congr fun n hn => ?_
  have part : n ∈ root.preOrder := (offered_sublist root).subset hn
  cases offer : offer? assets n with
  | none => rw [get?_eq_none ids part (.inr offer)]; rfl
  | some o => rfl

/-- a node has a prop of a kind if what it offers is of this kind -/
theorem isSome_name?_iff {n : StyledNode} (hn : n ∈ root.preOrder) {kind : PropKind} :
    ((of assets root).name? n.id kind).isSome = true ↔
      n ∈ root.offered ∧ ∃ default, offer? assets n = some (kind, default) := by
  have named : ((of assets root).name? n.id kind).isSome = true ↔
      ∃ default b, (of assets root).bindings.get? n.id = some b ∧ b.offer = (kind, default) := by
    unfold name?
    cases (of assets root).bindings.get? n.id with
    | none => simp
    | some b =>
      by_cases same : b.kind = kind
      · rw [← same]
        simp [Binding.offer]
      · simp [Binding.offer, same]
  rw [named]
  simp only [exists_binding_iff ids hn, exists_and_left]

end Props
end React
end Handoff
