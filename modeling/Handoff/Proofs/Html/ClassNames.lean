import Handoff.Proofs.Html.Elements
import Handoff.Proofs.Naming.Kebab
import Handoff.Proofs.Styling.Names
import Mathlib.Data.List.Nodup
import Mathlib.Data.List.Pairwise

/-!
# The classes of a page

A page gives every element a class of its own, which stands in front of the classes of rules, and
its stylesheet has rules for these classes only.  The names of elements are unique, but their
classes are the names in kebab case, and the classes of layers are made from those of their nodes.
So two elements can have the same class, and then the rules of one hold for both.

* `ownClasses`             the classes that a page gives to its elements;
* `Clash`                  the ways in which the classes of two nodes coincide;
* `disjoint_classesOf`     there are no others;
* `covered_sheet`          the stylesheet has no rules for other classes;
* `ownClasses_nodup_iff`   the classes of a page are distinct unless two of its nodes clash.
-/

namespace Handoff.Html
open Chars StyledNode Naming Page

/-- what stands in front of the first blank -/
def firstWord (s : String) : String := Text.onChars (List.takeWhile fun c => !isBlank c) s

/-- the first class of an element -/
def ownClass? (as : List Attribute) : Option String :=
  (as.find? fun a => a.name == "class").bind fun a =>
    match a.value with
    | .verbatim s => some (firstWord s)
    | _ => none

/-- the first classes of elements and of all that is inside of them -/
def ownClasses (es : List Element) : List String := (attributeLists es).filterMap ownClass?

/-- the classes that a page gives to the elements of a node -/
def classesOf (n : StyledNode) : List String :=
  className n.toStyledData ::
    if form n = .box true then
      layersClass n.toStyledData :: (List.range n.fills.length).map (layerClass n.toStyledData)
    else []

/-! ## reading classes from elements -/

theorem firstWord_eq {word s : String} (rest : List Char)
    (h : ∀ c ∈ word.toList, isBlank c = false) (e : s.toList = word.toList ++ rest)
    (hr : rest.head?.all isBlank) : firstWord s = word := by
  refine String.toList_injective ?_
  have front : ∀ c ∈ word.toList, (!isBlank c) = true := fun c hc => by rw [h c hc]; rfl
  rw [firstWord, Text.toList_onChars, e, List.takeWhile_append_of_pos front]
  cases rest with
  | nil => exact List.append_nil _
  | cons c rest =>
    rw [List.takeWhile_cons_of_neg, List.append_nil]
    simpa using hr

theorem firstWord_self {word : String} (h : ∀ c ∈ word.toList, isBlank c = false) :
    firstWord word = word :=
  firstWord_eq [] h (List.append_nil _).symm rfl

theorem className_not_blank (n : StyledData) :
    ∀ c ∈ (className n).toList, isBlank c = false := by
  intro c hc
  rw [className, kebab, Text.toList_onChars] at hc
  exact isKebab_not_blank (mem_kebabChars c hc)

theorem layersClass_not_blank (n : StyledData) :
    ∀ c ∈ (layersClass n).toList, isBlank c = false := by
  intro c hc
  rw [layersClass, String.toList_append] at hc
  rcases List.mem_append.mp hc with hc | hc
  · exact className_not_blank n c hc
  · have own : "-fills".toList.all (fun c => !isBlank c) = true := by decide
    simpa using List.all_eq_true.mp own c hc

/-- a layer is counted behind a dash -/
theorem toList_layerClass (n : StyledData) (i : Nat) :
    (layerClass n i).toList = ((className n).toList ++ "-fill".toList)
      ++ '-' :: (toString (i + 1)).toList := by
  have lead : "-fill-".toList = "-fill".toList ++ ['-'] := by decide
  rw [layerClass, String.toList_append, String.toList_append, lead, ← List.append_assoc,
    List.append_assoc _ ['-']]
  rfl

theorem map_layerClass (n : StyledData) : n.fills.zipIdx.map (fun e => layerClass n e.2)
    = (List.range n.fills.length).map (layerClass n) := by
  rw [List.range_eq_range', ← List.zipIdx_map_snd, List.map_map]
  rfl

theorem layerClass_not_blank (n : StyledData) (i : Nat) :
    ∀ c ∈ (layerClass n i).toList, isBlank c = false := by
  intro c hc
  rw [toList_layerClass] at hc
  rcases List.mem_append.mp hc with hc | hc
  · rcases List.mem_append.mp hc with hc | hc
    · exact className_not_blank n c hc
    · have own : "-fill".toList.all (fun c => !isBlank c) = true := by decide
      simpa using List.all_eq_true.mp own c hc
  · rcases List.mem_cons.mp hc with rfl | hc
    · decide
    · exact isBlank_of_alnum (isAsciiAlnum_of_digit (isAsciiDigit_of_mem_toString c hc))

namespace Page
variable (p : Page)

/-- the classes of rules stand behind the class of the node -/
theorem ownClass?_node (n : StyledData) (as : List Attribute) :
    ownClass? (p.classMarkup n :: as) = some (className n) := by
  refine congrArg some ?_
  generalize (Option.getD ((p.request.ruleClasses n).map ClassList.split) []) = extra
  cases extra with
  | nil => exact firstWord_self (className_not_blank n)
  | cons e extra =>
    refine firstWord_eq (' ' :: (String.intercalate " " (e :: extra)).toList)
      (className_not_blank n) ?_ rfl
    simp [String.toList_intercalate, List.intercalate]

theorem ownClass?_layer (n : StyledData) (layer : FillLayer) (i : Nat) :
    ownClass? (p.layerElement n layer i).attributes = some (layerClass n i) := by
  unfold layerElement
  cases layer.kind <;> exact congrArg some (firstWord_self (layerClass_not_blank n i))

theorem filterMap_ownLists (n : StyledNode) :
    (p.ownLists n).filterMap ownClass? = classesOf n := by
  obtain ⟨others, -, e⟩ := p.ownLists_eq n
  rw [e, List.cons_append, List.filterMap_cons_some (p.ownClass?_node ..), classesOf]
  refine congrArg _ ?_
  split
  · have first : ownClass? (layersMarkup n.toStyledData) = some (layersClass n.toStyledData) :=
      congrArg some (firstWord_self (layersClass_not_blank _))
    rw [attributeLists_layersElement, List.filterMap_cons_some first, List.filterMap_map,
      ← map_layerClass]
    simp only [Function.comp_def, ownClass?_layer, List.filterMap_eq_map']
  · rfl

/-- the classes of a page, node by node -/
theorem ownClasses_element? (n : StyledNode) :
    ownClasses (p.element? n).toList = n.written.flatMap classesOf := by
  rw [ownClasses, attributeLists_element?, List.filterMap_flatMap]
  simp only [filterMap_ownLists]

end Page

/-! ## classes of two nodes -/

/-- the ways in which a class of one node is a class of another -/
inductive Clash (n m : StyledNode) : Prop
  /-- the names differ, but not in kebab case -/
  | spelling (different : n.uniqueName ≠ m.uniqueName)
      (same : className n.toStyledData = className m.toStyledData)
  /-- one node has the class of the layers of the other -/
  | layers (layered : form m = .box true)
      (same : className n.toStyledData = layersClass m.toStyledData)
  /-- one node has the class of a layer of the other, which is at least the tenth -/
  | layer (layered : form m = .box true) (i : Nat) (late : 9 ≤ i) (has : i < m.fills.length)
      (same : className n.toStyledData = layerClass m.toStyledData i)

theorem mem_classesOf {n : StyledNode} {x : String} : x ∈ classesOf n ↔
    x = className n.toStyledData ∨ form n = .box true ∧
      (x = layersClass n.toStyledData ∨
        ∃ i < n.fills.length, x = layerClass n.toStyledData i) := by
  rw [classesOf, List.mem_cons]
  refine or_congr_right ?_
  split
  · next layered =>
    rw [List.mem_cons, List.mem_map, and_iff_right layered]
    refine or_congr_right (exists_congr fun i => ?_)
    rw [List.mem_range, eq_comm]
  · next h => exact iff_of_false List.not_mem_nil fun has => h has.1

section
variable {n m : StyledNode} {i j : Nat}

theorem length_layerClass (n : StyledData) (i : Nat) :
    (className n).toList.length < (layerClass n i).toList.length := by
  rw [toList_layerClass, List.append_assoc, List.length_append]
  exact Nat.lt_add_of_pos_right (by simp)

theorem length_layersClass (n : StyledData) :
    (className n).toList.length < (layersClass n).toList.length := by
  rw [layersClass, String.toList_append, List.length_append]
  exact Nat.lt_add_of_pos_right (by decide)

theorem layersClass_inj (h : layersClass n.toStyledData = layersClass m.toStyledData) :
    className n.toStyledData = className m.toStyledData := by
  have h := congrArg String.toList h
  rw [layersClass, layersClass, String.toList_append, String.toList_append] at h
  exact String.toList_injective (List.append_cancel_right h)

theorem layerClass_inj (h : layerClass n.toStyledData i = layerClass m.toStyledData j) :
    className n.toStyledData = className m.toStyledData ∧ i = j := by
  have h := congrArg String.toList h
  rw [toList_layerClass, toList_layerClass] at h
  obtain ⟨front, -, number⟩ := digits_inj (by decide) (by decide) isAsciiDigit_of_mem_toString
    isAsciiDigit_of_mem_toString h
  exact ⟨String.toList_injective (List.append_cancel_right front),
    Nat.succ.inj (toString_inj number)⟩

theorem layersClass_ne_layerClass :
    layersClass n.toStyledData ≠ layerClass m.toStyledData i := by
  intro h
  have h := congrArg String.toList h
  have word : "-fills".toList = "-fill".toList ++ ['s'] := by decide
  rw [toList_layerClass, layersClass, String.toList_append, word, ← List.append_assoc] at h
  have := (digits_inj (by decide) (by decide) (List.forall_mem_nil _)
    isAsciiDigit_of_mem_toString h).2.1
  exact absurd this (by decide)

/-- a node with the class of a layer has a counter of two digits, so the layer has two as well -/
theorem late_of_layerClass (hn : IsElementName n.uniqueName)
    (h : className n.toStyledData = layerClass m.toStyledData i) : 9 ≤ i := by
  have e := congrArg String.toList h
  rw [toList_layerClass] at e
  have two := two_digits_of_kebab hn e isAsciiDigit_of_mem_toString
  by_contra early
  rw [Nat.toString_eq_ofList_toDigits, String.toList_ofList,
    Nat.toDigits_of_lt_base (by omega)] at two
  exact absurd two (by simp)

theorem Clash.different (h : Clash n m) : n.uniqueName ≠ m.uniqueName := by
  have same_length (e : n.uniqueName = m.uniqueName) :
      (className n.toStyledData).toList.length = (className m.toStyledData).toList.length := by
    rw [className, className, e]
  cases h with
  | spelling different _ => exact different
  | layers _ same =>
    intro e
    have := length_layersClass m.toStyledData
    rw [← same, same_length e] at this
    omega
  | layer _ i _ _ same =>
    intro e
    have := length_layerClass m.toStyledData i
    rw [← same, same_length e] at this
    omega

theorem nodup_classesOf (n : StyledNode) : (classesOf n).Nodup := by
  have layers : ((List.range n.fills.length).map (layerClass n.toStyledData)).Nodup :=
    List.Nodup.map (fun i j h => (layerClass_inj (n := n) (m := n) h).2) List.nodup_range
  rw [classesOf, List.nodup_cons]
  split
  · refine ⟨fun h => ?_, List.nodup_cons.mpr ⟨fun h => ?_, layers⟩⟩
    · rcases List.mem_cons.mp h with h | h
      · have := length_layersClass n.toStyledData
        rw [← h] at this
        omega
      · obtain ⟨i, -, h⟩ := List.mem_map.mp h
        have := length_layerClass n.toStyledData i
        rw [h] at this
        omega
    · obtain ⟨i, -, h⟩ := List.mem_map.mp h
      exact layersClass_ne_layerClass h.symm
  · exact ⟨List.not_mem_nil, List.nodup_nil⟩

theorem disjoint_classesOf (hn : IsElementName n.uniqueName) (hm : IsElementName m.uniqueName)
    (different : n.uniqueName ≠ m.uniqueName) :
    List.Disjoint (classesOf n) (classesOf m) ↔ ¬ Clash n m ∧ ¬ Clash m n := by
  constructor
  · have shared {k l : StyledNode} (clash : Clash k l) :
        ∃ x, x ∈ classesOf k ∧ x ∈ classesOf l := by
      refine ⟨_, mem_classesOf.mpr (.inl rfl), mem_classesOf.mpr ?_⟩
      cases clash with
      | spelling _ same => exact .inl same
      | layers layered same => exact .inr ⟨layered, .inl same⟩
      | layer layered i _ has same => exact .inr ⟨layered, .inr ⟨i, has, same⟩⟩
    intro disjoint
    refine ⟨fun clash => ?_, fun clash => ?_⟩
    · obtain ⟨x, hk, hl⟩ := shared clash
      exact disjoint hk hl
    · obtain ⟨x, hk, hl⟩ := shared clash
      exact disjoint hl hk
  · rintro ⟨no, no'⟩ x hx hy
    rcases mem_classesOf.mp hx with ex | ⟨layered, ex | ⟨i, hi, ex⟩⟩ <;>
      rcases mem_classesOf.mp hy with ey | ⟨layered', ey | ⟨j, hj, ey⟩⟩ <;>
      have e := ex.symm.trans ey
    · exact no (.spelling different e)
    · exact no (.layers layered' e)
    · exact no (.layer layered' j (late_of_layerClass hn e) hj e)
    · exact no' (.layers layered e.symm)
    · exact no (.spelling different (layersClass_inj e))
    · exact layersClass_ne_layerClass e
    · exact no' (.layer layered i (late_of_layerClass hm e.symm) hi e.symm)
    · exact layersClass_ne_layerClass e.symm
    · exact no (.spelling different (layerClass_inj e).1)

end

/-- of nodes with names of their own the classes are distinct unless two of them clash -/
theorem nodup_flatMap_classesOf {ns : List StyledNode}
    (names : (ns.map fun n => n.uniqueName).Nodup)
    (form : ∀ n ∈ ns, IsElementName n.uniqueName) :
    (ns.flatMap classesOf).Nodup ↔ ∀ n ∈ ns, ∀ m ∈ ns, ¬ Clash n m := by
  have different : ns.Pairwise fun n m => n.uniqueName ≠ m.uniqueName := List.pairwise_map.mp names
  rw [List.nodup_flatMap]
  constructor
  · rintro ⟨-, pairs⟩ n hn m hm clash
    have : Std.Symm (Function.onFun List.Disjoint classesOf) :=
      ⟨fun _ _ disjoint _ hx hy => disjoint hy hx⟩
    have disjoint := pairs.forall hn hm fun e => clash.different (by rw [e])
    exact ((disjoint_classesOf (form n hn) (form m hm) clash.different).mp disjoint).1 clash
  · intro no
    refine ⟨fun n _ => nodup_classesOf n, different.imp_of_mem fun {n m} hn hm h => ?_⟩
    exact (disjoint_classesOf (form n hn) (form m hm) h).mpr ⟨no n hn m hm, no m hm n hn⟩

/-! ## the rules of the stylesheet -/

/-- at every width the rules are for some of the classes, in their order -/
structure Covered (sheet : Stylesheet) (classes : List String) : Prop where
  base : (sheet.base.map StyleRule.selector).Sublist classes
  tablet : (sheet.tablet.map StyleRule.selector).Sublist classes
  desktop : (sheet.desktop.map StyleRule.selector).Sublist classes

namespace Covered
variable {a b : Stylesheet} {xs ys : List String}

theorem empty (xs : List String) : Covered ∅ xs :=
  ⟨List.nil_sublist xs, List.nil_sublist xs, List.nil_sublist xs⟩

theorem mono (h : Covered a xs) (hs : xs.Sublist ys) : Covered a ys :=
  ⟨h.base.trans hs, h.tablet.trans hs, h.desktop.trans hs⟩

theorem append (ha : Covered a xs) (hb : Covered b ys) : Covered (a ++ b) (xs ++ ys) where
  base := List.map_append ▸ ha.base.append hb.base
  tablet := List.map_append ▸ ha.tablet.append hb.tablet
  desktop := List.map_append ▸ ha.desktop.append hb.desktop

end Covered

theorem selectors_rule (selector : String) (styles : Styles) :
    ((Stylesheet.rule selector styles).map StyleRule.selector).Sublist [selector] := by
  unfold Stylesheet.rule
  split
  · exact List.nil_sublist _
  · exact List.Sublist.refl _

theorem covered_widthRules (n : StyledData) (styles : Styles) :
    Covered (widthRules n styles) [className n] :=
  ⟨selectors_rule .., selectors_rule .., selectors_rule ..⟩

theorem covered_layersSheet (n : StyledData) : Covered (layersSheet n)
    (layersClass n :: (List.range n.fills.length).map (layerClass n)) := by
  have layers (l : List (FillLayer × Nat)) :
      ((l.flatMap fun e => Stylesheet.rule (layerClass n e.2) (layerStyles n e.1)).map
        StyleRule.selector).Sublist (l.map fun e => layerClass n e.2) := by
    induction l with
    | nil => exact List.Sublist.refl _
    | cons e l ih =>
      rw [List.flatMap_cons, List.map_append, List.map_cons]
      exact (selectors_rule (layerClass n e.2) _).append ih
  refine ⟨?_, List.nil_sublist _, List.nil_sublist _⟩
  rw [layersSheet, List.map_append, ← map_layerClass]
  exact (selectors_rule (layersClass n) _).append (layers _)

theorem not_leaf_of_box {n : StyledNode} {layered : Bool} (h : form n = .box layered) :
    (n.isDrawn || n.isText) = false := by
  cases drawn : n.isDrawn with
  | true =>
    rw [form_of_drawn drawn] at h
    cases h
  | false =>
    rw [form_of_not_drawn drawn] at h
    cases text : n.isText with
    | false => rfl
    | true =>
      rw [text, if_pos rfl] at h
      split at h <;> cases h

namespace Page
variable (p : Page)

/-- the rules of a node and of what is inside of it, where only boxes have something inside -/
theorem covered_nodeSheet (overlap : Option Overlap) (n : StyledNode) {children : Stylesheet}
    {classes : List String} (h : Covered children classes) :
    Covered (p.nodeSheet overlap n children)
      (classesOf n ++ if n.isDrawn || n.isText then [] else classes) := by
  have own := covered_widthRules n.toStyledData (p.nodeStyles overlap n)
  have alone {inside : List String} : Covered (widthRules n.toStyledData (p.nodeStyles overlap n))
      (classesOf n ++ inside) :=
    own.mono ((List.Sublist.cons_cons _ (List.nil_sublist _)).trans (List.sublist_append_left ..))
  unfold nodeSheet
  dsimp only
  cases hform : form n with
  | drawing => exact alone
  | image ref => exact alone
  | text => exact alone
  | box layered =>
    rw [not_leaf_of_box hform, if_neg Bool.false_ne_true, classesOf, hform]
    cases layered with
    | true => exact (own.append (covered_layersSheet n.toStyledData)).append h
    | false => exact own.append h

/-- the stylesheet has rules for the classes of the page only -/
theorem covered_sheet (n : StyledNode) : ∀ overlap,
    Covered (p.sheet overlap n) (n.written.flatMap classesOf) := by
  induction n using forest (Q := fun ns => ∀ overlap,
    Covered (p.sheets overlap ns) ((writtenAll ns).flatMap classesOf)) with
  | node d cs ih =>
    intro overlap
    cases rendered : d.isRendered with
    | false =>
      rw [sheet, rendered]
      exact .empty _
    | true =>
      have covered := p.covered_nodeSheet overlap ⟨d, cs⟩ (ih d.overlap)
      rw [sheet, rendered, if_pos rfl]
      cases leaf : isDrawn ⟨d, cs⟩ || d.isText with
      | true =>
        rw [leaf, if_pos rfl] at covered
        rw [written_leaf rendered leaf, List.flatMap_singleton, ← List.append_nil (classesOf _)]
        exact covered
      | false =>
        rw [leaf, if_neg Bool.false_ne_true] at covered
        rw [written_box rendered leaf, List.flatMap_cons]
        exact covered
  | nil overlap => exact .empty _
  | cons n ns ih ihs overlap =>
    show Covered (p.sheet _ n ++ p.sheets overlap ns)
      ((n.written ++ writtenAll ns).flatMap classesOf)
    rw [List.flatMap_append]
    exact (ih _).append (ihs overlap)

end Page

/-- **The classes of a page are distinct unless names clash.**  The page of a styled design gives its
classes node by node, and the rules of its stylesheet are for these classes.  They are pairwise
distinct exactly if no two nodes clash, and nodes whose names are spelled alike in kebab case have
names that are the same but for the case of their letters. -/
theorem ownClasses_nodup_iff (s : Session) (root : DesignNode) (r : Request) (assets : Assets)
    (h : (s.style root).1 = some r.root) :
    let page : Page := ⟨r, assets⟩
    ownClasses page.root?.toList = r.root.written.flatMap classesOf ∧
      Covered (page.sheet none r.root) (ownClasses page.root?.toList) ∧
      ((ownClasses page.root?.toList).Nodup ↔
        ∀ n ∈ r.root.written, ∀ m ∈ r.root.written, ¬ Clash n m) ∧
      ∀ n ∈ r.root.written, ∀ m ∈ r.root.written,
        className n.toStyledData = className m.toStyledData →
          lower n.uniqueName.toList = lower m.uniqueName.toList := by
  intro page
  have handed := Styling.handsOut_styleNode s.policy root {} 0.0 s.names
  have origins : Styling.originsOf (Styling.styleNode s.policy {} 0.0 root s.names).1
      = r.root.origins := (congrArg Styling.originsOf h).trans (Styling.originsOf_some r.root)
  have names : r.root.origins.map Prod.snd = r.root.preOrder.map fun n => n.uniqueName :=
    List.map_map
  rw [origins, names] at handed
  have handed := handed.lose ((written_sublist r.root).map fun n => n.uniqueName)
  have element : ∀ n ∈ r.root.written, IsElementName n.uniqueName :=
    fun n hn => handed.form _ (List.mem_map_of_mem hn)
  have classes : ownClasses page.root?.toList = r.root.written.flatMap classesOf :=
    page.ownClasses_element? r.root
  rw [classes]
  refine ⟨rfl, page.covered_sheet r.root none, nodup_flatMap_classesOf handed.nodup element, ?_⟩
  exact fun n hn m hm same => lower_eq_of_kebab_eq (element n hn) (element m hm) same

/-- a card and its title: both have classes of their own -/
theorem ownClasses_nodup_iff_title :
    let title : DesignNode := ⟨{ id := "2", name := "Title", kind := .frame }, []⟩
    let root : DesignNode := ⟨{ id := "1", name := "Card", kind := .frame }, [title]⟩
    ∃ tree, (({} : Session).style root).1 = some tree ∧
      let page : Page := ⟨{ root := tree, framework := .htmlCss }, {}⟩
      ownClasses page.root?.toList = tree.written.flatMap classesOf ∧
        Covered (page.sheet none tree) (ownClasses page.root?.toList) ∧
        ((ownClasses page.root?.toList).Nodup ↔
          ∀ n ∈ tree.written, ∀ m ∈ tree.written, ¬ Clash n m) ∧
        ∀ n ∈ tree.written, ∀ m ∈ tree.written,
          className n.toStyledData = className m.toStyledData →
            lower n.uniqueName.toList = lower m.uniqueName.toList := by
  intro title root
  have some : (({} : Session).style root).1.isSome = true := by decide
  obtain ⟨tree, h⟩ := Option.isSome_iff_exists.mp some
  exact ⟨tree, h, ownClasses_nodup_iff {} root { root := tree, framework := .htmlCss } {} h⟩

/-- a card in a card whose name has no upper-case letter: one class for both -/
theorem ownClasses_of_cards :
    let inner : DesignNode := ⟨{ id := "2", name := "card", kind := .frame }, []⟩
    let root : DesignNode := ⟨{ id := "1", name := "Card", kind := .frame }, [inner]⟩
    ∃ tree, (({} : Session).style root).1 = some tree ∧
      let page : Page := ⟨{ root := tree, framework := .htmlCss }, {}⟩
      ownClasses page.root?.toList = ["card", "card"] ∧
        ¬ (ownClasses page.root?.toList).Nodup := by
  intro inner root
  refine ⟨_, rfl, ?_⟩
  decide +kernel

end Handoff.Html
