import Handoff.Generation.Attributes

/-!
# Elements and the nodes that they are for

The element of a node carries its data attributes; elements that only serve the look of a node, such
as the layers of its fills, have none.  So the data attributes along the walk over the markup tell
for which nodes there are elements, and in which order.

* `Element.preOrder`     an element and those inside of it;
* `attributeLists`       the attributes of several elements and of all that is inside of them;
* `dataLists`            the data attributes of those that have any;
* `nodeElements`         those elements themselves: the elements that there are for nodes;
* `dataOf_dataMarkup`    the attributes that a node gives to its element are data attributes.
-/

namespace Handoff

mutual
/-- an element and those inside of it, each before its own -/
def Element.preOrder (e : Element) : List Element :=
  match e with
  | .closed tag as => [.closed tag as]
  | .leaf tag as content => [.leaf tag as content]
  | .block tag as children => .block tag as children :: Element.preOrderAll children
termination_by structural e

def Element.preOrderAll (es : List Element) : List Element :=
  match es with
  | [] => []
  | e :: es => e.preOrder ++ Element.preOrderAll es
termination_by structural es
end

theorem Element.preOrderAll_append (a b : List Element) :
    Element.preOrderAll (a ++ b) = Element.preOrderAll a ++ Element.preOrderAll b := by
  induction a with
  | nil => rfl
  | cons e a ih =>
    show e.preOrder ++ Element.preOrderAll (a ++ b) = (e.preOrder ++ Element.preOrderAll a) ++ _
    rw [ih, List.append_assoc]

/-- the attributes of elements and of all that is inside of them -/
def attributeLists (es : List Element) : List (List Attribute) :=
  (Element.preOrderAll es).map Element.attributes

theorem attributeLists_nil : attributeLists [] = [] := rfl

theorem attributeLists_append (a b : List Element) :
    attributeLists (a ++ b) = attributeLists a ++ attributeLists b := by
  unfold attributeLists
  rw [Element.preOrderAll_append, List.map_append]

theorem attributeLists_cons (e : Element) (es : List Element) :
    attributeLists (e :: es) = attributeLists [e] ++ attributeLists es :=
  attributeLists_append [e] es

theorem attributeLists_block (tag : String) (as : List Attribute) (es : List Element) :
    attributeLists [.block tag as es] = as :: attributeLists es := by
  show ((_ :: Element.preOrderAll es) ++ []).map _ = _
  rw [List.append_nil]
  rfl

/-! ## data attributes -/

def Attribute.isData (a : Attribute) : Bool := Text.startsWith "data-" a.name

def dataOf (as : List Attribute) : List Attribute := as.filter Attribute.isData

theorem dataOf_append (a b : List Attribute) : dataOf (a ++ b) = dataOf a ++ dataOf b :=
  List.filter_append ..

/-- the data attributes of each list that has any -/
def dataIn (lists : List (List Attribute)) : List (List Attribute) :=
  (lists.map dataOf).filter fun as => !as.isEmpty

theorem dataIn_eq_nil {lists : List (List Attribute)} (h : ∀ as ∈ lists, dataOf as = []) :
    dataIn lists = [] := by
  refine List.filter_eq_nil_iff.mpr fun as has => ?_
  obtain ⟨as', has', rfl⟩ := List.mem_map.mp has
  rw [h as' has']
  decide

/-- the data attributes of elements and of all that is inside of them, where there are any -/
def dataLists (es : List Element) : List (List Attribute) := dataIn (attributeLists es)

/-- the names of the attributes that are no data attributes -/
def plainNames : List String := ["class", "className", "style", "alt", "src", "aria-hidden"]

theorem dataOf_eq_nil {as : List Attribute} (h : ∀ a ∈ as, a.name ∈ plainNames) :
    dataOf as = [] := by
  have plain : plainNames.all (fun name => !Text.startsWith "data-" name) = true := by
    decide
  refine List.filter_eq_nil_iff.mpr fun a ha => ?_
  simpa [Attribute.isData] using List.all_eq_true.mp plain a.name (h a ha)

theorem startsWith_append (piece s : String) : Text.startsWith piece (piece ++ s) = true := by
  rw [Text.startsWith, Chars.startsWith, String.toList_append,
    Chars.dropPrefix?_eq_some.mpr rfl]
  rfl

theorem dataKey?_eq_some {key name : String} (h : dataKey? key = some name) :
    Text.startsWith "data-" name = true := by
  unfold dataKey? at h
  dsimp only at h
  split at h
  · cases h
  · rw [← Option.some.inj h]
    exact startsWith_append ..

theorem isData_of_mem_dataEntries {n : StyledData} {e : String × String}
    (h : e ∈ dataEntries n) : Text.startsWith "data-" e.1 = true := by
  rcases List.mem_append.mp h with h | h
  · rcases List.mem_append.mp h with h | h
    · rcases List.mem_cons.mp h with rfl | h
      · exact (by decide : Text.startsWith "data-" "data-layer" = true)
      · rw [List.mem_singleton.mp h]
        exact (by decide : Text.startsWith "data-" "data-node-id" = true)
    · obtain ⟨k, _, hk⟩ := List.mem_filterMap.mp h
      obtain ⟨name, hname, rfl⟩ := Option.map_eq_some_iff.mp hk
      exact dataKey?_eq_some hname
  · obtain ⟨k, _, hk⟩ := List.mem_filterMap.mp h
    obtain ⟨name, hname, rfl⟩ := Option.map_eq_some_iff.mp hk
    exact dataKey?_eq_some hname

/-- all attributes that a node gives to its element are data attributes -/
theorem dataOf_dataMarkup (n : StyledData) : dataOf (dataMarkup n) = dataMarkup n := by
  refine List.filter_eq_self.mpr fun a ha => ?_
  obtain ⟨e, he, rfl⟩ := List.mem_map.mp ha
  have key : e.1 ∈ (dataAttributes n).keys := List.mem_map_of_mem he
  obtain ⟨e', he', same⟩ := List.mem_map.mp (Dict.mem_keys_ofList.mp key)
  rw [Attribute.isData, ← same]
  exact isData_of_mem_dataEntries he'

/-- the data attributes of a list that holds those of a node and no others -/
theorem dataOf_around (n : StyledData) (before after : List Attribute) (hb : dataOf before = [])
    (ha : dataOf after = []) : dataOf (before ++ dataMarkup n ++ after) = dataMarkup n := by
  rw [dataOf_append, dataOf_append, hb, ha, dataOf_dataMarkup, List.append_nil, List.nil_append]

theorem dataMarkup_ne_nil (n : StyledData) : dataMarkup n ≠ [] := by
  intro h
  have key : "data-layer" ∈ (dataAttributes n).keys :=
    Dict.mem_keys_ofList.mpr List.mem_cons_self
  rw [Dict.keys, List.map_eq_nil_iff.mp h] at key
  exact List.not_mem_nil key

/-! ## elements for nodes -/

/-- the elements that have data attributes, of several elements and all that is inside of them -/
def nodeElements (es : List Element) : List Element :=
  (Element.preOrderAll es).filter fun e => !(dataOf e.attributes).isEmpty

theorem dataLists_eq_map (es : List Element) :
    dataLists es = (nodeElements es).map fun e => dataOf e.attributes := by
  unfold dataLists dataIn attributeLists nodeElements
  rw [List.map_map, List.filter_map]
  rfl

theorem nodeElements_eq_nil {es : List Element} (h : dataLists es = []) : nodeElements es = [] :=
  List.map_eq_nil_iff.mp ((dataLists_eq_map es).symm.trans h)

theorem nodeElements_append (a b : List Element) :
    nodeElements (a ++ b) = nodeElements a ++ nodeElements b := by
  unfold nodeElements
  rw [Element.preOrderAll_append, List.filter_append]

theorem nodeElements_cons_of_plain {e : Element} (h : dataLists [e] = []) (es : List Element) :
    nodeElements (e :: es) = nodeElements es := by
  rw [← List.singleton_append, nodeElements_append, nodeElements_eq_nil h, List.nil_append]

section
variable {n : StyledData} {as : List Attribute} (h : dataOf as = dataMarkup n) (tag : String)
include h

theorem hasData : (!(dataOf as).isEmpty) = true := by
  rw [h, Bool.not_eq_true', ← Bool.not_eq_true, List.isEmpty_iff]
  exact dataMarkup_ne_nil n

theorem nodeElements_closed : nodeElements [.closed tag as] = [.closed tag as] :=
  List.filter_cons_of_pos (hasData h)

theorem nodeElements_leaf (content : Content) :
    nodeElements [.leaf tag as content] = [.leaf tag as content] :=
  List.filter_cons_of_pos (hasData h)

theorem nodeElements_block (es : List Element) :
    nodeElements [.block tag as es] = .block tag as es :: nodeElements es := by
  show List.filter _ ((_ :: Element.preOrderAll es) ++ []) = _
  rw [List.append_nil]
  exact List.filter_cons_of_pos (hasData h)

end

end Handoff
