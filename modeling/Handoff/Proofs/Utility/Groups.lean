import Handoff.Proofs.ClassList.Margins
import Handoff.Proofs.Utility.LeadTable

/-!
# Which later declaration replaces an earlier one

Of two classes with one variant and one group only the later stays.  A property whose classes are in
a group tells it by the beginning of its classes, or has only a few of them; other properties have
classes without a group, and theirs stay beside each other.

* `propertyGroups`     the group of every property;
* `Usual`              the values that have the classes meant there;
* `Tells`, `Decides`   beginnings and words that tell the group of a class;
* `groupKey?_of_usual` the only class of such a value has the group of its property;
* `later_class`        which of two classes of one property stay.
-/

namespace Handoff.Utility
open ClassList

/-! ## the groups of properties -/

/-- the group of the classes of a property, where they have one -/
def propertyGroups : List (String × Option String) := [
  ("display", some "display"), ("flexdirection", some "flex-direction"),
  ("flexwrap", some "flex-wrap"), ("flexgrow", some "grow"), ("flexshrink", some "shrink"),
  ("flex", none), ("alignself", some "self"), ("justifycontent", some "justify"),
  ("alignitems", some "items"), ("aligncontent", none), ("placeitems", none),
  ("gridtemplatecolumns", none), ("gridtemplaterows", none), ("gridarea", none),
  ("gridcolumn", none), ("gridrow", none), ("position", some "position"), ("top", some "top"),
  ("right", some "right"), ("bottom", some "bottom"), ("left", some "left"), ("zindex", some "z"),
  ("overflow", some "overflow"), ("overflowx", some "overflow-x"),
  ("overflowy", some "overflow-y"), ("width", some "w"), ("height", some "h"),
  ("minwidth", some "min-w"), ("maxwidth", some "max-w"), ("minheight", some "min-h"),
  ("maxheight", some "max-h"), ("padding", some "p"), ("paddingtop", some "pt"),
  ("paddingright", some "pr"), ("paddingbottom", some "pb"), ("paddingleft", some "pl"),
  ("margin", some "m"), ("margintop", some "mt"), ("marginright", some "mr"),
  ("marginbottom", some "mb"), ("marginleft", some "ml"), ("gap", some "gap"),
  ("rowgap", some "gap-y"), ("columngap", some "gap-x"), ("translate", none),
  ("translatex", none), ("translatey", none), ("aspectratio", none), ("background", none),
  ("backgroundcolor", none), ("backgroundimage", none), ("backgroundsize", none), ("color", none),
  ("border", none), ("borderwidth", none), ("bordertopwidth", none), ("borderrightwidth", none),
  ("borderbottomwidth", none), ("borderleftwidth", none), ("bordercolor", none),
  ("borderstyle", none), ("borderradius", some "rounded"),
  ("bordertopleftradius", some "rounded-tl"), ("bordertoprightradius", some "rounded-tr"),
  ("borderbottomrightradius", some "rounded-br"), ("borderbottomleftradius", some "rounded-bl"),
  ("transform", some "rotate"), ("opacity", some "opacity"), ("fontfamily", some "font-family"),
  ("fontweight", some "font-weight"), ("fontstyle", some "font-style"), ("fontvariant", none),
  ("fontsize", some "font-size"), ("lineheight", some "leading"),
  ("letterspacing", some "tracking"), ("texttransform", none), ("textdecoration", none),
  ("textalign", some "text-align"), ("verticalalign", none), ("textindent", none),
  ("filter", some "blur"), ("backdropfilter", some "backdrop-blur"), ("mixblendmode", none),
  ("boxshadow", none), ("outline", none), ("outlineoffset", none), ("clippath", none)]

/-- the degrees of a lone rotation -/
def rotation? (value : String) : Option Float :=
  (Text.dropPrefix? "rotate(" value).bind fun rest =>
    (Text.dropSuffix? "deg)" rest).bind fun d => Decimal.parse? (Text.trim d)

/-- the radius of a lone blur -/
def blurRadius? (value : String) : Option Float :=
  (Text.dropPrefix? "blur(" value).bind fun rest => (Text.dropSuffix? ")" rest).bind parsePx?

/-- one value for all sides -/
def isForAllSides (value : String) : Bool := !([2, 3, 4].contains (Text.words value).length)

/-- the values of properties that have other classes, too -/
def usualValues : List (String × (String → Bool)) := [
  ("flexgrow", ["0", "1"].contains), ("flexshrink", ["0", "1"].contains),
  ("padding", isForAllSides), ("margin", isForAllSides),
  ("color", fun value => !Text.endsWith "px" (escapeArbitrary value)),
  ("transform", fun value => (rotation? value).isSome),
  ("fontweight",
    ["100", "200", "300", "400", "500", "600", "700", "800", "900"].contains),
  ("fontsize", fun value => (parsePx? value).isSome),
  ("filter", fun value => (blurRadius? value).isSome),
  ("backdropfilter", fun value => (blurRadius? value).isSome)]

/-- a value with the classes that are meant for the group of the property -/
def Usual (key value : String) : Prop :=
  ∀ usual, usualValues.lookup key = some usual → usual value = true

/-! ## beginnings that tell a group -/

/-- the beginnings of all classes with a group that is not told by the whole name -/
def groupLeads : List String := leadGroups.map Prod.fst ++ ["font-", "text-", "blur"]

/-- one of them begins with the other -/
def Nested (a b : String) : Prop := a.toList <+: b.toList ∨ b.toList <+: a.toList

instance (a b : String) : Decidable (Nested a b) := decidable_of_iff _ prefix_or_prefix_iff.symm

/-- a beginning tells the group of a base, or that it has none, whatever follows: the first lead of
the table that could fit does -/
def Tells (lead : String) (group : Option String) : Prop :=
  (∀ e ∈ exactGroups, ¬ lead.toList <+: e.1.toList) ∧
    match group with
    | some g => ∃ e ∈ leadGroups.find? fun e => Nested e.1 lead, e.1.toList <+: lead.toList ∧ e.2 = g
    | none => Apart [lead] groupLeads

instance (lead : String) : (group : Option String) → Decidable (Tells lead group)
  | some _ => inferInstanceAs (Decidable (_ ∧ ∃ _ ∈ _, _))
  | none => inferInstanceAs (Decidable (_ ∧ Apart _ _))

theorem lookup_exactGroups {lead base : String}
    (unnamed : ∀ e ∈ exactGroups, ¬ lead.toList <+: e.1.toList)
    (h : lead.toList <+: (signed base).2.toList) : exactGroups.lookup (signed base).2 = none :=
  List.lookup_eq_none_iff.mpr fun e he => bne_iff_ne.mpr fun same => unnamed e he (same ▸ h)

/-- a base that begins like no name and no lead in the tables -/
theorem group?_of_apart {lead base : String} (unnamed : ∀ e ∈ exactGroups, ¬ lead.toList <+: e.1.toList)
    (apart : Apart [lead] (leadGroups.map Prod.fst)) (h : lead.toList <+: (signed base).2.toList) :
    group? base = match Text.dropPrefix? "font-" (signed base).2 with
      | some rest => fontGroup? rest
      | none => match Text.dropPrefix? "text-" (signed base).2 with
        | some rest => textGroup? rest
        | none => if (signed base).2 = "blur" || Text.startsWith "blur-" (signed base).2 then
            some "blur" else none := by
  have noLead : leadGroups.find? (fun e => Text.startsWith e.1 (signed base).2) = none :=
    List.find?_eq_none.mpr fun e he starts => Begins.not_begins ⟨lead, List.mem_singleton_self _, h⟩
      apart ⟨e.1, List.mem_map_of_mem he, startsWith_iff.mp starts⟩
  have opened := lookup_exactGroups unnamed h
  cases font : Text.dropPrefix? "font-" (signed base).2 with
  | some rest => simp only [group?, getD_dropPrefix?, opened, noLead, font]
  | none =>
    cases text : Text.dropPrefix? "text-" (signed base).2 with
    | some rest => simp only [group?, getD_dropPrefix?, opened, noLead, font, text]
    | none => simp only [group?, getD_dropPrefix?, opened, noLead, font, text]

theorem group?_of_tells {lead base : String} {group : Option String} (tells : Tells lead group)
    (h : lead.toList <+: (signed base).2.toList) : group? base = group := by
  obtain ⟨unnamed, led⟩ := tells
  cases group with
  | some g =>
    obtain ⟨e, he, begins, rfl⟩ := led
    have found : leadGroups.find? (fun e => Text.startsWith e.1 (signed base).2) = some e := by
      obtain ⟨-, before, after, table, apart⟩ := List.find?_eq_some_iff_append.mp he
      refine List.find?_eq_some_iff_append.mpr
        ⟨startsWith_iff.mpr (begins.trans h), before, after, table, fun a ha => ?_⟩
      have other : ¬ Nested a.1 lead := by simpa using apart a ha
      rw [Bool.not_eq_true', Bool.eq_false_iff]
      exact fun starts => other (List.prefix_or_prefix_of_prefix (startsWith_iff.mp starts) h)
    rw [group?, getD_dropPrefix?, lookup_exactGroups unnamed h, found]
  | none =>
    have unled : ∀ l ∈ groupLeads, ¬ l.toList <+: (signed base).2.toList := fun l hl begins =>
      Begins.not_begins ⟨lead, List.mem_singleton_self _, h⟩ led ⟨l, hl, begins⟩
    have font := dropPrefix?_eq_none (unled "font-" (List.mem_append_right _ (by decide)))
    have text := dropPrefix?_eq_none (unled "text-" (List.mem_append_right _ (by decide)))
    have blurless : ¬ ((signed base).2 = "blur" || Text.startsWith "blur-" (signed base).2) = true := by
      have blur := unled "blur" (List.mem_append_right _ (by decide))
      rw [Bool.or_eq_true, decide_eq_true_eq]
      rintro (same | starts)
      · exact blur (same ▸ List.prefix_rfl)
      · exact blur ((by decide : "blur".toList <+: "blur-".toList).trans (startsWith_iff.mp starts))
    have apart : Apart [lead] (leadGroups.map Prod.fst) := fun a ha l hl =>
      led a ha l (List.mem_append_left _ hl)
    rw [group?_of_apart unnamed apart h, font, text]
    exact if_neg blurless

theorem toList_unsigned (s : String) : (signed s).2.toList =
    if s.toList.head? = some '-' then s.toList.tail else s.toList := by
  have whole := toList_signed s
  unfold signed at *
  cases found : Text.dropPrefix? "-" s with
  | some rest =>
    rw [found] at whole
    dsimp only at whole
    rw [whole]
    simp
  | none =>
    have unsigned : s.toList.head? ≠ some '-' := by
      intro sign
      obtain ⟨cs, e⟩ := List.head?_eq_some_iff.mp sign
      rw [Text.dropPrefix?, Option.map_eq_none_iff] at found
      exact Option.eq_none_iff_forall_ne_some.mp found cs (Chars.dropPrefix?_eq_some.mpr e)
    rw [if_neg unsigned]

/-- what begins like something else does so behind its sign, too -/
theorem prefix_unsigned {lead s : String} (filled : lead ≠ "") (h : lead.toList <+: s.toList) :
    (signed lead).2.toList <+: (signed s).2.toList := by
  obtain ⟨c, cs, e⟩ := List.exists_cons_of_ne_nil (String.toList_eq_nil_iff.not.mpr filled)
  obtain ⟨rest, e'⟩ := h
  rw [toList_unsigned, toList_unsigned, ← e', e, List.cons_append, List.head?_cons, List.head?_cons]
  split
  · exact List.prefix_append _ _
  · exact List.prefix_append _ _

/-! ## words and beginnings of a utility -/

/-- a text is empty, or one of some words, or it begins in some of these ways -/
def Opens (words leads : List String) (text : String) : Prop :=
  text = "" ∨ text ∈ words ∨ Begins leads text

/-- all these words and all that begins like this have the same group -/
structure Decides (words leads : List String) (group : Option String) : Prop where
  words : ∀ w ∈ words, Solid w ∧ group? w = group
  leads : ∀ l ∈ leads, Solid l ∧ l ≠ "" ∧ Tells (signed l).2 group

instance (words leads : List String) (group : Option String) : Decidable (Decides words leads group) :=
  decidable_of_iff
    ((∀ w ∈ words, Solid w ∧ group? w = group) ∧
      ∀ l ∈ leads, Solid l ∧ l ≠ "" ∧ Tells (signed l).2 group)
    ⟨fun ⟨words, leads⟩ => ⟨words, leads⟩, fun h => ⟨h.words, h.leads⟩⟩

theorem group?_of_opens {words leads : List String} {group : Option String} {text c : String}
    (decides : Decides words leads group) (opens : Opens words leads text)
    (one : split text = [c]) : group? c = group := by
  rcases opens with rfl | word | ⟨l, hl, begins⟩
  · exact nomatch one
  · obtain ⟨solid, grouped⟩ := decides.words text word
    rw [eq_of_split solid one, grouped]
  · obtain ⟨solid, filled, tells⟩ := decides.leads l hl
    exact group?_of_tells tells (prefix_unsigned filled (prefix_of_split solid filled begins one))

theorem opens_of_led {leads : List String} {text : String} (h : Led leads text) :
    Opens [] leads text := by
  obtain ⟨words, rfl, led⟩ := h
  cases words with
  | nil => exact .inl rfl
  | cons w ws =>
    obtain ⟨l, hl, begins⟩ := (led w List.mem_cons_self).led
    refine .inr (.inr ⟨l, hl, begins.trans ?_⟩)
    cases ws with
    | nil => simp [Text.joinWith, Chars.joinWith]
    | cons v ws => simp [Text.joinWith, Chars.joinWith]

/-! ## the utilities that do not tell it by their leads alone -/

section
variable {table : List (String × String)} {words leads : List String} {u v : String}

theorem opens_keyword (h : ∀ e ∈ table, e.2 ∈ words) (v : String) :
    Opens words leads (keyword table v) := by
  unfold keyword
  cases found : table.lookup v with
  | none => exact .inl rfl
  | some word => exact .inr (.inl (h _ (mem_of_lookup found)))

theorem begins_arbitrary (u v : String) : Begins [u ++ "-["] (arbitrary u v) :=
  ⟨u ++ "-[", List.mem_singleton_self _, by simp [arbitrary]⟩

theorem opens_keywordOr (h : ∀ e ∈ table, e.2 ∈ words) (u v : String) :
    Opens words [u ++ "-["] (keywordOr table u v) := by
  unfold keywordOr
  cases found : table.lookup v with
  | none => exact .inr (.inr (begins_arbitrary u v))
  | some word => exact .inr (.inl (h _ (mem_of_lookup found)))

theorem opens_keywordOr_of_known (h : ∀ e ∈ table, e.2 ∈ words)
    (known : (table.map Prod.fst).contains v = true) : Opens words leads (keywordOr table u v) := by
  unfold keywordOr
  cases found : table.lookup v with
  | none =>
    obtain ⟨e, he, same⟩ := List.mem_map.mp (List.contains_iff_mem.mp known)
    exact absurd same.symm (bne_iff_ne.mp (List.lookup_eq_none_iff.mp found e he))
  | some word => exact .inr (.inl (h _ (mem_of_lookup found)))

theorem opens_named {lead : String} {ws : List String} (h : ∀ w ∈ ws, lead ++ w ∈ words)
    (v : String) : Opens words leads (named lead ws v) := by
  unfold named
  split
  · next known => exact .inr (.inl (h v (List.contains_iff_mem.mp known)))
  · exact .inl rfl

theorem opens_zIndex (v : String) : Opens [] ["z-"] (zIndex v) := by
  unfold zIndex
  refine .inr (.inr ⟨"z-", List.mem_singleton_self _, ?_⟩)
  split
  · simp
  · simp

theorem opens_gridSpan (u v : String) : Opens [] [u ++ "-"] (gridSpan u v) := by
  have written : (u ++ "-").toList <+: (arbitrary u v).toList := by simp [arbitrary]
  refine .inr (.inr ⟨u ++ "-", List.mem_singleton_self _, ?_⟩)
  unfold gridSpan
  split
  · split
    · split
      · simp
      · exact written
    · exact written
  · split
    · simp
    · exact written
  · exact written

/-- how a class of the scale goes on: with a token, with a word or with a bracket -/
def scaleStarts : List String :=
  ["0", "1", "2", "3", "4", "5", "6", "7", "8", "9", "p", "auto", "["]

def scaleLeads (u : String) : List String :=
  scaleStarts.flatMap fun start => [u ++ "-" ++ start, "-" ++ u ++ "-" ++ start]

theorem begins_scaleLeads {start rest : String} (mem : start ∈ scaleStarts)
    (h : start.toList <+: rest.toList) (u : String) :
    Begins (scaleLeads u) (u ++ "-" ++ rest) ∧ Begins (scaleLeads u) ("-" ++ u ++ "-" ++ rest) := by
  have behind (front : String) : (front ++ start).toList <+: (front ++ rest).toList := by
    rw [String.toList_append, String.toList_append]
    exact (List.prefix_append_right_inj _).mpr h
  exact ⟨⟨_, List.mem_flatMap.mpr ⟨start, mem, List.mem_cons_self⟩, behind _⟩,
    ⟨_, List.mem_flatMap.mpr ⟨start, mem, List.mem_cons_of_mem _ List.mem_cons_self⟩, behind _⟩⟩

theorem begins_token {px : Float} {token : String} (h : tokenForPx? px = some token) (u : String) :
    Begins (scaleLeads u) (u ++ "-" ++ token) ∧ Begins (scaleLeads u) ("-" ++ u ++ "-" ++ token) := by
  obtain ⟨start, mem, begins⟩ := token_of_scale
    (P := fun token => ∃ start ∈ scaleStarts, start.toList <+: token.toList) (by decide) h
  exact begins_scaleLeads mem begins u

theorem begins_scaleClass (u v : String) : Begins (scaleLeads u) (scaleClass u v) := by
  have bracket (rest : String) : Begins (scaleLeads u) (u ++ "-" ++ ("[" ++ rest)) :=
    (begins_scaleLeads (by decide : "[" ∈ scaleStarts) (by simp) u).1
  have written (w : String) : Begins (scaleLeads u) (arbitrary u w) := by
    have text : arbitrary u w = u ++ "-" ++ ("[" ++ (escapeArbitrary w ++ "]")) :=
      String.toList_inj.mp (by simp [arbitrary])
    exact text ▸ bracket _
  have pixels (px : Float) : Begins (scaleLeads u) (bracketPx u px) := by
    have text : bracketPx u px = u ++ "-" ++ ("[" ++ (Decimal.trimmed px ++ "px]")) :=
      String.toList_inj.mp (by simp [bracketPx])
    exact text ▸ bracket _
  have auto : Begins (scaleLeads u) (u ++ "-auto") := by
    have text : u ++ "-auto" = u ++ "-" ++ "auto" := String.toList_inj.mp (by simp)
    exact text ▸ (begins_scaleLeads (by decide : "auto" ∈ scaleStarts) List.prefix_rfl u).1
  unfold scaleClass
  dsimp only
  split
  · split
    · exact auto
    · exact written _
  · split
    · split
      · next token => exact (begins_token token u).2
      · exact pixels _
    · split
      · next token => exact (begins_token token u).1
      · exact pixels _

theorem opens_gap (u v : String) : Opens [] (scaleLeads u) (gap u v) := by
  have scaled : Opens [] (scaleLeads u) (scaleClass u v) := .inr (.inr (begins_scaleClass u v))
  unfold gap
  split
  · split
    · exact .inl rfl
    · exact scaled
  · exact scaled

theorem opens_boxSides (hu : Solid u) (whole : isForAllSides v = true) :
    Opens [] (signedLeads u) (boxSides u v) := by
  have alone (s : String) : Text.joinWith " " [s] = s := by simp [Text.joinWith, Chars.joinWith]
  have written : Opens [] (signedLeads u) (arbitrary u v) :=
    opens_of_led ((led_arbitrary hu v).mono (by simp [signedLeads]))
  unfold isForAllSides at whole
  unfold boxSides
  dsimp only
  split
  · rw [alone]
    exact opens_of_led (led_scaleClass hu _)
  · next e => rw [e] at whole; cases whole
  · next e => rw [e] at whole; cases whole
  · next e => rw [e] at whole; cases whole
  · rw [alone]
    exact written

def radiusWords : List String :=
  ["rounded", "rounded-none", "rounded-sm", "rounded-md", "rounded-lg", "rounded-xl",
    "rounded-2xl", "rounded-3xl", "rounded-full"]

theorem opens_radius (v : String) : Opens radiusWords ["rounded-["] (radius "rounded" v) := by
  unfold radius
  split
  · exact .inr (.inl (by decide))
  · split
    · exact .inr (.inr (begins_arbitrary "rounded" v))
    · dsimp only
      split
      · next word found =>
        exact .inr (.inl ((by decide : ∀ e ∈ _, "rounded" ++ e.2 ∈ radiusWords) _
          (mem_of_lookup found)))
      · split
        · exact .inr (.inl (by decide))
        · exact .inr (.inr ⟨"rounded-[", List.mem_singleton_self _, by simp [bracketPx]⟩)

theorem opens_transform (lone : (rotation? v).isSome = true) :
    Opens [] ["rotate-", "-rotate-"] (transform v) := by
  obtain ⟨degrees, found⟩ := Option.isSome_iff_exists.mp lone
  unfold rotation? at found
  unfold transform
  rw [found]
  dsimp only
  split
  · exact .inl rfl
  · split
    · split
      · exact .inr (.inr ⟨"-rotate-", by decide, by simp⟩)
      · exact .inr (.inr ⟨"rotate-", by decide, by simp⟩)
    · exact .inr (.inr ⟨"rotate-", by decide, by simp⟩)

theorem opens_blur (lone : (blurRadius? v).isSome = true) (u property : String) :
    Opens (blurSteps.map fun step => u ++ step) leads (blur u property v) := by
  obtain ⟨radius, found⟩ := Option.isSome_iff_exists.mp lone
  unfold blurRadius? at found
  unfold blur
  rw [found]
  exact .inr (.inl (List.mem_map_of_mem (mem_blurSteps radius)))

end

/-- words and leads of these utilities -/
def forms : List (String × List String × List String) := [
  ("display", namesOf "display", []), ("flexdirection", namesOf "flex-direction", []),
  ("flexwrap", namesOf "flex-wrap", []), ("flexgrow", namesOf "grow", []),
  ("flexshrink", namesOf "shrink", []),
  ("flex", ["flex-1", "flex-auto", "flex-none"], ["flex-["]), ("gridcolumn", [], ["col-"]),
  ("gridrow", [], ["row-"]), ("position", namesOf "position", []), ("zindex", [], ["z-"]),
  ("overflow", ["overflow-hidden", "overflow-auto", "overflow-scroll", "overflow-clip"], []),
  ("padding", [], signedLeads "p"), ("margin", [], signedLeads "m"),
  ("gap", [], scaleLeads "gap"), ("borderradius", radiusWords, ["rounded-["]),
  ("transform", [], ["rotate-", "-rotate-"]),
  ("fontweight", fontWeightNames.map fun name => "font-" ++ name, []),
  ("fontstyle", namesOf "font-style", []), ("textalign", namesOf "text-align", []),
  ("filter", blurSteps.map fun step => "blur" ++ step, []),
  ("backdropfilter", blurSteps.map fun step => "backdrop-blur" ++ step, [])]

theorem opens_forms : ∀ e ∈ forms, ∀ write, utilities.lookup e.1 = some write →
    ∀ v, Usual e.1 v → Opens e.2.1 e.2.2 (write v) := by
  have of {key : String} {written : String → String} {words leads : List String}
      (known : utilities.lookup key = some written)
      (h : ∀ v, Usual key v → Opens words leads (written v)) :
      ∀ write, utilities.lookup key = some write → ∀ v, Usual key v → Opens words leads (write v) := by
    intro write found
    obtain rfl := Option.some.inj (known.symm.trans found)
    exact h
  unfold forms
  simp only [List.forall_mem_cons]
  exact ⟨
    of rfl fun v _ => opens_keyword (by decide) v, of rfl fun v _ => opens_keyword (by decide) v,
    of rfl fun v _ => opens_keyword (by decide) v,
    of rfl fun v usual => opens_keywordOr_of_known (by decide) (usual _ rfl),
    of rfl fun v usual => opens_keywordOr_of_known (by decide) (usual _ rfl),
    of rfl fun v _ => opens_keywordOr (by decide) "flex" v,
    of rfl fun v _ => opens_gridSpan "col" v, of rfl fun v _ => opens_gridSpan "row" v,
    of rfl fun v _ => opens_named (by decide) v, of rfl fun v _ => opens_zIndex v,
    of rfl fun v _ => opens_named (by decide) v,
    of rfl fun v usual => opens_boxSides (by decide) (usual _ rfl),
    of rfl fun v usual => opens_boxSides (by decide) (usual _ rfl),
    of rfl fun v _ => opens_gap "gap" v, of rfl fun v _ => opens_radius v,
    of rfl fun v usual => opens_transform (usual _ rfl),
    of rfl fun v usual => opens_keywordOr_of_known (by decide) (usual _ rfl),
    of rfl fun v _ => opens_keyword (by decide) v, of rfl fun v _ => opens_named (by decide) v,
    of rfl fun v usual => opens_blur (usual _ rfl) "blur" "filter",
    of rfl fun v usual => opens_blur (usual _ rfl) "backdrop-blur" "backdrop-filter",
    List.forall_mem_nil _⟩

theorem decided_forms : ∀ e ∈ forms, ∀ group, propertyGroups.lookup e.1 = some group →
    Decides e.2.1 e.2.2 group := by
  have table : ∀ e ∈ forms, ∀ group ∈ propertyGroups.lookup e.1, Decides e.2.1 e.2.2 group := by
    decide +kernel
  exact table

/-! ## texts and families -/

theorem signed_of_unsigned {s : String} (h : s.toList.head? ≠ some '-') : (signed s).2 = s := by
  rw [← String.toList_inj, toList_unsigned, if_neg h]

theorem suffix_bracketed {p x : List Char} (other : p.head? ≠ some '[') :
    p ++ [']'] <:+ '[' :: (x ++ [']']) ↔ p <:+ x := by
  constructor
  · rintro ⟨t, e⟩
    rw [← List.append_assoc, ← List.cons_append, List.append_cancel_right_eq] at e
    cases t with
    | nil =>
      rw [List.nil_append] at e
      exact absurd (congrArg List.head? e) other
    | cons c t =>
      obtain ⟨-, e⟩ := List.cons.inj e
      exact ⟨t, e⟩
  · rintro ⟨t, rfl⟩
    exact ⟨'[' :: t, by simp⟩

/-- an end without the last character before it is in what stands behind -/
theorem suffix_of_suffix_append {p a x : List Char} (other : (a.getLast?.any p.contains) = false)
    (h : p <:+ a ++ x) : p <:+ x := by
  obtain ⟨t, e⟩ := h
  rcases List.append_eq_append_iff.mp e with ⟨m, rfl, rfl⟩ | ⟨m, rfl, rfl⟩
  · cases last : m.getLast? with
    | none =>
      obtain rfl : m = [] := List.getLast?_eq_none_iff.mp last
      exact List.suffix_rfl
    | some c =>
      rw [List.getLast?_append, last, Option.some_or, Option.any_some] at other
      have mem : c ∈ m ++ x := List.mem_append_left x (List.mem_of_getLast? last)
      rw [List.contains_iff_mem.mpr mem] at other
      cases other
  · exact List.suffix_append _ _

/-- a family is written in quotes -/
theorem group?_of_family {c : String} (h : "font-['".toList <+: c.toList) :
    group? c = some "font-family" := by
  obtain ⟨rest, e⟩ := h
  have text : c = "font-" ++ ("['" ++ String.ofList rest) :=
    String.toList_inj.mp (by simp [← e])
  have positive : (signed c).2 = c := signed_of_unsigned (by rw [text]; simp)
  have unnamed : fontWeightNames.contains ("['" ++ String.ofList rest) = false := by
    have apart : ∀ name ∈ fontWeightNames, ¬ "['".toList <+: name.toList := by decide
    rw [Bool.eq_false_iff, Ne, List.contains_iff_mem]
    exact fun mem => apart _ mem (by simp)
  have quoted : Text.startsWith "['" ("['" ++ String.ofList rest) = true :=
    startsWith_iff.mpr (by simp)
  have begins : "font-['".toList <+: (signed c).2.toList := by
    rw [positive]
    exact ⟨rest, e⟩
  rw [group?_of_apart (by decide) (by decide) begins, positive, text, Text.dropPrefix?_append]
  dsimp only
  rw [fontGroup?, if_neg (by rw [unnamed]; exact Bool.false_ne_true), if_pos quoted]

/-- a bracketed text utility is for the size just if it ends in pixels -/
theorem group?_bracketed_text (x : String) :
    group? ("text-[" ++ x ++ "]") = if Text.endsWith "px" x then some "font-size" else none := by
  have text : "text-[" ++ x ++ "]" = "text-" ++ ("[" ++ x ++ "]") := String.toList_inj.mp (by simp)
  have positive : (signed ("text-[" ++ x ++ "]")).2 = "text-[" ++ x ++ "]" :=
    signed_of_unsigned (by simp)
  have unnamed : fontSizeNames.contains ("[" ++ x ++ "]") = false := by
    have apart : ∀ name ∈ fontSizeNames, ¬ "[".toList <+: name.toList := by decide
    rw [Bool.eq_false_iff, Ne, List.contains_iff_mem]
    exact fun mem => apart _ mem (by simp)
  have bracket : Text.startsWith "[" ("[" ++ x ++ "]") = true := startsWith_iff.mpr (by simp)
  have pixels : Text.endsWith "px]" ("[" ++ x ++ "]") = Text.endsWith "px" x := by
    rw [Bool.eq_iff_iff, Text.endsWith_iff, Text.endsWith_iff]
    have inside := suffix_bracketed (p := "px".toList) (x := x.toList) (by decide)
    simpa using inside
  have font : Text.dropPrefix? "font-" ("text-" ++ ("[" ++ x ++ "]")) = none :=
    dropPrefix?_eq_none (by simp)
  have begins : "text-[".toList <+: (signed ("text-[" ++ x ++ "]")).2.toList := by
    rw [positive]
    simp
  rw [group?_of_apart (by decide) (by decide) begins, positive, text, font, Text.dropPrefix?_append]
  dsimp only
  rw [textGroup?, unnamed, bracket, pixels, Bool.true_and, Bool.false_or]

theorem group?_fontFamily {v c : String} (one : split (fontFamily v) = [c]) :
    group? c = some "font-family" := by
  unfold fontFamily at one
  dsimp only at one
  split at one
  · exact nomatch one
  · exact group?_of_family (prefix_of_split (by decide) (by decide) (by simp) one)

theorem group?_fontSize {v c : String} (pixels : (parsePx? v).isSome = true)
    (one : split (fontSize v) = [c]) : group? c = some "font-size" := by
  obtain ⟨px, found⟩ := Option.isSome_iff_exists.mp pixels
  unfold fontSize at one
  rw [found] at one
  dsimp only at one
  split at one
  · next name known =>
    have named := (by decide +kernel : ∀ e ∈ fontSizes, Solid ("text-" ++ e.2) ∧
      group? ("text-" ++ e.2) = some "font-size") _ (mem_of_lookup known)
    rw [eq_of_split named.1 one, named.2]
  · have text : bracketPx "text" px.round = "text-[" ++ (Decimal.trimmed px.round ++ "px") ++ "]" :=
      String.toList_inj.mp (by simp [bracketPx])
    have ends : Text.endsWith "px" (Decimal.trimmed px.round ++ "px") = true :=
      Text.endsWith_iff.mpr (by simp)
    rw [eq_of_split (ledWord_bracketPx (by decide) _).solid one, text, group?_bracketed_text,
      if_pos ends]

theorem toUpper_ne_x (c : Char) : c.toUpper ≠ 'x' := by
  by_cases small : c = 'x'
  · rw [small]
    decide
  · exact Chars.toUpper_ne (by decide) small

theorem group?_color {v c : String} (other : Text.endsWith "px" (escapeArbitrary v) = false)
    (one : split (colorClass "text" v) = [c]) : group? c = none := by
  have free {x : String} (h : Text.endsWith "px" x = false) : group? ("text-[" ++ x ++ "]") = none := by
    rw [group?_bracketed_text, h]
    rfl
  have written : group? (arbitrary "text" v) = none := free other
  rw [eq_of_split (ledWord_colorClass (by decide) v).solid one]
  have named : ∀ w ∈ ["transparent", "white", "black", "current"] ++ palette.map Prod.snd,
      group? ("text" ++ "-" ++ w) = none := by decide +kernel
  unfold colorClass
  split
  · have text : "text-[color:" ++ escapeArbitrary v ++ "]"
        = "text-[" ++ ("color:" ++ escapeArbitrary v) ++ "]" := String.toList_inj.mp (by simp)
    rw [if_pos rfl, text]
    refine free (Bool.eq_false_iff.mpr fun ends => Bool.eq_false_iff.mp other ?_)
    rw [Text.endsWith_iff, String.toList_append] at ends
    exact Text.endsWith_iff.mpr (suffix_of_suffix_append (by decide) ends)
  · split
    · next known => exact named v (List.mem_append_left _ (List.contains_iff_mem.mp known))
    · split
      · exact written
      · next hex alpha color =>
        split
        · exact written
        · split
          · next name found =>
            exact named name (List.mem_append_right _ (List.mem_map_of_mem (mem_of_lookup found)))
          · obtain ⟨upper, capital, rfl⟩ := exists_of_parseColor? color
            refine free (Bool.eq_false_iff.mpr fun ends => ?_)
            have last : 'x' ∈ ("#" ++ upper).toList :=
              (Text.endsWith_iff.mp ends).subset (by decide : 'x' ∈ "px".toList)
            rw [String.toList_append, List.mem_append] at last
            rcases last with hash | digit
            · exact absurd hash (by decide)
            · obtain ⟨d, e⟩ := capital.upper _ digit
              exact toUpper_ne_x d e

/-! ## all properties -/

/-- the other properties tell their group by their leads -/
theorem decided_leads : ∀ e ∈ leadTable, e.1 ∉ forms.map Prod.fst →
    e.1 ∉ ["color", "fontfamily", "fontsize"] → ∀ group, propertyGroups.lookup e.1 = some group →
      Decides [] e.2 group := by
  have table : ∀ e ∈ leadTable, e.1 ∉ forms.map Prod.fst →
      e.1 ∉ ["color", "fontfamily", "fontsize"] → ∀ group ∈ propertyGroups.lookup e.1,
        Decides [] e.2 group := by
    decide +kernel
  exact table

theorem exists_group {key : String} {write : String → String}
    (found : utilities.lookup key = some write) :
    ∃ group, propertyGroups.lookup key = some group := by
  have keys : utilities.map Prod.fst = propertyGroups.map Prod.fst := rfl
  have mem : key ∈ utilities.map Prod.fst := List.mem_map_of_mem (mem_of_lookup found)
  rw [keys] at mem
  obtain ⟨e, he, rfl⟩ := List.mem_map.mp mem
  refine Option.ne_none_iff_exists'.mp fun none => ?_
  exact bne_iff_ne.mp (List.lookup_eq_none_iff.mp none e he) rfl

/-- the only class of a usual value is in the group of the property, or in none if it has none -/
theorem group?_of_usual {key v c : String} {write : String → String}
    (found : utilities.lookup key = some write) (usual : Usual key v)
    (one : split (write v) = [c]) : propertyGroups.lookup key = some (group? c) := by
  obtain ⟨group, known⟩ := exists_group found
  rw [known]
  refine congrArg some (Eq.symm ?_)
  by_cases form : key ∈ forms.map Prod.fst
  · obtain ⟨e, he, rfl⟩ := List.mem_map.mp form
    exact group?_of_opens (decided_forms e he group known) (opens_forms e he write found v usual) one
  by_cases special : key ∈ ["color", "fontfamily", "fontsize"]
  · simp only [List.mem_cons, List.not_mem_nil, or_false] at special
    rcases special with rfl | rfl | rfl
    · obtain rfl : colorClass "text" = write := Option.some.inj found
      obtain rfl : none = group := Option.some.inj known
      exact group?_color (by simpa using usual _ rfl) one
    · obtain rfl : fontFamily = write := Option.some.inj found
      obtain rfl : some "font-family" = group := Option.some.inj known
      exact group?_fontFamily one
    · obtain rfl : fontSize = write := Option.some.inj found
      obtain rfl : some "font-size" = group := Option.some.inj known
      exact group?_fontSize (usual _ rfl) one
  · obtain ⟨leads, same, led⟩ := lookup_of_forall₂ led_utilities found
    have tame : Tame key v := tame_of_plain (fun raw => by
      have listed : ∀ k ∈ ["zindex", "gridcolumn", "gridrow", "fontfamily"],
          k ∈ forms.map Prod.fst ∨ k ∈ ["color", "fontfamily", "fontsize"] := by decide
      exact (listed key raw).elim form special) v
    exact group?_of_opens (decided_leads _ (mem_of_lookup same) form special group known)
      (opens_of_led (led v tame)) one

theorem exists_of_classesOf {property v c : String} (one : classesOf property v = [c]) :
    ∃ write, utilities.lookup (propertyKey property) = some write ∧
      split (write (Text.trim v)) = [c] := by
  unfold classesOf ofDeclaration at one
  dsimp only at one
  split at one
  · exact nomatch one
  · split at one
    · next write found => exact ⟨write, found, one⟩
    · exact nomatch one

theorem groupKey?_of_usual {property v c : String} (one : classesOf property v = [c])
    (plain : variantOf c = "") (usual : Usual (propertyKey property) (Text.trim v)) :
    ∃ group, propertyGroups.lookup (propertyKey property) = some group ∧
      groupKey? c = group.map fun g => ("", g) := by
  obtain ⟨write, found, one⟩ := exists_of_classesOf one
  exact ⟨_, group?_of_usual found usual one, by rw [groupKey?, baseOf_of_plain plain, plain]⟩

/-! ## two classes of one property -/

/-- of two classes the later stays alone if it has variant and group of the other -/
theorem dedupe_pair {c d : String} (other : c ≠ d) : dedupe [c, d] =
    if (groupKey? c).isSome ∧ groupKey? c = groupKey? d then [d] else [c, d] := by
  have new : ¬ [c].contains d = true := by simpa using other.symm
  have kept (seen : List String) (h : ¬ seen.contains d = true) : dedupeAfter seen [d] = [d] := by
    rw [dedupeAfter, if_neg (by simp), if_neg h, dedupeAfter]
  have replaced : ((groupKey? c).isSome && [d].any fun e => groupKey? e == groupKey? c) = true ↔
      (groupKey? c).isSome ∧ groupKey? c = groupKey? d := by
    rw [Bool.and_eq_true, List.any_cons, List.any_nil, Bool.or_false, beq_iff_eq,
      eq_comm (a := groupKey? d)]
  rw [dedupe, dedupeAfter]
  by_cases same : (groupKey? c).isSome ∧ groupKey? c = groupKey? d
  · rw [if_pos (replaced.mpr same), if_pos same, kept [] (by simp)]
  · rw [if_neg (replaced.not.mpr same), if_neg same, if_neg (by simp), kept [c] new]

/-- **Which later declaration replaces an earlier one.**  Of two declarations of one property with a
class each, the later class stays alone if both have the same variant and the same group, and beside
the other if not.  For usual values without variants this only depends on the property. -/
theorem later_class {property v w c d : String} (hc : classesOf property v = [c])
    (hd : classesOf property w = [d]) (other : c ≠ d) :
    (dedupe [c, d] = if (groupKey? c).isSome ∧ groupKey? c = groupKey? d then [d] else [c, d]) ∧
    (variantOf c = "" → variantOf d = "" → Usual (propertyKey property) (Text.trim v) →
      Usual (propertyKey property) (Text.trim w) →
      ∃ group, propertyGroups.lookup (propertyKey property) = some group ∧
        dedupe [c, d] = if group.isSome then [d] else [c, d]) := by
  refine ⟨dedupe_pair other, fun plain plain' usual usual' => ?_⟩
  obtain ⟨group, known, key⟩ := groupKey?_of_usual hc plain usual
  obtain ⟨group', known', key'⟩ := groupKey?_of_usual hd plain' usual'
  obtain rfl : group = group' := Option.some.inj (known.symm.trans known')
  refine ⟨group, known, ?_⟩
  rw [dedupe_pair other, key, key', Option.isSome_map]
  simp only [and_true]

theorem later_class_width :
    (classesOf "width" "100%" = ["w-full"] ∧ classesOf "width" "50%" = ["w-1/2"]) ∧
      dedupe ["w-full", "w-1/2"] = ["w-1/2"] := by
  have full : classesOf "width" "100%" = ["w-full"] := by decide +kernel
  have half : classesOf "width" "50%" = ["w-1/2"] := by decide +kernel
  have usual (v : String) : Usual (propertyKey "width") v := fun _ found => nomatch found
  obtain ⟨-, usually⟩ := later_class full half (by decide)
  obtain ⟨group, known, kept⟩ := usually (by decide +kernel) (by decide +kernel) (usual _) (usual _)
  obtain rfl : some "w" = group := Option.some.inj known
  exact ⟨⟨full, half⟩, kept⟩

/-- backgrounds have no group -/
theorem backgrounds_side_by_side :
    classesOf "background-color" "white" = ["bg-white"] ∧
      classesOf "background-color" "black" = ["bg-black"] ∧ "bg-white" ≠ "bg-black" ∧
      dedupe ["bg-white", "bg-black"] = ["bg-white", "bg-black"] := by
  decide +kernel

end Handoff.Utility
