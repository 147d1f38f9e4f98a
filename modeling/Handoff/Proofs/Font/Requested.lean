import Handoff.Font
import Handoff.Proofs.Design.WellFormed
import Handoff.Proofs.Styled.Shown
import Handoff.Proofs.Styling.Sourced
import Handoff.Proofs.Text.Members
import Handoff.Proofs.Text.Utf8
import Handoff.Url.Basic
import Mathlib.Data.List.Nodup

/-!
# The fonts that a stylesheet is asked for

The address of the stylesheet names each family with its weights, in the form of a query.  What it asks
for is what a reader of queries finds in it: the values of `family`, cut at the last colon and at
semicolons.  Blanks, marks and bytes that are no ASCII are written so that they are read back, whatever
the name of a family is.

* `Reads`                   characters of a query that are read as some text;
* `reads_encode`            the name of a family is read as it was written;
* `requested`               the families and weights that an address asks for;
* `requested_addressOf`     they are those that the address was put together from;
* `Sorted`                  what holds of the fonts after each use;
* `stylesheetUrl?_spec`     a tree asks for the fonts of all its nodes, each once;
* `AsksForRendered`         whether these are the fonts of the nodes that are rendered;
* `fonts_requested`         what the tree of a design asks for;
* `font_of_hidden_title`    the font of a text that is not rendered is asked for too.
-/

namespace Handoff
open Chars

/-! ## values of a query -/

namespace Url

/-- a plus is read as a blank -/
def blankOf (c : Char) : Char := if c = '+' then ' ' else c

/-- characters of a query that are read as some text, whatever follows them -/
def Reads (cs : List Char) (s : String) : Prop := ∀ bs,
  Bytes.percentDecodeFrom 0 ((cs.map blankOf).flatMap Bytes.charBytes ++ bs)
    = Bytes.utf8 s ++ Bytes.percentDecodeFrom 0 bs

theorem decodeQuery_of_reads {cs : List Char} {s : String} (h : Reads cs s) :
    decodeQuery cs = s := by
  have bytes := h []
  rw [List.append_nil, show Bytes.percentDecodeFrom 0 [] = [] from rfl, List.append_nil] at bytes
  have chars : Bytes.utf8 (String.ofList (cs.map blankOf))
      = (cs.map blankOf).flatMap Bytes.charBytes := by
    rw [Bytes.utf8_eq_flatMap, String.toList_ofList]
  show Bytes.ofUtf8 (Bytes.percentDecodeFrom 0 (Bytes.utf8 (String.ofList (cs.map blankOf)))) = s
  rw [chars, bytes, Bytes.ofUtf8_utf8]

theorem Reads.append {cs ds : List Char} {s t : String} (h : Reads cs s) (h' : Reads ds t) :
    Reads (cs ++ ds) (s ++ t) := by
  intro bs
  rw [List.map_append, List.flatMap_append, List.append_assoc, h, h', Bytes.utf8_append,
    List.append_assoc]

/-- a character that is read as it is -/
def IsPlain (c : Char) : Prop := c.toNat < 0x80 ∧ c ≠ '+' ∧ c ≠ '%'

instance (c : Char) : Decidable (IsPlain c) := inferInstanceAs (Decidable (_ ∧ _ ∧ _))

/-- a text that is read as it is -/
def Plain (s : String) : Prop := ∀ c ∈ s.toList, IsPlain c

instance (s : String) : Decidable (Plain s) := List.decidableBAll IsPlain s.toList

theorem IsPlain.reads {c : Char} (h : IsPlain c) (bs : List Nat) :
    Bytes.percentDecodeFrom 0 (Bytes.charBytes (blankOf c) ++ bs)
      = Bytes.charBytes c ++ Bytes.percentDecodeFrom 0 bs := by
  obtain ⟨ascii, noPlus, noPercent⟩ := h
  have code : c.toNat ≠ 0x25 := fun same => noPercent (Char.toNat_inj.mp same)
  rw [blankOf, if_neg noPlus, Bytes.charBytes_ascii ascii]
  exact Bytes.percentDecodeFrom_other code bs

theorem reads_plain {s : String} (plain : Plain s) : Reads s.toList s := by
  intro bs
  unfold Plain at plain
  rw [Bytes.utf8_eq_flatMap]
  generalize s.toList = cs at plain ⊢
  induction cs with
  | nil => rfl
  | cons c cs ih =>
    obtain ⟨hc, plain⟩ := List.forall_mem_cons.mp plain
    rw [List.map_cons, List.flatMap_cons, List.append_assoc, hc.reads, ih plain, List.flatMap_cons,
      List.append_assoc]

end Url

/-- the last separator cuts a text where nothing of it follows -/
theorem Text.cutLast?_eq_some {c : Char} {s a b : String} (h : s.toList = a.toList ++ c :: b.toList)
    (last : c ∉ b.toList) : Text.cutLast? c s = some (a, b) := by
  have backwards : s.toList.reverse = b.toList.reverse ++ c :: a.toList.reverse := by
    rw [h, List.reverse_append, List.reverse_cons, List.append_assoc]
    rfl
  have first : c ∉ b.toList.reverse := fun h => last (List.mem_reverse.mp h)
  rw [Text.cutLast?, Chars.cutLast?, Chars.cut?_eq_some_iff.mpr ⟨backwards, first⟩, Option.map_some,
    Option.map_some]
  dsimp only [Text.pair]
  rw [List.reverse_reverse, List.reverse_reverse, String.ofList_toList, String.ofList_toList]

namespace Font
open Url

/-- the characters that bytes are written with as they are -/
def IsKept (c : Char) : Prop :=
  isAsciiAlnum c = true ∨ c = '*' ∨ c = '-' ∨ c = '.' ∨ c = '_'

instance (c : Char) : Decidable (IsKept c) := inferInstanceAs (Decidable (_ ∨ _))

theorem IsKept.plain {c : Char} (h : IsKept c) : IsPlain c := by
  rcases h with alnum | rfl | rfl | rfl | rfl
  · exact ⟨toNat_lt_of_alnum alnum, ne_of_alnum alnum (by decide), ne_of_alnum alnum (by decide)⟩
  all_goals decide

/-- a byte is a character that is kept, a blank, or written with a percent sign and two digits -/
theorem encodeByte_cases {b : Nat} (h : b < 256) :
    (∃ c, IsKept c ∧ c.toNat = b ∧ (encodeByte b).toList = [c]) ∨
      (b = 32 ∧ (encodeByte b).toList = ['+']) ∨
      (encodeByte b).toList = Bytes.percentByte b ∧ ∃ c d, Bytes.percentByte b = ['%', c, d] ∧
        isAsciiAlnum c = true ∧ isAsciiAlnum d = true := by
  have code : ∀ b < 128, (Char.ofNat b).toNat = b := by decide
  unfold encodeByte
  dsimp only
  split
  · next kept =>
    simp only [Bool.and_eq_true, Bool.or_eq_true, beq_iff_eq, decide_eq_true_eq] at kept
    obtain ⟨small, kept⟩ := kept
    refine .inl ⟨Char.ofNat b, ?_, code b small, String.toList_singleton _⟩
    simpa only [IsKept, or_assoc] using kept
  split
  · next blank => exact .inr (.inl ⟨blank, rfl⟩)
  · exact .inr (.inr ⟨String.toList_ofList, _, _, rfl, (Bytes.upperHex_spec _ (by omega)).1,
      (Bytes.upperHex_spec _ (by omega)).1⟩)

/-- a byte is read back, however it is written -/
theorem reads_encodeByte {b : Nat} (h : b < 256) (bs : List Nat) :
    Bytes.percentDecodeFrom 0
        (((encodeByte b).toList.map blankOf).flatMap Bytes.charBytes ++ bs)
      = b :: Bytes.percentDecodeFrom 0 bs := by
  rcases encodeByte_cases h with ⟨c, kept, rfl, chars⟩ | ⟨rfl, chars⟩ | ⟨chars, c, d, e, hc, hd⟩
  · rw [chars, List.map_singleton, List.flatMap_singleton, kept.plain.reads,
      Bytes.charBytes_ascii kept.plain.1]
    rfl
  · rw [chars]
    exact Bytes.percentDecodeFrom_other (by decide) bs
  · have digit {c : Char} (hc : isAsciiAlnum c = true) : blankOf c = c :=
      if_neg (ne_of_alnum hc (by decide))
    have same : (Bytes.percentByte b).map blankOf = Bytes.percentByte b := by
      rw [e, List.map_cons, List.map_cons, List.map_singleton, digit hc, digit hd]
      rfl
    rw [chars, same, Bytes.percentDecodeFrom_percentByte h]

theorem toList_encode (s : String) :
    (encode s).toList = (Bytes.utf8 s).flatMap fun b => (encodeByte b).toList := by
  rw [encode, String.toList_join, List.flatMap_map]

theorem lt_of_mem_utf8 {s : String} : ∀ b ∈ Bytes.utf8 s, b < 256 :=
  List.forall_mem_map.mpr fun byte _ => byte.toNat_lt

theorem of_mem_encode {s : String} {c : Char} (h : c ∈ (encode s).toList) :
    IsKept c ∨ c = '+' ∨ c = '%' := by
  rw [toList_encode] at h
  obtain ⟨b, hb, h⟩ := List.mem_flatMap.mp h
  rcases encodeByte_cases (lt_of_mem_utf8 b hb) with
    ⟨d, kept, -, chars⟩ | ⟨-, chars⟩ | ⟨chars, d, d', e, hd, hd'⟩
  · rw [chars, List.mem_singleton] at h
    exact .inl (h ▸ kept)
  · rw [chars, List.mem_singleton] at h
    exact .inr (.inl h)
  · rw [chars, e] at h
    simp only [List.mem_cons, List.not_mem_nil, or_false] at h
    rcases h with rfl | rfl | rfl
    · exact .inr (.inr rfl)
    · exact .inl (.inl hd)
    · exact .inl (.inl hd')

/-- **The name of a family is read as it was written.** -/
theorem reads_encode (s : String) : Reads (encode s).toList s := by
  intro bs
  have small := lt_of_mem_utf8 (s := s)
  rw [toList_encode]
  generalize Bytes.utf8 s = us at small ⊢
  induction us with
  | nil => rfl
  | cons b us ih =>
    obtain ⟨hb, small⟩ := List.forall_mem_cons.mp small
    rw [List.flatMap_cons, List.map_append, List.flatMap_append, List.append_assoc,
      reads_encodeByte hb, ih small]
    rfl

/-! ## addresses -/

/-- the number that a text spells -/
def number? (s : String) : Option Nat :=
  if isDecimalNumber s.toList then some (Decimal.natOfDigits s.toList) else none

theorem number?_toString (n : Nat) : number? (toString n) = some n := by
  have digits : isDecimalNumber (toString n).toList = true := by
    rw [isDecimalNumber, Bool.and_eq_true, List.all_eq_true]
    refine ⟨?_, fun c hc => isAsciiDigit_of_mem_toString c hc⟩
    rw [Nat.toString_eq_ofList_toDigits, String.toList_ofList, Bool.not_eq_true',
      List.isEmpty_eq_false_iff]
    exact Nat.toDigits_ne_nil
  have value : Decimal.natOfDigits (toString n).toList = n := by
    rw [Nat.toString_eq_ofList_toDigits, String.toList_ofList]
    exact Nat.ofDigitChars_toDigits (by decide) (by decide)
  rw [number?, if_pos digits, value]

/-- the family and the weights that one value of the query asks for -/
def askedBy? (value : String) : Option (List (String × Nat)) := do
  let (family, axes) ← Text.cutLast? ':' value
  let weights ← Text.dropPrefix? "wght@" axes
  (Text.splitOn ';' weights).mapM fun w => (number? w).map fun weight => (family, weight)

/-- the families and weights that an address asks for, as its query is read -/
def requested (address : String) : List (String × Nat) :=
  let query := (Url.cutBefore '?' address.toList).2.getD []
  ((fields (· == '&') query).map Url.pairOf).flatMap fun e =>
    if e.1 = "family" then (askedBy? e.2).getD [] else []

/-- how weights are written behind a family -/
def weightText (weights : List Nat) : String :=
  ":wght@" ++ String.intercalate ";" (weights.map toString)

theorem of_mem_weights {weights : List Nat} :
    ∀ c ∈ (String.intercalate ";" (weights.map toString)).toList, c = ';' ∨ isAsciiDigit c = true := by
  intro c hc
  rw [String.toList_intercalate] at hc
  rcases mem_intercalate hc with separator | ⟨digits, hdigits, hc⟩
  · exact .inl (List.mem_singleton.mp separator)
  · rw [List.map_map, List.mem_map] at hdigits
    obtain ⟨w, -, rfl⟩ := hdigits
    exact .inr (isAsciiDigit_of_mem_toString c hc)

/-- what is asked of a family is read as it was written, also where its name has a colon -/
theorem askedBy?_written (family : String) {weights : List Nat} (filled : weights ≠ []) :
    askedBy? (family ++ weightText weights) = some (weights.map fun w => (family, w)) := by
  have axes : Text.cutLast? ':' (family ++ weightText weights)
      = some (family, "wght@" ++ String.intercalate ";" (weights.map toString)) := by
    refine Text.cutLast?_eq_some ?_ ?_
    · rw [weightText, String.toList_append, String.toList_append, String.toList_append]
      rfl
    · rw [String.toList_append, List.mem_append]
      rintro (name | weight)
      · exact absurd name (by decide)
      · exact absurd (of_mem_weights ':' weight) (by decide)
  have apart : Text.splitOn ';' (String.intercalate ";" (weights.map toString))
      = weights.map toString := by
    refine Text.splitOn_intercalate rfl (mt List.map_eq_nil_iff.mp filled) ?_
    refine List.forall_mem_map.mpr fun w _ h => ?_
    exact absurd (isAsciiDigit_of_mem_toString ';' h) (by decide)
  have read (w : Nat) : (number? (toString w)).map (fun weight => (family, weight))
      = some (family, w) := by
    rw [number?_toString, Option.map_some]
  unfold askedBy?
  rw [axes]
  dsimp only [Option.bind_eq_bind, Option.bind_some]
  rw [Text.dropPrefix?_append, Option.bind_some, apart, List.mapM_map]
  simp only [Function.comp_def, read]
  exact List.mapM_pure

theorem pairOf_familyQuery (family : String) (weights : List Nat) :
    Url.pairOf (familyQuery family weights).toList = ("family", family ++ weightText weights) := by
  have weights' : Reads (weightText weights).toList (weightText weights) := by
    refine reads_plain fun c hc => ?_
    rw [weightText, String.toList_append, List.mem_append] at hc
    rcases hc with lead | weight
    · exact (by decide : Plain ":wght@") c lead
    · rcases of_mem_weights c weight with rfl | digit
      · decide
      · exact (IsKept.plain (.inl (isAsciiAlnum_of_digit digit)))
  have name : decodeQuery "family".toList = "family" :=
    decodeQuery_of_reads (reads_plain (by decide))
  have value : decodeQuery (encode family ++ weightText weights).toList
      = family ++ weightText weights := by
    rw [String.toList_append]
    exact decodeQuery_of_reads ((reads_encode family).append weights')
  have sides : cut? '=' (familyQuery family weights).toList
      = some ("family".toList, (encode family ++ weightText weights).toList) := by
    refine cut?_eq_some_iff.mpr ⟨?_, by decide⟩
    simp only [familyQuery, weightText, String.toList_append, List.append_assoc]
    rfl
  rw [pairOf, cutBefore, sides]
  dsimp only [Option.getD_some]
  rw [name, value]

theorem amp_not_mem_familyQuery (family : String) (weights : List Nat) :
    '&' ∉ (familyQuery family weights).toList := by
  simp only [familyQuery, String.toList_append, List.mem_append, not_or]
  refine ⟨⟨⟨by decide, fun h => ?_⟩, by decide⟩, fun h => ?_⟩
  · rcases of_mem_encode h with kept | plus | percent
    · exact absurd kept (by decide)
    · cases plus
    · cases percent
  · exact absurd (of_mem_weights '&' h) (by decide)

/-- the address that asks for some families -/
def addressOf (es : List (String × List Nat)) : String :=
  "https://fonts.googleapis.com/css2?"
    ++ String.intercalate "&" (es.map fun e => familyQuery e.1 e.2) ++ "&display=swap"

theorem cut?_append {c : Char} {lead : String} {front : List Char}
    (leads : lead.toList = front ++ [c]) (none : c ∉ front) (middle back : String) :
    cut? c (lead ++ middle ++ back).toList = some (front, middle.toList ++ back.toList) := by
  refine cut?_eq_some_iff.mpr ⟨?_, none⟩
  rw [String.toList_append, String.toList_append, leads, List.append_assoc, List.append_assoc]
  rfl

/-- parts between ampersands, with one more behind them -/
theorem fields_queries {queries : List (List Char)} (some : queries ≠ [])
    (each : ∀ q ∈ queries, q ≠ [] ∧ '&' ∉ q) {last : List Char} (filled : last ≠ [])
    (flat : '&' ∉ last) :
    fields (· == '&') (List.intercalate ['&'] queries ++ '&' :: last) = queries ++ [last] := by
  have apart : splitWhere (· == '&') (List.intercalate ['&'] queries) = queries :=
    splitOn_intercalate some fun q hq => (each q hq).2
  have behind : splitWhere (· == '&') last = [last] :=
    splitWhere_alone fun c hc => beq_false_of_ne fun same => flat (same ▸ hc)
  have kept : ∀ q ∈ queries ++ [last], (!q.isEmpty) = true := by
    refine List.forall_mem_append.mpr ⟨fun q hq => ?_, List.forall_mem_singleton.mpr ?_⟩
    · simpa using (each q hq).1
    · simpa using filled
  rw [fields, splitWhere_around (p := (· == '&')) rfl, apart, behind]
  exact List.filter_eq_self.mpr kept

/-- the parts of the query are those that it was put together from -/
theorem fields_addressOf {es : List (String × List Nat)} (some : es ≠ []) :
    fields (· == '&') (((cutBefore '?' (addressOf es).toList).2).getD [])
      = es.map (fun e => (familyQuery e.1 e.2).toList) ++ ["display=swap".toList] := by
  have query : cut? '?' (addressOf es).toList = Option.some (_, _) :=
    cut?_append (by decide : _ = "https://fonts.googleapis.com/css2".toList ++ ['?']) (by decide) _ _
  have chars : (String.intercalate "&" (es.map fun e => familyQuery e.1 e.2)).toList
      = List.intercalate ['&'] (es.map fun e => (familyQuery e.1 e.2).toList) := by
    rw [String.toList_intercalate, List.map_map]
    rfl
  have back : "&display=swap".toList = '&' :: "display=swap".toList := by decide
  have each : ∀ q ∈ es.map (fun e => (familyQuery e.1 e.2).toList), q ≠ [] ∧ '&' ∉ q := by
    refine List.forall_mem_map.mpr fun e _ => ⟨?_, amp_not_mem_familyQuery e.1 e.2⟩
    simp [familyQuery]
  rw [cutBefore, query]
  dsimp only [Option.getD_some]
  refine (congrArg (fields _) (congrArg₂ (· ++ ·) chars back)).trans ?_
  exact fields_queries (mt List.map_eq_nil_iff.mp some) each (by decide) (by decide)

/-- **What an address asks for is read as it was written.** -/
theorem requested_addressOf {es : List (String × List Nat)} (some : es ≠ [])
    (filled : ∀ e ∈ es, e.2 ≠ []) :
    requested (addressOf es) = es.flatMap fun e => e.2.map fun w => (e.1, w) := by
  have display : (pairOf "display=swap".toList).1 ≠ "family" := by
    have sides : cut? '=' "display=swap".toList = Option.some ("display".toList, "swap".toList) := by
      decide
    rw [pairOf, cutBefore, sides]
    dsimp only [Option.getD_some]
    rw [decodeQuery_of_reads (reads_plain (s := "display") (by decide))]
    decide
  rw [requested, fields_addressOf some, List.map_append, List.flatMap_append, List.map_map,
    List.flatMap_map, List.map_singleton, List.flatMap_singleton, if_neg display, List.append_nil]
  refine List.flatMap_congr fun e he => ?_
  rw [Function.comp_apply, pairOf_familyQuery, if_pos rfl, askedBy?_written e.1 (filled e he),
    Option.getD_some]

/-! ## the fonts of a tree -/

/-- what is known of the fonts of some uses: each family has the weights in which it is used, in
ascending order and none twice -/
structure Sorted (d : Dict (List Nat)) (uses : List (String × Nat)) : Prop where
  mem : ∀ family w, (∃ ws, d.get? family = some ws ∧ w ∈ ws) ↔ (family, w) ∈ uses
  ascending : ∀ family ws, d.get? family = some ws → ws ≠ [] ∧ ws.Pairwise (· < ·)

theorem mem_insertWeight {w x : Nat} {ws : List Nat} :
    x ∈ insertWeight w ws ↔ x = w ∨ x ∈ ws := by
  induction ws with
  | nil => simp [insertWeight]
  | cons v vs ih =>
    unfold insertWeight
    split
    · exact List.mem_cons
    split
    · next same =>
      rw [same, List.mem_cons, ← or_assoc, or_self]
    · rw [List.mem_cons, ih, List.mem_cons, or_left_comm]

theorem ascending_insertWeight {w : Nat} {ws : List Nat} (h : ws.Pairwise (· < ·)) :
    (insertWeight w ws).Pairwise (· < ·) := by
  induction ws with
  | nil => exact List.pairwise_singleton ..
  | cons v vs ih =>
    obtain ⟨above, rest⟩ := List.pairwise_cons.mp h
    unfold insertWeight
    split
    · next less =>
      refine List.pairwise_cons.mpr ⟨List.forall_mem_cons.mpr ⟨less, fun x hx => ?_⟩, h⟩
      exact Nat.lt_trans less (above x hx)
    split
    · exact h
    · next noLess other =>
      refine List.pairwise_cons.mpr ⟨fun x hx => ?_, ih rest⟩
      rcases mem_insertWeight.mp hx with rfl | hx
      · omega
      · exact above x hx

theorem sorted_empty : Sorted ∅ [] := ⟨by simp, by simp⟩

/-- one more use -/
theorem Sorted.add {d : Dict (List Nat)} {uses : List (String × Nat)} (h : Sorted d uses)
    (e : String × Nat) :
    Sorted (d.set e.1 (insertWeight e.2 ((d.get? e.1).getD []))) (uses ++ [e]) := by
  have before (w : Nat) : w ∈ (d.get? e.1).getD [] ↔ (e.1, w) ∈ uses := by
    rw [← h.mem e.1 w]
    cases d.get? e.1 <;> simp
  constructor
  · intro family w
    rw [Dict.get?_set, List.mem_append, List.mem_singleton]
    by_cases own : family = e.1
    · subst own
      simp only [if_pos, Option.some.injEq, exists_eq_left', mem_insertWeight, before]
      rw [or_comm, Prod.ext_iff]
      simp
    · have other : (family, w) ≠ e := fun same => own (congrArg Prod.fst same)
      simp only [own, other, if_false, or_false, h.mem]
  · intro family ws found
    rw [Dict.get?_set] at found
    split at found
    · obtain rfl := Option.some.inj found
      refine ⟨List.ne_nil_of_mem (mem_insertWeight.mpr (.inl rfl)), ascending_insertWeight ?_⟩
      cases old : d.get? e.1 with
      | none => exact .nil
      | some ws => exact (h.ascending e.1 ws old).2
    · exact h.ascending family ws found

theorem sorted_fonts (root : StyledNode) : Sorted (fonts root) (root.preOrder.filterMap use?) := by
  have all (es : List (String × Nat)) : ∀ d uses, Sorted d uses → Sorted (es.foldl
      (fun d e => d.set e.1 (insertWeight e.2 ((d.get? e.1).getD []))) d) (uses ++ es) := by
    induction es with
    | nil => exact fun d uses h => by rwa [List.append_nil]
    | cons e es ih =>
      intro d uses h
      have rest := ih _ _ (h.add e)
      rwa [List.append_assoc] at rest
  exact all _ ∅ [] sorted_empty

/-- the families of a tree with their weights, one by one -/
def pairs (root : StyledNode) : List (String × Nat) :=
  (fonts root).entries.flatMap fun e => e.2.map fun w => (e.1, w)

theorem mem_pairs {root : StyledNode} {e : String × Nat} :
    e ∈ pairs root ↔ ∃ m ∈ root.preOrder, use? m = some e := by
  obtain ⟨family, w⟩ := e
  rw [← List.mem_filterMap, ← (sorted_fonts root).mem family w, pairs, List.mem_flatMap]
  constructor
  · rintro ⟨⟨family', ws⟩, entry, h⟩
    obtain ⟨w', hw, same⟩ := List.mem_map.mp h
    obtain ⟨rfl, rfl⟩ := Prod.mk.inj same
    exact ⟨ws, Dict.mem_entries_iff.mp entry, hw⟩
  · rintro ⟨ws, found, hw⟩
    exact ⟨(family, ws), Dict.mem_entries_iff.mpr found, List.mem_map_of_mem hw⟩

theorem nodup_pairs (root : StyledNode) : (pairs root).Nodup := by
  refine List.nodup_flatMap.mpr ⟨fun e he => ?_, ?_⟩
  · have ascending := ((sorted_fonts root).ascending e.1 e.2 (Dict.mem_entries_iff.mp he)).2
    have once : e.2.Nodup := ascending.imp Nat.ne_of_lt
    exact once.map fun _ _ same => (Prod.mk.inj same).2
  · refine (List.pairwise_map.mp (fonts root).nodup).imp fun {d e} other => ?_
    refine List.disjoint_left.mpr fun x hx hx' => other ?_
    obtain ⟨_, -, rfl⟩ := List.mem_map.mp hx
    obtain ⟨_, -, same⟩ := List.mem_map.mp hx'
    exact (Prod.mk.inj same).1.symm

theorem entries_eq_nil_iff {root : StyledNode} :
    (fonts root).entries = [] ↔ ∀ m ∈ root.preOrder, use? m = none := by
  constructor
  · intro none m hm
    cases used : use? m with
    | none => rfl
    | some e =>
      have there : e ∈ pairs root := mem_pairs.mpr ⟨m, hm, used⟩
      rw [pairs, none] at there
      cases there
  · intro unused
    refine List.eq_nil_iff_forall_not_mem.mpr fun e he => ?_
    have filled := ((sorted_fonts root).ascending e.1 e.2 (Dict.mem_entries_iff.mp he)).1
    obtain ⟨w, hw⟩ := List.exists_mem_of_ne_nil e.2 filled
    have there : (e.1, w) ∈ pairs root := List.mem_flatMap.mpr ⟨e, he, List.mem_map_of_mem hw⟩
    obtain ⟨m, hm, used⟩ := mem_pairs.mp there
    rw [unused m hm] at used
    cases used

theorem stylesheetUrl?_eq (root : StyledNode) : stylesheetUrl? root
    = if (fonts root).entries = [] then none else some (addressOf (fonts root).entries) := by
  rw [stylesheetUrl?, Dict.isEmpty]
  cases (fonts root).entries <;> rfl

/-- **The address asks for the fonts of all nodes**, each of them once, and there is none where there
are no fonts. -/
theorem stylesheetUrl?_spec (root : StyledNode) :
    (stylesheetUrl? root = none ↔ ∀ m ∈ root.preOrder, use? m = none) ∧
    ∀ url, stylesheetUrl? root = some url → (requested url).Nodup ∧
      ∀ e, e ∈ requested url ↔ ∃ m ∈ root.preOrder, use? m = some e := by
  rw [stylesheetUrl?_eq, ← entries_eq_nil_iff]
  split
  · next empty => exact ⟨iff_of_true rfl empty, nofun⟩
  · next some =>
    refine ⟨iff_of_false nofun some, fun url h => ?_⟩
    obtain rfl := Option.some.inj h
    have filled : ∀ e ∈ (fonts root).entries, e.2 ≠ [] := fun e he =>
      ((sorted_fonts root).ascending e.1 e.2 (Dict.mem_entries_iff.mp he)).1
    have read : requested (addressOf (fonts root).entries) = pairs root :=
      requested_addressOf some filled
    rw [read]
    exact ⟨nodup_pairs root, fun e => mem_pairs⟩

/-- a font that is used is asked for -/
theorem exists_request {root m : StyledNode} {e : String × Nat} (hm : m ∈ root.preOrder)
    (used : use? m = some e) : ∃ url, stylesheetUrl? root = some url ∧ e ∈ requested url := by
  obtain ⟨none, pairs⟩ := stylesheetUrl?_spec root
  cases address : stylesheetUrl? root with
  | none =>
    rw [none.mp address m hm] at used
    cases used
  | some url => exact ⟨url, rfl, ((pairs url address).2 e).mpr ⟨m, hm, used⟩⟩

end Font

/-! ## styled trees -/

namespace Styling

/-- the family of a text is written by its typography, and nothing else writes one -/
theorem get?_nodeStyles_family (vs : Variables) (parent : ParentContext) (n : NodeData)
    (hasChildren : Bool) : (nodeStyles vs parent n hasChildren).get? "font-family"
      = (n.typeStyle?.bind TypeStyle.fontFamily).map StyleValue.text := by
  obtain ⟨ds, keyed, e⟩ := nodeStyles_eq vs parent n hasChildren
  have before := (((((keyed_general vs n).both (keyed_layout n parent hasChildren)).both
    (keyed_fills vs n)).both (keyed_strokes vs n)).both keyed).get?_write
      (show "font-family" ∉ _ by decide) ∅
  rw [e, write_append, write_append,
    (keyed_declareIf (List.mem_singleton_self "transform") _).get?_write (by decide), write_append,
    (keyed_shape n).get?_write (by decide)]
  obtain ⟨types, rest, text⟩ : ∃ types, Keyed typeKeys types ∧ typography n
      = declare? "font-family" (n.typeStyle?.bind TypeStyle.fontFamily) ++ types := by
    rcases typography_eq n with ⟨plain, none⟩ | ⟨style, types, found, text, rest⟩
    · exact ⟨[], keyed_nil, by rw [none, plain]; rfl⟩
    · exact ⟨types, rest, by rw [text, found]; rfl⟩
  rw [text, write_append, rest.get?_write (by decide), get?_write_declare?, before]
  cases n.typeStyle?.bind TypeStyle.fontFamily <;> rfl

section
variable {p : Policy} {design : DesignNode} {parent : ParentContext} {r : Float}
  {names : NameRegistry} {tree : StyledNode}

/-- the sources in a tree are well-formed like the design -/
theorem fits_source (proper : design.WellFormed)
    (h : (styleNode p parent r design names).1 = some tree) :
    ∀ m ∈ tree.preOrder, m.source.payload.fits m.source.kind = true := by
  intro m hm
  obtain ⟨d, hd, source⟩ := exists_shown h m hm
  have there : d.2 ∈ design.preOrder := by
    rw [← DesignNode.map_snd_located]
    exact List.mem_map_of_mem ((shown_sublist p design).subset hd)
  rw [← source]
  exact (proper d.2 there).fits

/-- the family of a node is that of its source -/
theorem get?_family (proper : design.WellFormed)
    (h : (styleNode p parent r design names).1 = some tree) : ∀ m ∈ tree.preOrder,
      m.styles.get? "font-family"
        = (m.source.typeStyle?.bind TypeStyle.fontFamily).map StyleValue.text := by
  intro m hm
  have inTree : m ∈ (styleNode p parent r design names).1.toList.flatMap StyledNode.preOrder := by
    rw [h]
    exact List.mem_append_left [] hm
  rw [get?_of_source (by decide)
    (fun parent n hasChildren _ => get?_nodeStyles_family p.variableTable parent n hasChildren)
    design parent r names m inTree]
  split
  · next group =>
    have noText : m.source.kind ≠ .text := by
      rw [show m.source.kind = .group from of_decide_eq_true group]
      decide
    rw [NodeData.typeStyle?_of_fits (fits_source proper h m hm) noText]
    rfl
  · rfl

/-- only texts have a font -/
theorem isText_of_use (proper : design.WellFormed)
    (h : (styleNode p parent r design names).1 = some tree) : ∀ m ∈ tree.preOrder, ∀ e,
      Font.use? m = some e → m.isText = true := by
  intro m hm e used
  by_contra noText
  have family := get?_family proper h m hm
  rw [NodeData.typeStyle?_of_fits (fits_source proper h m hm) (mt decide_eq_true noText)] at family
  have unused : Font.use? m = none := by
    rw [Font.use?, Styles.text?, family]
    rfl
  rw [unused] at used
  cases used

/-- where hidden nodes are dropped, all that are left are rendered -/
theorem isRendered_of_drop (drop : p.hidden = .drop)
    (h : (styleNode p parent r design names).1 = some tree) :
    ∀ m ∈ tree.preOrder, m.isRendered = true := by
  intro m hm
  obtain ⟨d, hd, source⟩ := exists_shown h m hm
  have kept := source ▸ kept_of_mem_shown hd
  rw [Policy.keeps, drop] at kept
  have visible : m.source.visible = true := by simpa using kept
  rw [StyledData.isRendered, StyledData.isVisible, visible, Bool.true_or]

end

end Styling

namespace Font

/-- the address asks for the fonts of the nodes that are rendered below rendered ones, and for no
others -/
structure AsksForRendered (tree : StyledNode) : Prop where
  pairs : ∀ url, stylesheetUrl? tree = some url → ∀ e,
    e ∈ requested url ↔ ∃ m ∈ tree.rendered, use? m = some e
  none : stylesheetUrl? tree = none ↔ ∀ m ∈ tree.rendered, use? m = none

theorem asksForRendered_iff {tree : StyledNode} : AsksForRendered tree ↔
    ∀ m ∈ tree.preOrder, ∀ e, use? m = some e → ∃ m' ∈ tree.rendered, use? m' = some e := by
  obtain ⟨none, pairs⟩ := stylesheetUrl?_spec tree
  have part := (StyledNode.rendered_sublist tree).subset
  constructor
  · intro h m hm e used
    obtain ⟨url, address, asked⟩ := exists_request hm used
    exact (h.pairs url address e).mp asked
  · intro shared
    constructor
    · intro url address e
      rw [(pairs url address).2 e]
      constructor
      · rintro ⟨m, hm, used⟩
        exact shared m hm e used
      · rintro ⟨m, hm, used⟩
        exact ⟨m, part hm, used⟩
    · rw [none]
      refine ⟨fun unused m hm => unused m (part hm), fun unused m hm => ?_⟩
      cases used : use? m with
      | none => rfl
      | some e =>
        obtain ⟨m', hm', used'⟩ := shared m hm e used
        rw [unused m' hm'] at used'
        cases used'

/-- **What the address of the fonts asks for.**  In a tree that is styled from a well-formed design
only texts have fonts.  There is no address where no text has one; otherwise it asks for the family
and the weight of each text of the tree, and for nothing else, each of them once.  Texts that are not
rendered count like all others, so the fonts are those of the rendered texts only if these have all of
them; and they do where hidden nodes are dropped. -/
theorem fonts_requested {p : Policy} {design : DesignNode} (proper : design.WellFormed)
    {parent : ParentContext} {r : Float} {names : NameRegistry} {tree : StyledNode}
    (h : (Styling.styleNode p parent r design names).1 = some tree) :
    (∀ m ∈ tree.preOrder, ∀ e, use? m = some e → m.isText = true) ∧
    (stylesheetUrl? tree = none ↔ ∀ m ∈ tree.preOrder, use? m = none) ∧
    (∀ url, stylesheetUrl? tree = some url → (requested url).Nodup ∧
      ∀ e, e ∈ requested url ↔ ∃ m ∈ tree.preOrder, use? m = some e) ∧
    (AsksForRendered tree ↔ ∀ m ∈ tree.preOrder, ∀ e,
      use? m = some e → ∃ m' ∈ tree.rendered, use? m' = some e) ∧
    (p.hidden = .drop → AsksForRendered tree) := by
  obtain ⟨none, pairs⟩ := stylesheetUrl?_spec tree
  refine ⟨Styling.isText_of_use proper h, none, pairs, asksForRendered_iff, fun drop => ?_⟩
  refine asksForRendered_iff.mpr fun m hm e used => ⟨m, ?_, used⟩
  rwa [StyledNode.rendered_eq_preOrder (Styling.isRendered_of_drop drop h)]

/-- a card with a title and a hidden text, in both modes -/
theorem fonts_requested_card :
    let title : DesignNode := ⟨{
      id := "2", name := "Title", kind := .text
      payload := .text "Hello" { fontFamily := some "Inter", fontWeight := some 700.0 } {} }, []⟩
    let note : DesignNode := ⟨{
      id := "3", name := "Note", kind := .text, visible := false
      payload := .text "Bye" { fontFamily := some "Lato, Arial" } {} }, []⟩
    let card : DesignNode := ⟨{
      id := "1", name := "Card", kind := .frame, payload := .container {} }, [title, note]⟩
    ∀ hidden, let p : Policy := { hidden }
      ∃ tree, (Styling.styleNode p {} 0.0 card ∅).1 = some tree ∧
        (∀ m ∈ tree.preOrder, ∀ e, use? m = some e → m.isText = true) ∧
        (stylesheetUrl? tree = none ↔ ∀ m ∈ tree.preOrder, use? m = none) ∧
        (∀ url, stylesheetUrl? tree = some url → (requested url).Nodup ∧
          ∀ e, e ∈ requested url ↔ ∃ m ∈ tree.preOrder, use? m = some e) ∧
        (AsksForRendered tree ↔ ∀ m ∈ tree.preOrder, ∀ e,
          use? m = some e → ∃ m' ∈ tree.rendered, use? m' = some e) ∧
        (p.hidden = .drop → AsksForRendered tree) := by
  intro title note card hidden p
  have some : (Styling.styleNode p {} 0.0 card ∅).1.isSome = true := by
    cases hidden <;> decide
  obtain ⟨tree, h⟩ := Option.isSome_iff_exists.mp some
  exact ⟨tree, h, fonts_requested (by decide : card.WellFormed) h⟩

/-- a hidden title: nothing that is rendered has a font, and its font is asked for -/
theorem font_of_hidden_title :
    let title : DesignNode := ⟨{
      id := "2", name := "Title", kind := .text, visible := false
      payload := .text "Hi" { fontFamily := some "Inter", fontWeight := some 700.0 } {} }, []⟩
    let card : DesignNode := ⟨{
      id := "1", name := "Card", kind := .frame, payload := .container {} }, [title]⟩
    let p : Policy := { hidden := .preserve }
    ∃ tree, (Styling.styleNode p {} 0.0 card ∅).1 = some tree ∧
      (∀ m ∈ tree.rendered, use? m = none) ∧
      ∃ url, stylesheetUrl? tree = some url ∧ ∃ weight, ("Inter", weight) ∈ requested url := by
  intro title card p
  have styled : (Styling.styleNode p {} 0.0 card ∅).1.map (fun tree =>
      (tree.rendered.map fun m => m.isText,
        tree.preOrder.map fun m => m.source.typeStyle?.bind TypeStyle.fontFamily))
      = some ([false], [none, some "Inter"]) := by
    decide
  obtain ⟨tree, h, facts⟩ := Option.map_eq_some_iff.mp styled
  obtain ⟨texts, families⟩ := Prod.mk.inj facts
  have proper : card.WellFormed := by decide
  refine ⟨tree, h, fun m hm => ?_, ?_⟩
  · -- no text is rendered, so nothing that is rendered has a font
    refine Option.eq_none_iff_forall_ne_some.mpr fun e used => ?_
    have text := Styling.isText_of_use proper h m ((StyledNode.rendered_sublist tree).subset hm) e used
    have there : true ∈ tree.rendered.map fun m => m.isText := text ▸ List.mem_map_of_mem hm
    rw [texts] at there
    exact absurd there (by decide)
  · have there : some "Inter" ∈ tree.preOrder.map fun m =>
        m.source.typeStyle?.bind TypeStyle.fontFamily := by
      rw [families]
      exact List.mem_cons_of_mem _ List.mem_cons_self
    obtain ⟨m, hm, family⟩ := List.mem_map.mp there
    have used : use? m = some ("Inter", weightOf m.styles) := by
      have written := Styling.get?_family proper h m hm
      have first : firstFamily "Inter" = "Inter" := by decide
      rw [use?, Styles.text?, written, family]
      dsimp only [Option.map_some, StyleValue.show]
      rw [first]
      rfl
    obtain ⟨url, address, asked⟩ := exists_request hm used
    exact ⟨url, address, weightOf m.styles, asked⟩

end Font
end Handoff
