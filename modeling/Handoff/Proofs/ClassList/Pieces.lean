import Handoff.ClassList.Basic
import Handoff.Proofs.Text.Balanced

/-!
# The classes of a text

A class list is cut at blanks, but not inside of square brackets.  So a class begins as a word does,
and a class in which the blanks stand in brackets is found again in the text of them all.

Brackets need not be balanced: some may never be closed, and others never have been open.  But the
depth is zero where a class ends, unless the text ends there too, so that depths are the same from
the beginning of the text on and from the beginning of the class.

* `Tight`, `pieces_tight`   without blanks at depth zero a text stays together;
* `exists_word_of_mem_split`   a class of some words begins with one of them;
* `prefix_of_split`, `eq_of_split`   how the only class of a text begins;
* `Whole`, `split_joinWith`    classes that stay in one piece;
* `split_of_free`          without square brackets the classes are the words;
* `Cut`, `cut_iff`         a text and the classes in which it can be cut;
* `split_classes`          what the classes of a text are.
-/

namespace Handoff.ClassList

/-! ## texts that stay together -/

theorem pieces_ne_nil (depth : Nat) (cs : List Char) : pieces depth cs ≠ [] := by
  cases cs with
  | nil => exact List.cons_ne_nil _ _
  | cons c cs =>
    unfold pieces
    split
    · exact List.cons_ne_nil _ _
    · cases pieces (depthAfter depth c) cs <;> exact List.cons_ne_nil _ _

/-- the depth in front of a character -/
def depthAt (depth : Nat) (cs : List Char) (i : Nat) : Nat := (cs.take i).foldl depthAfter depth

/-- a text in which no blank is at depth zero -/
def Tight (depth : Nat) (w : List Char) : Prop :=
  ∀ i c, w[i]? = some c → Chars.isBlank c = true → depthAt depth w i ≠ 0

theorem tight_nil (depth : Nat) : Tight depth [] := nofun

theorem tight_cons {depth : Nat} {c : Char} {w : List Char} : Tight depth (c :: w) ↔
    (Chars.isBlank c = true → depth ≠ 0) ∧ Tight (depthAfter depth c) w := by
  constructor
  · exact fun h => ⟨h 0 c rfl, fun i => h (i + 1)⟩
  · rintro ⟨first, later⟩ i d hd
    cases i with
    | zero =>
      obtain rfl : c = d := Option.some.inj hd
      exact first
    | succ i => exact later i d hd

theorem tight_of_solid {w : List Char} (hw : ∀ c ∈ w, Chars.isBlank c = false) (depth : Nat) :
    Tight depth w := by
  intro i c hc blank
  rw [hw c (List.mem_of_getElem? hc)] at blank
  cases blank

/-- a text in which no blank is at depth zero stays in front of the first piece -/
theorem pieces_tight {w : List Char} {depth : Nat} (tight : Tight depth w) (cs : List Char) :
    pieces depth (w ++ cs)
      = (pieces (w.foldl depthAfter depth) cs).modifyHead fun p => w ++ p := by
  induction w generalizing depth with
  | nil =>
    rw [List.nil_append, List.foldl_nil]
    cases pieces depth cs <;> rfl
  | cons c w ih =>
    obtain ⟨first, tight⟩ := tight_cons.mp tight
    obtain ⟨p, ps, e⟩ :=
      List.exists_cons_of_ne_nil (pieces_ne_nil ((c :: w).foldl depthAfter depth) cs)
    have stays : ¬ (Chars.isBlank c = true ∧ depth = 0) := fun gap => first gap.1 gap.2
    rw [List.foldl_cons] at e
    rw [List.cons_append, pieces, if_neg stays, ih tight, List.foldl_cons, e]
    rfl

/-- characters that are no blanks stay in front of the first piece -/
theorem pieces_front {w : List Char} (hw : ∀ c ∈ w, Chars.isBlank c = false) (cs : List Char)
    (depth : Nat) : pieces depth (w ++ cs) =
      (pieces (w.foldl depthAfter depth) cs).modifyHead fun p => w ++ p :=
  pieces_tight (tight_of_solid hw depth) cs

/-! ## classes of words -/

theorem pieces_append {w : List Char} (hw : ∀ c ∈ w, Chars.isBlank c = false) (cs : List Char)
    (depth : Nat) : ∃ depth' p ps,
      pieces depth' cs = p :: ps ∧ pieces depth (w ++ cs) = (w ++ p) :: ps := by
  obtain ⟨p, ps, e⟩ := List.exists_cons_of_ne_nil (pieces_ne_nil (w.foldl depthAfter depth) cs)
  refine ⟨_, p, ps, e, ?_⟩
  rw [pieces_front hw, e]
  rfl

/-- the first of the pieces of some words begins with the first word, the others with any -/
theorem pieces_joinWith {ws : List (List Char)}
    (solid : ∀ w ∈ ws, ∀ c ∈ w, Chars.isBlank c = false) :
    ∀ depth, ∃ p ps, pieces depth (Chars.joinWith [' '] ws) = p :: ps ∧
      (ws = [] → p = []) ∧ (∀ w ∈ ws.head?, w <+: p) ∧ ∀ q ∈ ps, ∃ w ∈ ws, w <+: q := by
  induction ws with
  | nil => exact fun depth => ⟨[], [], rfl, fun _ => rfl, nofun, List.forall_mem_nil _⟩
  | cons w ws ih =>
    intro depth
    obtain ⟨hw, solid⟩ := List.forall_mem_cons.mp solid
    have begins {p p' : List Char} (e : p = w ++ p') : ∀ v ∈ (w :: ws).head?, v <+: p := by
      intro v hv
      obtain rfl : w = v := Option.some.inj hv
      exact ⟨p', e.symm⟩
    cases ws with
    | nil =>
      obtain ⟨depth', p, ps, rest, e⟩ := pieces_append hw [] depth
      obtain ⟨rfl, rfl⟩ := List.cons.inj rest
      rw [List.append_nil w] at e
      exact ⟨w, [], e, nofun, begins (List.append_nil w).symm, List.forall_mem_nil _⟩
    | cons v ws =>
      obtain ⟨depth', p, ps, rest, e⟩ :=
        pieces_append hw (' ' :: Chars.joinWith [' '] (v :: ws)) depth
      have text : Chars.joinWith [' '] (w :: v :: ws)
          = w ++ ' ' :: Chars.joinWith [' '] (v :: ws) := by simp [Chars.joinWith]
      rw [text, e]
      refine ⟨w ++ p, ps, rfl, fun e => absurd e (List.cons_ne_nil _ _), begins rfl, ?_⟩
      obtain ⟨q, qs, inner, -, first, later⟩ := ih solid (depthAfter depth' ' ')
      have below : ∀ q ∈ qs, ∃ x ∈ w :: v :: ws, x <+: q := fun q hq => by
        obtain ⟨x, hx, prefix'⟩ := later q hq
        exact ⟨x, List.mem_cons_of_mem w hx, prefix'⟩
      -- the blank ends a piece unless it stands in brackets
      have same : depthAfter depth' ' ' = depth' := rfl
      rw [same] at inner
      rw [pieces, same, inner] at rest
      split at rest
      · obtain ⟨-, rfl⟩ := List.cons.inj rest
        exact List.forall_mem_cons.mpr ⟨⟨v, by simp, first v rfl⟩, below⟩
      · obtain ⟨-, rfl⟩ := List.cons.inj rest
        exact below

/-- a class of some words begins with one of them -/
theorem exists_word_of_mem_split {words : List String} (solid : ∀ w ∈ words, Solid w) {cls : String}
    (h : cls ∈ split (Text.joinWith " " words)) : ∃ w ∈ words, w.toList <+: cls.toList := by
  obtain ⟨piece, hpiece, rfl⟩ := List.mem_map.mp h
  obtain ⟨hpiece, filled⟩ := List.mem_filter.mp hpiece
  have blankless : ∀ w ∈ words.map String.toList, ∀ c ∈ w, Chars.isBlank c = false :=
    List.forall_mem_map.mpr solid
  obtain ⟨p, ps, e, none, first, later⟩ := pieces_joinWith blankless 0
  rw [Text.joinWith, String.toList_ofList, show " ".toList = [' '] from rfl, e] at hpiece
  rw [String.toList_ofList]
  have word {w : List Char} (hw : w ∈ words.map String.toList) (begins : w <+: piece) :
      ∃ w ∈ words, w.toList <+: piece := by
    obtain ⟨s, hs, rfl⟩ := List.mem_map.mp hw
    exact ⟨s, hs, begins⟩
  rcases List.mem_cons.mp hpiece with rfl | hpiece
  · cases ws : words.map String.toList with
    | nil => rw [none ws] at filled; cases filled
    | cons w _ =>
      rw [ws] at first
      exact word (ws ▸ List.mem_cons_self) (first w rfl)
  · obtain ⟨w, hw, begins⟩ := later piece hpiece
    exact word hw begins

/-- characters that are no blanks stay together in front of the first class -/
theorem exists_split_append {a : String} (solid : Solid a) (filled : a ≠ "") (b : String) :
    ∃ rest others, split (a ++ b) = (a ++ rest) :: others ∧ (b = "" → rest = "" ∧ others = []) := by
  obtain ⟨depth, p, ps, cut, e⟩ := pieces_append solid b.toList 0
  have kept : ((a.toList ++ p) :: ps).filter (fun p => !p.isEmpty)
      = (a.toList ++ p) :: ps.filter fun p => !p.isEmpty :=
    List.filter_cons_of_pos (by simp [filled])
  refine ⟨String.ofList p, (ps.filter fun p => !p.isEmpty).map String.ofList, ?_, ?_⟩
  · rw [split, splitChars, String.toList_append, e, kept, List.map_cons,
      String.ofList_append, String.ofList_toList]
  · rintro rfl
    obtain ⟨rfl, rfl⟩ := List.cons.inj cut
    exact ⟨rfl, rfl⟩

theorem prefix_of_split {a text c : String} (solid : Solid a) (filled : a ≠ "")
    (begins : a.toList <+: text.toList) (one : split text = [c]) : a.toList <+: c.toList := by
  obtain ⟨cs, e⟩ := begins
  obtain ⟨rest, others, cut, -⟩ := exists_split_append solid filled (String.ofList cs)
  have text' : a ++ String.ofList cs = text := String.toList_inj.mp (by simp [e])
  rw [text', one] at cut
  rw [(List.cons.inj cut).1, String.toList_append]
  exact List.prefix_append _ _

theorem eq_of_split {text c : String} (solid : Solid text) (one : split text = [c]) : c = text := by
  by_cases empty : text = ""
  · rw [empty] at one
    exact nomatch one
  · obtain ⟨rest, others, cut, whole⟩ := exists_split_append solid empty ""
    obtain ⟨rfl, rfl⟩ := whole rfl
    rw [String.append_empty, one] at cut
    exact (List.cons.inj cut).1

/-! ## classes in one piece -/

/-- a text that stays in one piece, whatever follows it -/
def Whole (w : String) : Prop :=
  ∀ cs, pieces 0 (w.toList ++ cs) = (pieces 0 cs).modifyHead fun p => w.toList ++ p

theorem Whole.append {v w : String} (hv : Whole v) (hw : Whole w) : Whole (v ++ w) := by
  intro cs
  rw [String.toList_append, List.append_assoc, hv, hw, List.modifyHead_modifyHead]
  exact congrArg (List.modifyHead · _) (funext fun p => (List.append_assoc ..).symm)

/-- as long as no bracket is closed that was not open, depths are counted alike -/
theorem foldl_depthAfter {cs : List Char} {depth depth' : Nat}
    (h : Bracket.square.depth? depth cs = some depth') : cs.foldl depthAfter depth = depth' := by
  induction cs generalizing depth with
  | nil => exact Option.some.inj h
  | cons c cs ih =>
    rw [Bracket.depth?, Bracket.opening, Bracket.closing] at h
    rw [List.foldl_cons, depthAfter]
    split at h
    · next opens => rw [if_pos opens]; exact ih h
    split at h
    · next other closes =>
      split at h
      · cases h
      · rw [if_neg other, if_pos closes]
        exact ih h
    · next other other' => rw [if_neg other, if_neg other']; exact ih h

theorem whole_of_neat {w : String} (solid : Solid w) (square : Balanced .square w) : Whole w := by
  intro cs
  rw [pieces_front solid, foldl_depthAfter square]

theorem depthAfter_of_not_mark {c : Char} (h : Bracket.square.isMark c = false) (depth : Nat) :
    depthAfter depth c = depth := by
  rw [Bracket.isMark, Bool.or_eq_false_iff, beq_eq_false_iff_ne, beq_eq_false_iff_ne] at h
  rw [depthAfter]
  exact (if_neg h.1).trans (if_neg h.2)

/-- inside of brackets a text is in one piece -/
theorem pieces_inside {w : List Char} (flat : ∀ c ∈ w, Bracket.square.isMark c = false)
    (depth : Nat) (cs : List Char) : pieces (depth + 1) (w ++ cs) =
      (pieces (depth + 1) cs).modifyHead fun p => w ++ p := by
  have level {v : List Char} (flat : ∀ c ∈ v, Bracket.square.isMark c = false) :
      v.foldl depthAfter (depth + 1) = depth + 1 :=
    List.foldlRecOn (motive := (· = depth + 1)) v depthAfter rfl fun d hd c hc => by
      rw [depthAfter_of_not_mark (flat c hc), hd]
  have tight : Tight (depth + 1) w := by
    intro i c _ _
    rw [depthAt, level fun c hc => flat c (List.mem_of_mem_take hc)]
    exact Nat.succ_ne_zero depth
  rw [pieces_tight tight, level flat]

theorem whole_bracketed {w : String} (flat : Free .square w) : Whole ("[" ++ w ++ "]") := by
  intro cs
  obtain ⟨p, ps, e⟩ := List.exists_cons_of_ne_nil (pieces_ne_nil 0 cs)
  have text : ("[" ++ w ++ "]").toList ++ cs = '[' :: (w.toList ++ ']' :: cs) := by simp
  have closed : pieces 1 (']' :: cs) = (']' :: p) :: ps := by
    rw [pieces, if_neg fun h => Nat.one_ne_zero h.2]
    exact congrArg (consFirst ']') e
  have opened : pieces 0 ('[' :: (w.toList ++ ']' :: cs))
      = consFirst '[' (pieces 1 (w.toList ++ ']' :: cs)) :=
    if_neg fun h => absurd h.1 (by decide)
  rw [text, opened, pieces_inside flat, closed, e]
  simp [consFirst]

theorem pieces_words {ws : List String} (whole : ∀ w ∈ ws, Whole w) (filled : ws ≠ []) :
    pieces 0 (Chars.joinWith [' '] (ws.map String.toList)) = ws.map String.toList := by
  induction ws with
  | nil => exact absurd rfl filled
  | cons w ws ih =>
    obtain ⟨hw, whole⟩ := List.forall_mem_cons.mp whole
    cases ws with
    | nil =>
      have alone := hw []
      rw [List.append_nil] at alone
      rw [List.map_singleton, Chars.joinWith, alone]
      exact congrArg (fun cs => [cs]) (List.append_nil _)
    | cons v ws =>
      have text : Chars.joinWith [' '] ((w :: v :: ws).map String.toList)
          = w.toList ++ ' ' :: Chars.joinWith [' '] ((v :: ws).map String.toList) := by
        simp [Chars.joinWith]
      have blank (cs : List Char) : pieces 0 (' ' :: cs) = [] :: pieces 0 cs :=
        if_pos ⟨by decide, rfl⟩
      rw [text, hw, blank, ih whole (List.cons_ne_nil _ _), List.modifyHead_cons, List.append_nil]
      rfl

/-- classes in one piece each are found again in the text of them all -/
theorem split_joinWith {ws : List String} (whole : ∀ w ∈ ws, Whole w) :
    split (Text.joinWith " " ws) = ws.filter (· ≠ "") := by
  by_cases filled : ws = []
  · subst filled
    rfl
  have same : (fun w : List Char => !w.isEmpty) ∘ String.toList = fun w : String => decide (w ≠ "") := by
    funext w
    rw [Function.comp_apply, Bool.eq_iff_iff, Bool.not_eq_true', List.isEmpty_eq_false_iff,
      decide_eq_true_eq, Ne, Ne, String.toList_eq_nil_iff]
  rw [split, splitChars, Text.joinWith, String.toList_ofList]
  have pieces := pieces_words whole filled
  rw [show " ".toList = [' '] from rfl, pieces, List.filter_map, List.map_map, same]
  exact List.map_id'' (fun _ => String.ofList_toList) _

/-- without square brackets a text has its words for classes -/
theorem split_of_free {s : String} (flat : Free .square s) : split s = Text.words s := by
  have cut : ∀ cs : List Char, (∀ c ∈ cs, Bracket.square.isMark c = false) →
      pieces 0 cs = Chars.splitWhere Chars.isBlank cs := by
    intro cs
    induction cs with
    | nil => exact fun _ => rfl
    | cons c cs ih =>
      intro flat
      obtain ⟨hc, flat⟩ := List.forall_mem_cons.mp flat
      rw [pieces, Chars.splitWhere, depthAfter_of_not_mark hc, ih flat]
      simp only [and_true]
      split
      · rfl
      · cases Chars.splitWhere Chars.isBlank cs <;> rfl
  rw [split, splitChars, cut _ flat]
  rfl

theorem filled_of_mem_split {text c : String} (h : c ∈ split text) : c ≠ "" := by
  obtain ⟨cs, hcs, rfl⟩ := List.mem_map.mp h
  have filled := (List.mem_filter.mp hcs).2
  rintro empty
  rw [String.ofList_eq_empty_iff] at empty
  rw [empty] at filled
  cases filled

/-! ## texts and their classes -/

/-- the characters of a text without the blanks at depth zero, in their order -/
def kept (depth : Nat) (cs : List Char) : List Char :=
  (cs.zipIdx.filter fun e => !(Chars.isBlank e.1 && depthAt depth cs e.2 == 0)).map Prod.fst

theorem kept_cons (depth : Nat) (c : Char) (cs : List Char) : kept depth (c :: cs)
    = (if Chars.isBlank c && depth == 0 then [] else [c]) ++ kept (depthAfter depth c) cs := by
  have later : ((cs.zipIdx 1).filter fun e =>
        !(Chars.isBlank e.1 && depthAt depth (c :: cs) e.2 == 0)).map Prod.fst
      = kept (depthAfter depth c) cs := by
    rw [List.zipIdx_succ, List.filter_map, List.map_map]
    rfl
  have first : depthAt depth (c :: cs) 0 = depth := rfl
  rw [← later, kept, List.zipIdx_cons, List.filter_cons, first]
  cases Chars.isBlank c && depth == 0 <;> rfl

theorem kept_append (depth : Nat) (v w : List Char) :
    kept depth (v ++ w) = kept depth v ++ kept (v.foldl depthAfter depth) w := by
  induction v generalizing depth with
  | nil => rfl
  | cons c v ih => rw [List.cons_append, kept_cons, ih, kept_cons, List.append_assoc]; rfl

theorem kept_of_tight {depth : Nat} {w : List Char} (tight : Tight depth w) : kept depth w = w := by
  induction w generalizing depth with
  | nil => rfl
  | cons c w ih =>
    obtain ⟨first, tight⟩ := tight_cons.mp tight
    have stays : (Chars.isBlank c && depth == 0) = false := by
      rw [Bool.and_eq_false_imp]
      exact fun blank => beq_eq_false_iff_ne.mpr (first blank)
    rw [kept_cons, ih tight, stays]
    rfl

/-- a blank is no bracket -/
theorem depthAfter_of_isBlank {c : Char} (blank : Chars.isBlank c = true) (depth : Nat) :
    depthAfter depth c = depth := by
  have other (mark : Char) (solid : Chars.isBlank mark = false) : c ≠ mark := by
    rintro rfl
    rw [blank] at solid
    cases solid
  rw [depthAfter, if_neg (other '[' (by decide)), if_neg (other ']' (by decide))]

theorem kept_blank {c : Char} (blank : Chars.isBlank c = true) (cs : List Char) :
    kept 0 (c :: cs) = kept 0 cs := by
  rw [kept_cons, depthAfter_of_isBlank blank, blank]
  rfl

/-- a text and its classes: there are blanks between them, and more of them may stand anywhere
between them, in front of the first and behind the last; where a class ends with the text its brackets
may be open -/
inductive Cut : List Char → List (List Char) → Prop
  | nil : Cut [] []
  | last {w : List Char} (filled : w ≠ []) (tight : Tight 0 w) : Cut w [w]
  | blank {c : Char} {cs : List Char} {ws : List (List Char)} (blank : Chars.isBlank c = true)
      (rest : Cut cs ws) : Cut (c :: cs) ws
  | word {w : List Char} {c : Char} {cs : List Char} {ws : List (List Char)} (filled : w ≠ [])
      (tight : Tight 0 w) (closed : w.foldl depthAfter 0 = 0) (blank : Chars.isBlank c = true)
      (rest : Cut cs ws) : Cut (w ++ c :: cs) (w :: ws)

/-- a text has no blank at depth zero, or there is a first one -/
theorem tight_or_gap (cs : List Char) : ∀ depth, Tight depth cs ∨ ∃ w c rest,
    cs = w ++ c :: rest ∧ Tight depth w ∧ w.foldl depthAfter depth = 0 ∧ Chars.isBlank c = true := by
  induction cs with
  | nil => exact fun depth => .inl (tight_nil depth)
  | cons c cs ih =>
    intro depth
    by_cases gap : Chars.isBlank c = true ∧ depth = 0
    · exact .inr ⟨[], c, cs, rfl, tight_nil depth, gap.2, gap.1⟩
    · have first (blank : Chars.isBlank c = true) : depth ≠ 0 := fun zero => gap ⟨blank, zero⟩
      rcases ih (depthAfter depth c) with tight | ⟨w, d, rest, rfl, tight, closed, blank⟩
      · exact .inl (tight_cons.mpr ⟨first, tight⟩)
      · exact .inr ⟨c :: w, d, rest, rfl, tight_cons.mpr ⟨first, tight⟩, closed, blank⟩

theorem splitChars_blank {c : Char} (blank : Chars.isBlank c = true) (cs : List Char) :
    splitChars (c :: cs) = splitChars cs := by
  rw [splitChars, pieces, if_pos ⟨blank, rfl⟩]
  rfl

theorem splitChars_word {w : List Char} (filled : w ≠ []) (tight : Tight 0 w)
    (closed : w.foldl depthAfter 0 = 0) {c : Char} (blank : Chars.isBlank c = true)
    (cs : List Char) : splitChars (w ++ c :: cs) = w :: splitChars cs := by
  rw [splitChars, pieces_tight tight, closed, pieces, if_pos ⟨blank, rfl⟩, List.modifyHead_cons,
    List.append_nil, List.filter_cons_of_pos (by simp [filled])]
  rfl

theorem splitChars_last {w : List Char} (filled : w ≠ []) (tight : Tight 0 w) :
    splitChars w = [w] := by
  have one := pieces_tight tight []
  rw [List.append_nil, pieces, List.modifyHead_cons, List.append_nil] at one
  rw [splitChars, one]
  exact List.filter_cons_of_pos (by simp [filled])

theorem cut_splitChars (cs : List Char) : Cut cs (splitChars cs) := by
  rcases tight_or_gap cs 0 with tight | ⟨w, c, rest, rfl, tight, closed, blank⟩
  · by_cases empty : cs = []
    · rw [empty]
      exact .nil
    · rw [splitChars_last empty tight]
      exact .last empty tight
  · have shorter : rest.length < (w ++ c :: rest).length := by simp; omega
    have below := cut_splitChars rest
    by_cases empty : w = []
    · rw [empty, List.nil_append, splitChars_blank blank]
      exact .blank blank below
    · rw [splitChars_word empty tight closed blank]
      exact .word empty tight closed blank below
termination_by cs.length

/-- **The classes of a text are those in which it can be cut**, and no others. -/
theorem cut_iff {cs : List Char} {ws : List (List Char)} : Cut cs ws ↔ splitChars cs = ws := by
  refine ⟨fun cut => ?_, fun e => e ▸ cut_splitChars cs⟩
  induction cut with
  | nil => rfl
  | last filled tight => exact splitChars_last filled tight
  | blank blank _ ih => rw [splitChars_blank blank, ih]
  | word filled tight closed blank _ ih => rw [splitChars_word filled tight closed blank, ih]

namespace Cut
variable {cs : List Char} {ws : List (List Char)}

theorem tight (cut : Cut cs ws) : ∀ w ∈ ws, w ≠ [] ∧ Tight 0 w := by
  induction cut with
  | nil => exact List.forall_mem_nil _
  | last filled tight => exact List.forall_mem_singleton.mpr ⟨filled, tight⟩
  | blank _ _ ih => exact ih
  | word filled tight _ _ _ ih => exact List.forall_mem_cons.mpr ⟨⟨filled, tight⟩, ih⟩

theorem flatten_eq_kept (cut : Cut cs ws) : ws.flatten = kept 0 cs := by
  induction cut with
  | nil => rfl
  | last _ tight => rw [kept_of_tight tight, List.flatten_singleton]
  | blank blank _ ih => rw [ih, kept_blank blank]
  | word _ tight closed blank _ ih =>
    rw [kept_append, kept_of_tight tight, closed, kept_blank blank, List.flatten_cons, ih]

/-- a blank between the classes is enough -/
theorem joinWith (cut : Cut cs ws) : Cut (Chars.joinWith [' '] ws) ws := by
  induction cut with
  | nil => exact .nil
  | last filled tight => exact .last filled tight
  | blank _ _ ih => exact ih
  | @word w c cs ws filled tight closed _ _ ih =>
    cases ws with
    | nil => exact .last filled tight
    | cons v ws =>
      have text : Chars.joinWith [' '] (w :: v :: ws)
          = w ++ ' ' :: Chars.joinWith [' '] (v :: ws) := by simp [Chars.joinWith]
      rw [text]
      exact .word filled tight closed (by decide) ih

end Cut

/-- **What the classes of a text are.**  Each of them is there, and its blanks are in brackets; one
after the other they are the text without the blanks at depth zero; and they are found again in the
text that they make with a blank between them.  Brackets need not be balanced for that. -/
theorem split_classes (s : String) :
    (∀ w ∈ split s, w ≠ "" ∧ Tight 0 w.toList) ∧
    (split s).flatMap String.toList = kept 0 s.toList ∧
    split (Text.joinWith " " (split s)) = split s := by
  have cut := cut_splitChars s.toList
  have chars : (split s).map String.toList = splitChars s.toList := by
    rw [split, List.map_map]
    exact List.map_id'' (fun _ => String.toList_ofList) _
  refine ⟨fun w hw => ?_, ?_, ?_⟩
  · obtain ⟨filled, tight⟩ := cut.tight w.toList (chars ▸ List.mem_map_of_mem hw)
    exact ⟨fun empty => filled (by rw [empty]; rfl), tight⟩
  · rw [List.flatMap, chars, cut.flatten_eq_kept]
  · have again : splitChars (Chars.joinWith [' '] (splitChars s.toList)) = splitChars s.toList :=
      cut_iff.mp cut.joinWith
    rw [Text.joinWith, chars, split, String.toList_ofList]
    exact congrArg (List.map String.ofList) again

/-- a bracket too many is a class like any other, and one that stays open holds the rest -/
example : split "] a  [b c" = ["]", "a", "[b c"] := by decide

end Handoff.ClassList
