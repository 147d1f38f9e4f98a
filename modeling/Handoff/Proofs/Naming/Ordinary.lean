import Handoff.Proofs.Naming.Kebab
import Handoff.Proofs.Naming.Properties
import Handoff.Proofs.Naming.Spelled
import Handoff.Proofs.Text.Unquoted
import Handoff.Text.Escape
import Handoff.Variables

/-!
# Names that mean nothing to a reader

Names that generated code is written with have letters, digits, dashes and underscores only, whatever
the text that they are made from.  The same goes for addresses that hold a document.

* `ordinary_kebab`            class names;
* `ordinary_freshVariable`    the names of imports;
* `ordinary_customProperty`   custom properties;
* `ordinary_svgUrl`           the addresses of drawings.
-/

namespace Handoff
open Enclosure

theorem isOrdinary_of_kebab {c : Char} (h : Naming.IsKebab c) : IsOrdinary c := by
  rcases h with rfl | lower | digit
  · decide
  · exact isOrdinary_of_alnum (Chars.isAsciiAlnum_of_lower lower)
  · exact isOrdinary_of_alnum (Chars.isAsciiAlnum_of_digit digit)

theorem ordinary_onChars {f : List Char → List Char} {s : String}
    (h : ∀ c ∈ f s.toList, IsOrdinary c) : Ordinary (Text.onChars f s) := by
  rwa [Ordinary, Text.toList_onChars]

namespace Naming

theorem ordinary_kebab (name : String) : Ordinary (kebab name) :=
  ordinary_onChars fun c hc => isOrdinary_of_kebab (mem_kebabChars c hc)

/-! ## imports -/

theorem ordinary_freshVariable (used : List String) (name : String) :
    Ordinary (freshVariable used name) :=
  fun c hc => isOrdinary_of_alnum
    ((givesNames_freshVariable.spelled used name).alnum (fun _ => Chars.isAsciiAlnum_of_lower) c hc)

end Naming

/-! ## custom properties -/

theorem isOrdinary_of_property {c : Char} (h : IsPropertyChar c) : IsOrdinary c := by
  rcases h with lower | digit | rfl | rfl
  · exact isOrdinary_of_alnum (Chars.isAsciiAlnum_of_lower lower)
  · exact isOrdinary_of_alnum (Chars.isAsciiAlnum_of_digit digit)
  · decide
  · decide

theorem ordinary_customProperty (vs : Variables) (id : String) :
    Ordinary (vs.customProperty id) :=
  fun c hc => isOrdinary_of_property (vs.isProperty_customProperty id c hc)

/-! ## addresses of drawings -/

theorem isOrdinary_base64Digit (n : Nat) : IsOrdinary (Escape.base64Digit n) := by
  have small : ∀ k < 64, IsOrdinary (Escape.base64Digit k) := by decide
  have same : Escape.base64Digit n = Escape.base64Digit (n % 64) := by
    unfold Escape.base64Digit
    rw [Nat.mod_mod]
  rw [same]
  exact small _ (Nat.mod_lt n (by decide))

theorem isOrdinary_of_mem_base64 (bytes : List Nat) : ∀ c ∈ Escape.base64 bytes, IsOrdinary c := by
  have filled : IsOrdinary '=' := by decide
  fun_induction Escape.base64 bytes with
  | case1 => exact List.forall_mem_nil _
  | case2 a => simp [isOrdinary_base64Digit, filled]
  | case3 a b => simp [isOrdinary_base64Digit, filled]
  | case4 a b c rest ih => simpa [isOrdinary_base64Digit] using ih

theorem ordinary_svgUrl (svg : String) : Ordinary (Escape.svgUrl svg) :=
  Ordinary.append (by decide) (ordinary_ofList (isOrdinary_of_mem_base64 _))

end Handoff
