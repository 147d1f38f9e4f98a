/-!
# Binary floating-point numbers, taken apart

A finite double is a sign, a natural `mantissa` and an `exponent`, of value
`± mantissa * 2 ^ exponent`.  Everything that writes a number starts from this view, so that
rounding is exact arithmetic on naturals.

* `twoTo`, `tenTo`    the scales of binary and decimal numbers; `twoTo bits` is also the first
                      natural number that a word of so many bits cannot hold;
* `Binary.ofFloat?`   the view of a double, `none` for infinities and NaN;
* `roundDiv`          division rounded to the nearest natural, ties to the even one.
-/

namespace Handoff.Decimal

/-! ## powers of two and of ten -/

/-- the product of `k` factors two -/
def twoTo (k : Nat) : Nat := Nat.pow 2 k

/-- the product of `k` factors ten -/
def tenTo (k : Nat) : Nat := Nat.pow 10 k

theorem twoTo_succ (k : Nat) : twoTo (k + 1) = twoTo k * 2 := rfl

theorem tenTo_succ (k : Nat) : tenTo (k + 1) = tenTo k * 10 := rfl

theorem twoTo_pos (k : Nat) : 0 < twoTo k := Nat.pow_pos (by decide)

theorem tenTo_pos (k : Nat) : 0 < tenTo k := Nat.pow_pos (by decide)

/-! ## doubles -/

structure Binary where
  negative : Bool
  mantissa : Nat
  exponent : Int
  /-- the gap to the next smaller double is half the gap to the next larger one -/
  narrowBelow : Bool
deriving Repr, DecidableEq

namespace Binary

def ofBits (bits : Nat) : Option Binary :=
  let field : Nat := bits / twoTo 52 % twoTo 11
  let fraction : Nat := bits % twoTo 52
  let negative := bits / twoTo 63 % 2 == 1
  if field = 2047 then none
  else if field = 0 then some ⟨negative, fraction, -1074, false⟩
  else some ⟨negative, twoTo 52 + fraction, (field : Int) - 1075, fraction == 0 && field != 1⟩

def ofFloat? (x : Float) : Option Binary := ofBits x.toBits.toNat

/-- the magnitude as a fraction `numerator / denominator` with a power of two below -/
def numerator (b : Binary) : Nat := b.mantissa * twoTo b.exponent.toNat

def denominator (b : Binary) : Nat := twoTo (-b.exponent).toNat

theorem denominator_pos (b : Binary) : 0 < b.denominator := twoTo_pos _

end Binary

/-- `num / den` rounded to the nearest natural; a tie goes to the even neighbour -/
def roundDiv (num den : Nat) : Nat :=
  let q := num / den
  let r := num % den
  if 2 * r < den then q else if den < 2 * r then q + 1 else q + q % 2

/-- the result is within half a unit of the quotient -/
theorem roundDiv_within (num den : Nat) (h : 0 < den) :
    2 * num ≤ 2 * (den * roundDiv num den) + den ∧
      2 * (den * roundDiv num den) ≤ 2 * num + den := by
  have e : den * (num / den) + num % den = num := Nat.div_add_mod num den
  have hr : num % den < den := Nat.mod_lt num h
  unfold roundDiv
  generalize num / den = q at *
  generalize num % den = r at *
  have succ : den * (q + 1) = den * q + den := Nat.mul_succ den q
  dsimp only
  split
  · omega
  · split
    · rw [succ]; omega
    · rcases Nat.mod_two_eq_zero_or_one q with h0 | h1
      · rw [h0, Nat.add_zero]; omega
      · rw [h1, succ]; omega

end Handoff.Decimal
