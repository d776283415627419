import IndexSync.Proofs.Dialogue
import IndexSync.World
import Mathlib.Algebra.Group.Nat.Defs

/-!
# Delays

A program that sleeps by itself turns its delay into a double first. An integer is beyond all
doubles if it rounds to a significand that needs one bit more than there is room for at the greatest
exponent.

* `Double.exponentOf_one` — the exponent of an integer is its bit length less the 53 bits of a
  significand;
* `Double.ofInt?_eq_none_iff` — the integers that are beyond all doubles;
* `World.wait_fails_iff` — the waits that fail.
-/

namespace IndexSync

namespace Decimal

theorem twoTo_eq (n : Nat) : twoTo n = 2 ^ n := rfl

theorem twoTo_pos (n : Nat) : 0 < twoTo n := Nat.two_pow_pos n

namespace Double

variable {n : Nat}

/-- Rounding takes a quotient to itself or to the next number. -/
theorem le_divNearest (num den : Nat) : num / den ≤ divNearest num den := by
  unfold divNearest
  dsimp only
  split
  · exact Nat.le_refl _
  · split
    · exact Nat.le_succ _
    · split
      · exact Nat.le_refl _
      · exact Nat.le_succ _

theorem divNearest_le_succ (num den : Nat) : divNearest num den ≤ num / den + 1 := by
  unfold divNearest
  dsimp only
  split
  · exact Nat.le_succ _
  · split
    · exact Nat.le_refl _
    · split
      · exact Nat.le_succ _
      · exact Nat.le_refl _

/-- A quotient is rounded up if the rest is more than half of the divisor, or half of it and the
quotient is odd. -/
theorem divNearest_eq_succ_iff (num den : Nat) :
    divNearest num den = num / den + 1 ↔
      den < 2 * (num % den) ∨ den = 2 * (num % den) ∧ num / den % 2 = 1 := by
  unfold divNearest
  dsimp only
  split
  · omega
  · split
    · omega
    · split <;> omega

/-- The quotient of a fraction that was shifted. -/
def shifted (num den : Nat) (e : Int) : Nat :=
  (shiftFraction num den e).1 / (shiftFraction num den e).2

/-- A positive integer that is shifted to a bit length has that bit length. -/
theorem shifted_bounds (hn : n ≠ 0) (bits : Nat) :
    2 ^ bits ≤ shifted n 1 ((n.log2 : Int) - bits) ∧
      shifted n 1 ((n.log2 : Int) - bits) < 2 ^ (bits + 1) := by
  have hlow : 2 ^ n.log2 ≤ n := Nat.log2_self_le hn
  have hhigh : n < 2 ^ (n.log2 + 1) := Nat.lt_log2_self
  unfold shifted
  -- The integer is divided by a power of two if it has more bits, and multiplied if it has fewer.
  by_cases hk : bits ≤ n.log2
  · have hshift : shiftFraction n 1 ((n.log2 : Int) - bits) = (n, 2 ^ (n.log2 - bits)) := by
      have htoNat : ((n.log2 : Int) - bits).toNat = n.log2 - bits := by omega
      rw [shiftFraction, if_pos (by omega), htoNat, Nat.one_mul, twoTo_eq]
    rw [hshift]
    constructor
    · rw [Nat.le_div_iff_mul_le (Nat.two_pow_pos _), ← Nat.pow_add, Nat.add_sub_cancel' hk]
      exact hlow
    · have hlength : bits + 1 + (n.log2 - bits) = n.log2 + 1 := by omega
      rw [Nat.div_lt_iff_lt_mul (Nat.two_pow_pos _), ← Nat.pow_add, hlength]
      exact hhigh
  · have hshift : shiftFraction n 1 ((n.log2 : Int) - bits) = (n * 2 ^ (bits - n.log2), 1) := by
      have htoNat : (-((n.log2 : Int) - bits)).toNat = bits - n.log2 := by omega
      rw [shiftFraction, if_neg (by omega), htoNat, twoTo_eq]
    rw [hshift, Nat.div_one]
    constructor
    · calc 2 ^ bits = 2 ^ n.log2 * 2 ^ (bits - n.log2) := by
            rw [← Nat.pow_add, Nat.add_sub_cancel' (by omega)]
        _ ≤ n * 2 ^ (bits - n.log2) := Nat.mul_le_mul_right _ hlow
    · have hlength : bits + 1 = n.log2 + 1 + (bits - n.log2) := by omega
      rw [hlength, Nat.pow_add]
      exact Nat.mul_lt_mul_of_pos_right hhigh (Nat.two_pow_pos _)

/-- The exponent of a positive integer leaves it a significand of 53 bits. -/
theorem exponentOf_one (hn : n ≠ 0) : exponentOf n 1 = (n.log2 : Int) - 52 := by
  have hone : Nat.log2 1 = 0 := by decide
  -- The guess is always one too small for an integer.
  have hguess : twoTo 53 ≤ shifted n 1 ((n.log2 : Int) - 53) := (shifted_bounds hn 53).1
  unfold exponentOf
  rw [hone]
  change max minExponent (if twoTo 53 ≤ shifted n 1 ((n.log2 : Int) - 0 - 53)
    then (n.log2 : Int) - 0 - 53 + 1 else (n.log2 : Int) - 0 - 53) = _
  rw [Int.sub_zero, if_pos hguess]
  unfold minExponent
  omega

/-- The significand that a positive integer is rounded to, before a carry. -/
def significand (n : Nat) : Nat :=
  divNearest (shiftFraction n 1 ((n.log2 : Int) - 52)).1
    (shiftFraction n 1 ((n.log2 : Int) - 52)).2

/-- Rounding leaves a significand of 53 bits, or it carries. -/
theorem significand_pos (hn : n ≠ 0) : 0 < significand n :=
  Nat.lt_of_lt_of_le (Nat.two_pow_pos 52)
    (Nat.le_trans (shifted_bounds hn 52).1 (le_divNearest _ _))

/-- A positive integer is beyond all doubles if its exponent is, after a carry. -/
theorem ofFraction_infinite_iff (hn : n ≠ 0) (negative : Bool) :
    (∃ sign, ofFraction negative n 1 = .infinite sign) ↔
      1024 ≤ n.log2 ∨ n.log2 = 1023 ∧ significand n = 2 ^ 53 := by
  have hpos := significand_pos hn
  have hrounded : divNearest (shiftFraction n 1 ((n.log2 : Int) - 52)).1
      (shiftFraction n 1 ((n.log2 : Int) - 52)).2 = significand n := rfl
  unfold ofFraction
  rw [if_neg hn, exponentOf_one hn]
  dsimp only
  rw [hrounded, twoTo_eq, twoTo_eq]
  -- A carry leaves the least significand of 53 bits, at the next exponent.
  by_cases hcarry : significand n = 2 ^ 53
  · rw [if_pos hcarry]
    dsimp only
    rw [if_neg (by decide)]
    unfold maxExponent
    split
    · exact iff_of_true ⟨negative, rfl⟩ (by omega)
    · exact iff_of_false (by simp) (by omega)
  · rw [if_neg hcarry]
    dsimp only
    rw [if_neg (by omega)]
    unfold maxExponent
    split
    · exact iff_of_true ⟨negative, rfl⟩ (by omega)
    · exact iff_of_false (by simp) (by omega)

/-- At the greatest exponent, rounding carries from half a unit below the next power of two on. -/
theorem significand_carries_iff (hlog : n.log2 = 1023) :
    significand n = 2 ^ 53 ↔ 2 ^ 1024 - 2 ^ 970 ≤ n := by
  have hn : n ≠ 0 := by
    rintro rfl
    exact absurd hlog (by decide)
  -- Everything is counted in halves of the last place.
  have hpos := twoTo_pos 970
  rw [twoTo_eq] at hpos
  have hunit : 2 ^ (1 + 970) = 2 ^ 1 * 2 ^ 970 := pow_add 2 1 970
  have htop : 2 ^ (54 + 970) = 2 ^ 54 * 2 ^ 970 := pow_add 2 54 970
  generalize 2 ^ 970 = half at hpos hunit htop ⊢
  rw [pow_one] at hunit
  have hshift : shiftFraction n 1 ((n.log2 : Int) - 52) = (n, 2 * half) := by
    have htoNat : ((n.log2 : Int) - 52).toNat = 1 + 970 := by omega
    rw [shiftFraction, if_pos (by omega), htoNat, Nat.one_mul, twoTo_eq, hunit]
  have hbounds : 2 ^ 52 ≤ shifted n 1 ((n.log2 : Int) - 52) ∧
      shifted n 1 ((n.log2 : Int) - 52) < 2 ^ 53 := shifted_bounds hn 52
  unfold shifted at hbounds
  unfold significand
  rw [hshift] at hbounds ⊢
  have hround := divNearest_eq_succ_iff n (2 * half)
  have hsplit := Nat.div_add_mod n (2 * half)
  have hrest := Nat.mod_lt n (show 0 < 2 * half by omega)
  have hnear := le_divNearest n (2 * half)
  have hnext := divNearest_le_succ n (2 * half)
  dsimp only at hbounds ⊢
  generalize n / (2 * half) = q at *
  generalize n % (2 * half) = rest at *
  -- Only the greatest significand can be rounded up to a carry.
  by_cases hq : q = 2 ^ 53 - 1
  · subst hq
    omega
  · have hlt : (q + 1) * (2 * half) ≤ (2 ^ 53 - 1) * (2 * half) :=
      Nat.mul_le_mul_right _ (by omega)
    rw [Nat.add_mul, Nat.one_mul, Nat.mul_comm q] at hlt
    omega

/-- The integers that are beyond all doubles. -/
theorem ofInt?_eq_none_iff (k : Int) : ofInt? k = none ↔ 2 ^ 1024 - 2 ^ 970 ≤ k.natAbs := by
  have hnone : ofInt? k = none ↔
      ∃ sign, ofFraction (decide (k < 0)) k.natAbs 1 = .infinite sign := by
    unfold ofInt?
    cases ofFraction (decide (k < 0)) k.natAbs 1 with
    | infinite sign => simp
    | _ => simp
  have hpos := twoTo_pos 970
  rw [twoTo_eq] at hpos
  have hlower : 2 ^ (53 + 970) = 2 ^ 53 * 2 ^ 970 := pow_add 2 53 970
  have hupper : 2 ^ (54 + 970) = 2 ^ 54 * 2 ^ 970 := pow_add 2 54 970
  rw [hnone]
  by_cases hk : k.natAbs = 0
  · rw [hk]
    refine iff_of_false ?_ (by omega)
    rintro ⟨sign, hsign⟩
    cases hsign
  · rw [ofFraction_infinite_iff hk]
    -- Below the greatest exponent, at it, and above it.
    rcases Nat.lt_trichotomy k.natAbs.log2 1023 with hlow | hmid | hhigh
    · have hlt := (Nat.log2_lt hk).1 hlow
      omega
    · rw [significand_carries_iff hmid]
      omega
    · have hge := (Nat.le_log2 hk).1 hhigh
      omega

end Double

end Decimal

namespace World

/-- All waits of a dialogue ended as they do in a world. -/
def Waited (w : World) (t : Dialogue) : Prop :=
  ∀ ms reply, ⟨.wait ms, reply⟩ ∈ t → (World.wait ms w).1 = reply

/-- How a wait ends depends on the scheduling alone. -/
theorem wait_fst (w : World) (ms : Int) :
    (World.wait ms w).1 = (w.scheduling.waiting ms).map fun _ => () := by
  unfold World.wait World.step
  dsimp only
  cases w.scheduling.waiting ms <;> rfl

/-- A program that sleeps by itself cannot wait for a delay that is beyond all doubles. -/
theorem wait_overlong {w : World} {ms : Int} (hown : w.scheduling = .own)
    (hms : 2 ^ 1024 - 2 ^ 970 ≤ ms.natAbs) : (World.wait ms w).1 = .error .delayTooLong := by
  rw [← Decimal.Double.ofInt?_eq_none_iff] at hms
  rw [wait_fst, hown, Scheduling.waiting, hms]
  rfl

/-- A wait fails exactly if the program sleeps by itself and the delay is beyond all doubles. -/
theorem wait_fails_iff (w : World) (ms : Int) :
    (∃ e, (World.wait ms w).1 = .error e) ↔
      w.scheduling = .own ∧ 2 ^ 1024 - 2 ^ 970 ≤ ms.natAbs := by
  refine ⟨?_, fun h => ⟨_, wait_overlong h.1 h.2⟩⟩
  rintro ⟨e, he⟩
  rw [wait_fst] at he
  cases hscheduling : w.scheduling with
  | byHost =>
    rw [hscheduling] at he
    cases he
  | own =>
    rw [← Decimal.Double.ofInt?_eq_none_iff]
    rw [hscheduling, Scheduling.waiting] at he
    cases hdouble : Decimal.Double.ofInt? ms with
    | none => exact ⟨rfl, rfl⟩
    | some x =>
      rw [hdouble] at he
      cases he

end World

end IndexSync
