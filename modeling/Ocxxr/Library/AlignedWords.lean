import Mathlib.Data.Nat.Bitwise
import Mathlib.Tactic.Ring

namespace Ocxxr.AlignedWords

def ceilTo (a n : Nat) : Nat := (n + a - 1) / a * a

theorem le_ceilTo {a : Nat} (ha : 0 < a) (n : Nat) : n ≤ ceilTo a n := by
  have h := Nat.div_add_mod' (n + a - 1) a
  have hlt := Nat.mod_lt (n + a - 1) ha
  rw [ceilTo]
  omega

theorem ceilTo_lt {a : Nat} (ha : 0 < a) (n : Nat) : ceilTo a n < n + a := by
  have h := Nat.div_mul_le_self (n + a - 1) a
  rw [ceilTo]
  omega

theorem dvd_ceilTo (a n : Nat) : a ∣ ceilTo a n := Nat.dvd_mul_left a _

theorem ceilTo_of_dvd {a n : Nat} (ha : 0 < a) (h : a ∣ n) : ceilTo a n = n := by
  have hlt := ceilTo_lt ha n
  have hle := le_ceilTo ha n
  obtain ⟨k, hk⟩ := (Nat.dvd_sub (dvd_ceilTo a n) h)
  have hk0 : k = 0 := by
    by_contra hne
    have hmul := Nat.le_mul_of_pos_right a (Nat.pos_of_ne_zero hne)
    omega
  rw [hk0, Nat.mul_zero] at hk
  omega

variable {w : Nat}

/-- The rounding of an offset as it is written in C, on words of `w` bits. -/
def alignUp (x a : BitVec w) : BitVec w := (x + a - 1) &&& (-a)

theorem testBit_neg_twoPow {k i : Nat} (hk : k ≤ w) :
    (2 ^ w - 2 ^ k).testBit i = (decide (k ≤ i) && decide (i < w)) := by
  have h : 2 ^ w - 2 ^ k = (2 ^ (w - k) - 1) * 2 ^ k := by
    rw [Nat.sub_mul, one_mul, ← pow_add, Nat.sub_add_cancel hk]
  rw [h, Nat.testBit_mul_two_pow, Nat.testBit_two_pow_sub_one]
  by_cases hi : k ≤ i
  · simp only [hi, decide_true, Bool.true_and, decide_eq_decide]
    omega
  · simp [hi]

theorem and_neg_toNat {k : Nat} (hk : k < w) {x a : BitVec w} (ha : a.toNat = 2 ^ k) :
    (x &&& -a).toNat = x.toNat / 2 ^ k * 2 ^ k := by
  have hneg : (-a).toNat = 2 ^ w - 2 ^ k := by
    have hlt : 2 ^ k < 2 ^ w := Nat.pow_lt_pow_right (by omega) hk
    have hpos := Nat.two_pow_pos k
    rw [BitVec.toNat_neg, ha, Nat.mod_eq_of_lt (by omega)]
  rw [BitVec.toNat_and, hneg]
  apply Nat.eq_of_testBit_eq
  intro i
  rw [Nat.testBit_and, testBit_neg_twoPow hk.le, Nat.testBit_mul_two_pow, Nat.testBit_div_two_pow]
  by_cases hi : k ≤ i
  · have hx : x.toNat.testBit i = (x.toNat.testBit i && decide (i < w)) := by
      by_cases hw : i < w
      · simp [hw]
      · have hlt : x.toNat < 2 ^ i := x.isLt.trans_le (Nat.pow_le_pow_right (by omega) (by omega))
        simp [Nat.testBit_lt_two_pow hlt]
    simp only [hi, decide_true, Bool.true_and]
    rw [← hx, Nat.sub_add_cancel hi]
  · simp [hi]

theorem alignUp_toNat {k : Nat} (hk : k < w) {x a : BitVec w} (ha : a.toNat = 2 ^ k)
    (hx : x.toNat + a.toNat - 1 < 2 ^ w) : (alignUp x a).toNat = ceilTo a.toNat x.toNat := by
  rw [ha] at hx ⊢
  have hpos := Nat.two_pow_pos k
  have hone : (1 : BitVec w).toNat = 1 := by
    have h2 : 1 < 2 ^ w := Nat.one_lt_two_pow (by omega)
    exact Nat.mod_eq_of_lt h2
  have hsum : (x + a - 1).toNat = x.toNat + 2 ^ k - 1 := by
    rw [BitVec.toNat_sub, BitVec.toNat_add, ha, hone]
    by_cases h : x.toNat + 2 ^ k = 2 ^ w
    · rw [h, Nat.mod_self, Nat.mod_eq_of_lt] <;> omega
    · rw [Nat.mod_eq_of_lt (show x.toNat + 2 ^ k < 2 ^ w by omega),
        show 2 ^ w - 1 + (x.toNat + 2 ^ k) = x.toNat + 2 ^ k - 1 + 2 ^ w by omega, Nat.add_mod_right,
        Nat.mod_eq_of_lt hx]
  rw [alignUp, and_neg_toNat hk ha, hsum, ceilTo]

end Ocxxr.AlignedWords
