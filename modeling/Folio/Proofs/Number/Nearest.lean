import Folio.Number.Nearest
import Mathlib.Algebra.Order.Field.Power
import Mathlib.Data.Rat.Cast.Order
import Mathlib.Tactic.FieldSimp
import Mathlib.Tactic.Linarith
import Mathlib.Tactic.Positivity
import Mathlib.Tactic.Ring
/-!
Rounding to numbers of 53 binary digits: it keeps the order, and a number that has no more digits
stays as it is.
-/

namespace Folio.Number

section Division

variable {k n d n' d' : Nat}

theorem le_roundDiv (hd : 0 < d) (h : k * d ≤ n) : k ≤ roundDiv n d := by
  have hk : k ≤ n / d := (Nat.le_div_iff_mul_le hd).2 h
  unfold roundDiv
  dsimp only
  split_ifs <;> omega

theorem roundDiv_le (hd : 0 < d) (h : n ≤ k * d) : roundDiv n d ≤ k := by
  have hk : n / d ≤ k := Nat.div_le_of_le_mul (by rwa [Nat.mul_comm])
  have hparts := Nat.div_add_mod n d
  unfold roundDiv
  dsimp only
  obtain hlt | rfl := hk.lt_or_eq
  · split_ifs <;> omega
  · have hmod : n % d = 0 := by
      rw [Nat.mul_comm] at h
      omega
    rw [hmod, if_pos (by omega)]

theorem roundDiv_mono (hd : 0 < d) (hd' : 0 < d') (h : n * d' ≤ n' * d) :
    roundDiv n d ≤ roundDiv n' d' := by
  have hparts := Nat.div_add_mod n d
  have hparts' := Nat.div_add_mod n' d'
  have hquotient : n / d ≤ n' / d' := by
    refine (Nat.le_div_iff_mul_le hd').2 (Nat.le_of_mul_le_mul_right ?_ hd)
    calc n / d * d' * d = n / d * d * d' := Nat.mul_right_comm _ _ _
      _ ≤ n * d' := Nat.mul_le_mul_right d' (Nat.div_mul_le_self n d)
      _ ≤ n' * d := h
  obtain hlt | heq := hquotient.lt_or_eq
  · have hbelow : roundDiv n d ≤ n / d + 1 := roundDiv_le hd (by
      have := Nat.mod_lt n hd
      rw [Nat.add_mul, Nat.mul_comm (n / d)]
      omega)
    exact (hbelow.trans hlt).trans (le_roundDiv hd' (Nat.div_mul_le_self n' d'))
  · -- Of one quotient, the remainders decide.
    have hrest : n % d * d' ≤ n' % d' * d := by
      have hn : n * d' = n / d * (d * d') + n % d * d' := by
        conv_lhs => rw [← hparts]
        ring
      have hn' : n' * d = n' / d' * (d * d') + n' % d' * d := by
        conv_lhs => rw [← hparts']
        ring
      rw [hn, hn', heq] at h
      omega
    have habove : d < 2 * (n % d) → d' < 2 * (n' % d') := by
      intro hlt
      nlinarith
    have hhalf : d ≤ 2 * (n % d) → d' ≤ 2 * (n' % d') := by
      intro hle
      nlinarith
    unfold roundDiv
    dsimp only
    rw [heq]
    split_ifs <;> omega

end Division

section Digits

theorem timesPowerOfTwo_eq (m : Nat) (e : Int) : timesPowerOfTwo m e = m * 2 ^ e := by
  rw [timesPowerOfTwo, Rat.mkRat_eq_div]
  obtain ⟨k, rfl | rfl⟩ := e.eq_nat_or_neg
  · simp
  · simp [div_eq_mul_inv]

theorem scaled_eq (n d : Nat) (e : Int) :
    ((n * 2 ^ (-e).toNat : Nat) : Rat) / (d * 2 ^ e.toNat : Nat) = n / d / 2 ^ e := by
  obtain ⟨k, rfl | rfl⟩ := e.eq_nat_or_neg
  · simp [div_div]
  · simp [mul_div_right_comm]

variable {n d n' d' : Nat}

theorem mul_two_zpow_le_iff (hd : 0 < d) (k n : Nat) (e : Int) :
    (k * 2 ^ e : Rat) ≤ n / d ↔ k * (d * 2 ^ e.toNat) ≤ n * 2 ^ (-e).toNat := by
  have hunit : (0 : Rat) < 2 ^ e := by positivity
  have hscaled : (0 : Rat) < (d * 2 ^ e.toNat : Nat) := by positivity
  rw [← le_div_iff₀ hunit, ← scaled_eq, le_div_iff₀ hscaled]
  norm_cast

theorem le_mul_two_zpow_iff (hd : 0 < d) (k n : Nat) (e : Int) :
    (n / d : Rat) ≤ k * 2 ^ e ↔ n * 2 ^ (-e).toNat ≤ k * (d * 2 ^ e.toNat) := by
  have hunit : (0 : Rat) < 2 ^ e := by positivity
  have hscaled : (0 : Rat) < (d * 2 ^ e.toNat : Nat) := by positivity
  rw [← div_le_iff₀ hunit, ← scaled_eq, div_le_iff₀ hscaled]
  norm_cast

theorem binaryMagnitude_spec (hn : 0 < n) (hd : 0 < d) : (2 : Rat) ^ binaryMagnitude n d ≤ n / d ∧
    (n / d : Rat) < 2 ^ (binaryMagnitude n d + 1) := by
  have hd' : (0 : Rat) < d := Nat.cast_pos.2 hd
  have hlow : (2 : Rat) ^ ((n.log2 : Int) - d.log2 - 1) ≤ n / d := by
    have hn' : ((2 ^ n.log2 : Nat) : Rat) ≤ n := Nat.cast_le.2 (Nat.log2_self_le hn.ne')
    have hlog : (d : Rat) ≤ (2 ^ (d.log2 + 1) : Nat) := Nat.cast_le.2 Nat.lt_log2_self.le
    calc (2 : Rat) ^ ((n.log2 : Int) - d.log2 - 1)
      _ = (2 ^ n.log2 : Nat) / (2 ^ (d.log2 + 1) : Nat) := by
          rw [sub_sub, zpow_sub₀ two_ne_zero]
          norm_cast
      _ ≤ n / d := div_le_div₀ (Nat.cast_nonneg n) hn' hd' hlog
  have hhigh : (n / d : Rat) < 2 ^ ((n.log2 : Int) - d.log2 + 1) := by
    have hn' : (n : Rat) < (2 ^ (n.log2 + 1) : Nat) := Nat.cast_lt.2 Nat.lt_log2_self
    have hlog : ((2 ^ d.log2 : Nat) : Rat) ≤ d := Nat.cast_le.2 (Nat.log2_self_le hd.ne')
    calc (n / d : Rat) < (2 ^ (n.log2 + 1) : Nat) / (2 ^ d.log2 : Nat) :=
          div_lt_div₀ hn' hlog (Nat.cast_nonneg _) (by positivity)
      _ = 2 ^ ((n.log2 : Int) - d.log2 + 1) := by
          rw [← add_sub_right_comm, zpow_sub₀ two_ne_zero]
          norm_cast
  have hreached := mul_two_zpow_le_iff hd 1 n ((n.log2 : Int) - d.log2)
  rw [Nat.cast_one, one_mul, one_mul] at hreached
  unfold binaryMagnitude
  dsimp only
  split
  next h => exact ⟨hreached.2 h, hhigh⟩
  next h =>
    rw [sub_add_cancel]
    exact ⟨hlow, not_le.1 fun hle => h (hreached.1 hle)⟩

theorem nearestBinary_le_grid (hd : 0 < d) {k : Nat}
    (h : (n / d : Rat) ≤ k * 2 ^ (binaryMagnitude n d - 52)) :
    nearestBinary n d ≤ k * 2 ^ (binaryMagnitude n d - 52) := by
  have hunit : (0 : Rat) < 2 ^ (binaryMagnitude n d - 52) := by positivity
  have hround := roundDiv_le (by positivity) ((le_mul_two_zpow_iff hd k n _).1 h)
  rw [nearestBinary, timesPowerOfTwo_eq]
  exact mul_le_mul_of_nonneg_right (Nat.cast_le.2 hround) hunit.le

theorem grid_le_nearestBinary (hd : 0 < d) {k : Nat}
    (h : (k * 2 ^ (binaryMagnitude n d - 52) : Rat) ≤ n / d) :
    (k * 2 ^ (binaryMagnitude n d - 52) : Rat) ≤ nearestBinary n d := by
  have hunit : (0 : Rat) < 2 ^ (binaryMagnitude n d - 52) := by positivity
  have hround := le_roundDiv (by positivity) ((mul_two_zpow_le_iff hd k n _).1 h)
  rw [nearestBinary, timesPowerOfTwo_eq]
  exact mul_le_mul_of_nonneg_right (Nat.cast_le.2 hround) hunit.le

theorem exists_grid {k : Nat} {j m : Int} (hk : k < 2 ^ 53) (h : (2 : Rat) ^ m ≤ k * 2 ^ j) :
    ∃ t : Nat, (k * 2 ^ j : Rat) = t * 2 ^ (m - 52) := by
  have hlt : (2 : Rat) ^ m < 2 ^ (53 + j) := by
    rw [zpow_add₀ two_ne_zero]
    refine h.trans_lt (mul_lt_mul_of_pos_right ?_ (by positivity))
    exact_mod_cast hk
  have hm := (zpow_lt_zpow_iff_right₀ one_lt_two).1 hlt
  refine ⟨k * 2 ^ (j - (m - 52)).toNat, ?_⟩
  have hj : ((j - (m - 52)).toNat : Int) = j - (m - 52) := Int.toNat_of_nonneg (by omega)
  rw [Nat.cast_mul, Nat.cast_pow, Nat.cast_ofNat, mul_assoc, ← zpow_natCast, hj,
    ← zpow_add₀ two_ne_zero, sub_add_cancel]

theorem nearestBinary_le (hn : 0 < n) (hd : 0 < d) {k : Nat} {j : Int} (hk : k < 2 ^ 53)
    (h : (n / d : Rat) ≤ k * 2 ^ j) : nearestBinary n d ≤ k * 2 ^ j := by
  obtain ⟨t, ht⟩ := exists_grid hk ((binaryMagnitude_spec hn hd).1.trans h)
  rw [ht] at h ⊢
  exact nearestBinary_le_grid hd h

theorem le_nearestBinary (hn : 0 < n) (hd : 0 < d) {k : Nat} {j : Int} (hk : k < 2 ^ 53)
    (h : (k * 2 ^ j : Rat) ≤ n / d) : (k * 2 ^ j : Rat) ≤ nearestBinary n d := by
  obtain ⟨hlow, -⟩ := binaryMagnitude_spec hn hd
  have hpower : (2 : Rat) ^ binaryMagnitude n d =
      (2 ^ 52 : Nat) * 2 ^ (binaryMagnitude n d - 52) := by
    rw [Nat.cast_pow, Nat.cast_ofNat, ← zpow_natCast, ← zpow_add₀ two_ne_zero]
    simp
  by_cases hreach : (2 : Rat) ^ binaryMagnitude n d ≤ k * 2 ^ j
  · obtain ⟨t, ht⟩ := exists_grid hk hreach
    rw [ht] at h ⊢
    exact grid_le_nearestBinary hd h
  · refine (not_le.1 hreach).le.trans ?_
    rw [hpower] at hlow ⊢
    exact grid_le_nearestBinary hd hlow

theorem nearestBinary_mono (hn : 0 < n) (hd : 0 < d) (hn' : 0 < n') (hd' : 0 < d')
    (h : (n / d : Rat) ≤ n' / d') : nearestBinary n d ≤ nearestBinary n' d' := by
  obtain ⟨hlow, hhigh⟩ := binaryMagnitude_spec hn hd
  obtain ⟨hlow', hhigh'⟩ := binaryMagnitude_spec hn' hd'
  have hle : binaryMagnitude n d ≤ binaryMagnitude n' d' := by
    have hlt := (zpow_lt_zpow_iff_right₀ (one_lt_two (α := Rat))).1
      ((hlow.trans h).trans_lt hhigh')
    omega
  obtain hlt | heq := hle.lt_or_eq
  · -- A power of two lies between them.
    have hpower : (2 : Rat) ^ (binaryMagnitude n d + 1) ≤ 2 ^ binaryMagnitude n' d' :=
      zpow_le_zpow_right₀ one_le_two hlt
    have hbelow := nearestBinary_le hn hd (k := 1) (j := binaryMagnitude n' d') (by norm_num)
      (by simpa using hhigh.le.trans hpower)
    exact hbelow.trans (le_nearestBinary hn' hd' (by norm_num) (by simpa using hlow'))
  · -- Both are rounded on one grid.
    have hcross : n * d' ≤ n' * d := by
      have hd₀ : (0 : Rat) < d := Nat.cast_pos.2 hd
      have hd₀' : (0 : Rat) < d' := Nat.cast_pos.2 hd'
      exact_mod_cast (div_le_div_iff₀ hd₀ hd₀').1 h
    have hround : roundDiv (n * 2 ^ (-(binaryMagnitude n d - 52)).toNat)
          (d * 2 ^ (binaryMagnitude n d - 52).toNat) ≤
        roundDiv (n' * 2 ^ (-(binaryMagnitude n d - 52)).toNat)
          (d' * 2 ^ (binaryMagnitude n d - 52).toNat) := by
      refine roundDiv_mono (by positivity) (by positivity) ?_
      rw [mul_mul_mul_comm, mul_mul_mul_comm n']
      exact Nat.mul_le_mul_right _ hcross
    rw [nearestBinary, nearestBinary, timesPowerOfTwo_eq, timesPowerOfTwo_eq, ← heq]
    exact mul_le_mul_of_nonneg_right (Nat.cast_le.2 hround) (by positivity)

end Digits

section Doubles

variable {x y : Rat}

theorem natAbs_num_div_den (h : 0 ≤ x) : (x.num.natAbs : Rat) / x.den = x := by
  have hnum : ((x.num.natAbs : Int) : Rat) = x.num := by
    rw [Int.natAbs_of_nonneg (Rat.num_nonneg.2 h)]
  rw [← Int.cast_natCast, hnum, Rat.num_div_den]

theorem nearestDouble_zero : nearestDouble 0 = 0 := rfl

theorem nearestDouble_pos (h : 0 < x) : nearestDouble x = nearestBinary x.num.natAbs x.den := by
  have hnum : 0 < x.num := Rat.num_pos.2 h
  rw [nearestDouble, if_neg hnum.le.not_gt, if_neg hnum.ne']

theorem nearestDouble_neg (x : Rat) : nearestDouble (-x) = -nearestDouble x := by
  obtain hneg | rfl | hpos := lt_trichotomy x 0
  · have hnum : x.num < 0 := Rat.num_neg.2 hneg
    rw [nearestDouble_pos (neg_pos.2 hneg), nearestDouble, if_pos hnum, neg_neg,
      Rat.num_neg_eq_neg_num, Int.natAbs_neg, Rat.den_neg_eq_den]
  · rfl
  · have hnum : (-x).num < 0 := Rat.num_neg.2 (neg_lt_zero.2 hpos)
    rw [nearestDouble_pos hpos, nearestDouble, if_pos hnum, Rat.num_neg_eq_neg_num,
      Int.natAbs_neg, Rat.den_neg_eq_den]

theorem nearestDouble_nonneg (h : 0 ≤ x) : 0 ≤ nearestDouble x := by
  obtain rfl | hpos := h.eq_or_lt
  · exact nearestDouble_zero.ge
  · rw [nearestDouble_pos hpos]
    exact Rat.mkRat_nonneg (Int.natCast_nonneg _) _

theorem nearestDouble_mono : Monotone nearestDouble := by
  have hpos {x y : Rat} (hx : 0 < x) (h : x ≤ y) : nearestDouble x ≤ nearestDouble y := by
    have hy := hx.trans_le h
    rw [nearestDouble_pos hx, nearestDouble_pos hy]
    refine nearestBinary_mono (Int.natAbs_pos.2 (Rat.num_pos.2 hx).ne') x.den_pos
      (Int.natAbs_pos.2 (Rat.num_pos.2 hy).ne') y.den_pos ?_
    rwa [natAbs_num_div_den hx.le, natAbs_num_div_den hy.le]
  intro x y h
  obtain hx | rfl | hx := lt_trichotomy x 0
  · obtain hy | hy := lt_or_ge y 0
    · have hneg := hpos (neg_pos.2 hy) (neg_le_neg h)
      rw [nearestDouble_neg, nearestDouble_neg] at hneg
      exact neg_le_neg_iff.1 hneg
    · have hneg := nearestDouble_nonneg (neg_pos.2 hx).le
      rw [nearestDouble_neg] at hneg
      exact (neg_nonneg.1 hneg).trans (nearestDouble_nonneg hy)
  · exact nearestDouble_nonneg h
  · exact hpos hx h

theorem nearestDouble_self {k : Nat} (hk : k < 2 ^ 53) (j : Int) :
    nearestDouble (k * 2 ^ j) = k * 2 ^ j := by
  obtain rfl | hpos := k.eq_zero_or_pos
  · rw [Nat.cast_zero, zero_mul, nearestDouble_zero]
  · have hx : (0 : Rat) < k * 2 ^ j := by positivity
    have hnum := Int.natAbs_pos.2 (Rat.num_pos.2 hx).ne'
    have heq := natAbs_num_div_den hx.le
    rw [nearestDouble_pos hx]
    exact le_antisymm (nearestBinary_le hnum (Rat.den_pos _) hk heq.le)
      (le_nearestBinary hnum (Rat.den_pos _) hk heq.ge)

theorem nearestDouble_natCast {k : Nat} (hk : k < 2 ^ 53) : nearestDouble k = k := by
  simpa using nearestDouble_self hk 0

end Doubles

end Folio.Number
