import Mathlib.Algebra.Order.Field.Power
import Mathlib.Data.Rat.Cast.Order
import Mathlib.Tactic.FieldSimp
import Mathlib.Tactic.Linarith
import Mathlib.Tactic.NormNum
import Mathlib.Tactic.Ring
import SourceAudit.Number.Binary64

/-!
# SourceAudit.Proofs.Number.Rounding

Rounding to double precision, as a function on the rationals. Both choices that rounding makes, of
the last place and of the significand, are given by the bounds below which they stay.

* `lastPlace_le_iff` and `le_significand_iff` — those bounds;
* `round_mono` — rounding is monotone;
* `round_of_mul_zpow` — a number with at most 53 bits above the least place is its own rounding;
* `round_mul_two_pow` — so is a double times a power of two;
* `round_sub_of_le_double` — the difference of two doubles is exact, if the larger one is at most
  twice the smaller.
-/

namespace SourceAudit.Number

/-! ## Powers of two -/

theorem twoTo_eq (k : Nat) : ((twoTo k : Nat) : ℚ) = 2 ^ (k : ℤ) := by
  rw [show twoTo k = Nat.pow 2 k from rfl, Nat.pow_eq]
  push_cast
  rw [zpow_natCast]

theorem twoTo_pos (k : Nat) : 0 < twoTo k := Nat.pow_pos (by decide)

theorem twoTo_toNat {e : ℤ} (he : 0 ≤ e) : ((twoTo e.toNat : Nat) : ℚ) = 2 ^ e := by
  rw [twoTo_eq, Int.toNat_of_nonneg he]

theorem twoTo_toNat_neg {e : ℤ} (he : ¬ 0 ≤ e) :
    ((twoTo (-e).toNat : Nat) : ℚ) = (2 ^ e)⁻¹ := by
  rw [twoTo_toNat (by omega), zpow_neg]

/-- A multiple of a power of two is one of any lower power. -/
theorem mul_zpow_of_le (m : Nat) {e e' : ℤ} (h : e' ≤ e) :
    (m : ℚ) * 2 ^ e = ((m * 2 ^ (e - e').toNat : Nat) : ℚ) * 2 ^ e' := by
  push_cast
  rw [← zpow_natCast, Int.toNat_of_nonneg (by omega), mul_assoc, ← zpow_add₀ (by norm_num),
    sub_add_cancel]

/-- A number with an exponent is scaled by its power of two. -/
theorem scaleByTwo_eq (m e : Int) : scaleByTwo m e = m * 2 ^ e := by
  unfold scaleByTwo
  split
  · next he =>
    rw [← twoTo_toNat he]
    push_cast
    rfl
  · next he => rw [Rat.mkRat_eq_div, twoTo_toNat_neg he, div_inv_eq_mul]

/-- The place of the highest bit of a natural number. -/
theorem log2_bounds {n : Nat} (hn : 0 < n) :
    (2 : ℚ) ^ (n.log2 : ℤ) ≤ n ∧ (n : ℚ) < 2 ^ ((n.log2 : ℤ) + 1) := by
  constructor
  · exact_mod_cast Nat.log2_self_le hn.ne'
  · exact_mod_cast Nat.lt_log2_self

/-! ## The nearest integer -/

/-- The nearest quotient is bounded by halves, and ties go to the even one. -/
theorem le_divNearestEven_iff_nat {n d : Nat} (k : Nat) (hd : 0 < d) :
    k ≤ divNearestEven n d ↔
      2 * (k * d) < 2 * n + d ∨ (2 * (k * d) = 2 * n + d ∧ k % 2 = 0) := by
  have hn : d * (n / d) + n % d = n := Nat.div_add_mod n d
  have hr : n % d < d := Nat.mod_lt n hd
  unfold divNearestEven
  simp only
  generalize n / d = q at hn ⊢
  generalize n % d = r at hn hr ⊢
  rcases lt_trichotomy k (q + 1) with hk | rfl | hk
  · have hmul : k * d ≤ q * d := Nat.mul_le_mul_right d (by omega)
    have hcomm : d * q = q * d := Nat.mul_comm d q
    grind
  · have hcomm : d * q = q * d := Nat.mul_comm d q
    have hsucc : (q + 1) * d = q * d + d := Nat.succ_mul q d
    grind
  · have hmul : (q + 2) * d ≤ k * d := Nat.mul_le_mul_right d (by omega)
    have hcomm : d * q = q * d := Nat.mul_comm d q
    have hsucc : (q + 2) * d = q * d + 2 * d := Nat.add_mul q 2 d
    grind

/-- A quotient is rounded to an even number from half a unit below it on, and to an odd one only
from above that. -/
theorem le_divNearestEven_iff {n d : Nat} (k : Nat) (hd : 0 < d) :
    k ≤ divNearestEven n d ↔
      (2 * k - 1 : ℚ) < 2 * (n / d) ∨ ((2 * k - 1 : ℚ) = 2 * (n / d) ∧ k % 2 = 0) := by
  have hd' : (0 : ℚ) < d := by exact_mod_cast hd
  rw [le_divNearestEven_iff_nat k hd, ← Nat.cast_lt (α := ℚ), ← Nat.cast_inj (R := ℚ),
    ← mul_div_assoc, lt_div_iff₀ hd', eq_div_iff hd'.ne']
  push_cast
  refine or_congr ?_ (and_congr_left' ?_)
  · constructor <;> intro h <;> linarith
  · constructor <;> intro h <;> linarith

namespace Binary64

/-! ## The last place -/

/-- A quotient is compared with a power of two by integers. -/
theorem lt_zpow_iff {n d : Nat} (hd : 0 < d) (k : ℤ) :
    (if 0 ≤ k then decide (n < d * twoTo k.toNat) else decide (n * twoTo (-k).toNat < d)) = true ↔
      (n : ℚ) / d < 2 ^ k := by
  have hd' : (0 : ℚ) < d := by exact_mod_cast hd
  rw [div_lt_iff₀ hd']
  split
  · next hk =>
    rw [decide_eq_true_eq, ← Nat.cast_lt (α := ℚ), Nat.cast_mul, twoTo_toNat hk, mul_comm]
  · next hk =>
    have hpos : (0 : ℚ) < 2 ^ k := zpow_pos (by norm_num) k
    rw [decide_eq_true_eq, ← Nat.cast_lt (α := ℚ), Nat.cast_mul, twoTo_toNat_neg hk,
      ← div_eq_mul_inv, div_lt_iff₀ hpos, mul_comm (d : ℚ)]

/-- The last place is the least one that leaves a significand of at most 53 bits. -/
theorem lastPlace_le_iff {n d : Nat} (hn : 0 < n) (hd : 0 < d) (e : ℤ) :
    lastPlace n d ≤ e ↔ -1074 ≤ e ∧ (n : ℚ) / d < 2 ^ (e + 53) := by
  obtain ⟨hn₁, hn₂⟩ := log2_bounds hn
  obtain ⟨hd₁, hd₂⟩ := log2_bounds hd
  have hd' : (0 : ℚ) < d := by exact_mod_cast hd
  have hone : (1 : ℚ) < 2 := by norm_num
  -- The quotient lies within a factor of two of the quotient of the highest bits.
  have hlow : (2 : ℚ) ^ ((n.log2 : ℤ) - d.log2 - 1) < (n : ℚ) / d := by
    rw [lt_div_iff₀ hd']
    calc (2 : ℚ) ^ ((n.log2 : ℤ) - d.log2 - 1) * d
        < 2 ^ ((n.log2 : ℤ) - d.log2 - 1) * 2 ^ ((d.log2 : ℤ) + 1) := by gcongr
      _ = 2 ^ (n.log2 : ℤ) := by
          rw [← zpow_add₀ (by norm_num)]
          congr 1
          ring
      _ ≤ n := hn₁
  have hhigh : (n : ℚ) / d < 2 ^ ((n.log2 : ℤ) - d.log2 + 1) := by
    rw [div_lt_iff₀ hd']
    calc (n : ℚ) < 2 ^ ((n.log2 : ℤ) + 1) := hn₂
      _ = 2 ^ ((n.log2 : ℤ) - d.log2 + 1) * 2 ^ (d.log2 : ℤ) := by
          rw [← zpow_add₀ (by norm_num)]
          congr 1
          ring
      _ ≤ 2 ^ ((n.log2 : ℤ) - d.log2 + 1) * d := by gcongr
  unfold lastPlace
  simp only [lt_zpow_iff hd, max_le_iff, and_comm (b := -1074 ≤ e)]
  refine and_congr_right fun _ => ?_
  generalize (n.log2 : ℤ) - d.log2 = k at hlow hhigh ⊢
  split
  · next hk =>
    constructor
    · intro he
      exact hk.trans_le (zpow_le_zpow_right₀ hone.le (by omega))
    · intro he
      have := (zpow_lt_zpow_iff_right₀ hone).mp (hlow.trans he)
      omega
  · next hk =>
    constructor
    · intro he
      exact hhigh.trans_le (zpow_le_zpow_right₀ hone.le (by omega))
    · intro he
      have := (zpow_lt_zpow_iff_right₀ hone).mp ((not_lt.mp hk).trans_lt he)
      omega

/-! ## Rounding a positive number -/

/-- The last place of a number. -/
def place (q : ℚ) : ℤ := lastPlace q.num.natAbs q.den

/-- The number of units of the last place that are nearest to a number. -/
def significand (q : ℚ) : Nat :=
  if 0 ≤ place q then divNearestEven q.num.natAbs (q.den * twoTo (place q).toNat)
  else divNearestEven (q.num.natAbs * twoTo (-place q).toNat) q.den

section

variable {p q : ℚ}

theorem num_pos (hq : 0 < q) : 0 < q.num.natAbs :=
  Int.natAbs_pos.mpr (Rat.num_pos.mpr hq).ne'

theorem natAbs_num_div_den (hq : 0 < q) : ((q.num.natAbs : Nat) : ℚ) / q.den = q := by
  have hnum : ((q.num.natAbs : Nat) : ℤ) = q.num :=
    Int.natAbs_of_nonneg (Rat.num_pos.mpr hq).le
  rw [← Int.cast_natCast (R := ℚ), hnum, Rat.num_div_den]

/-- A number is rounded to a significand at its place. -/
theorem round_eq (hq : 0 < q) : round q = significand q * 2 ^ place q := by
  have hnum : 0 < q.num := Rat.num_pos.mpr hq
  unfold round significand place
  rw [if_neg hnum.ne']
  simp only [if_neg (not_lt.mpr hnum.le), scaleByTwo_eq, Int.cast_natCast]

/-- The place of a number is the least at which it has 53 bits, but not below that of the least
double. -/
theorem place_le_iff (hq : 0 < q) (e : ℤ) : place q ≤ e ↔ -1074 ≤ e ∧ q < 2 ^ (e + 53) := by
  rw [place, lastPlace_le_iff (num_pos hq) q.den_pos, natAbs_num_div_den hq]

theorem least_le_place (hq : 0 < q) : -1074 ≤ place q := ((place_le_iff hq _).mp le_rfl).1

theorem lt_of_place (hq : 0 < q) : q < 2 ^ (place q + 53) := ((place_le_iff hq _).mp le_rfl).2

/-- Larger numbers have no lower place. -/
theorem place_mono (hp : 0 < p) (h : p ≤ q) : place p ≤ place q :=
  (place_le_iff hp _).mpr
    ⟨least_le_place (hp.trans_le h), h.trans_lt (lt_of_place (hp.trans_le h))⟩

/-- The significand reaches an even number from half a unit below it on, and an odd one only from
above that. -/
theorem le_significand_iff (hq : 0 < q) (k : Nat) :
    k ≤ significand q ↔ (2 * k - 1 : ℚ) < 2 * (q / 2 ^ place q) ∨
      ((2 * k - 1 : ℚ) = 2 * (q / 2 ^ place q) ∧ k % 2 = 0) := by
  unfold significand
  split
  · next he =>
    rw [le_divNearestEven_iff k (Nat.mul_pos q.den_pos (twoTo_pos _)), Nat.cast_mul,
      twoTo_toNat he, ← div_div, natAbs_num_div_den hq]
  · next he =>
    rw [le_divNearestEven_iff k q.den_pos, Nat.cast_mul, twoTo_toNat_neg he, mul_div_right_comm,
      natAbs_num_div_den hq, div_eq_mul_inv q]

/-- The significand has at most 53 bits. -/
theorem significand_le (hq : 0 < q) : significand q ≤ 2 ^ 53 := by
  have hpow : (0 : ℚ) < 2 ^ place q := zpow_pos (by norm_num) _
  have hlt : q / 2 ^ place q < 2 ^ 53 := by
    rw [div_lt_iff₀ hpow, ← zpow_natCast, ← zpow_add₀ (by norm_num), add_comm]
    exact lt_of_place hq
  by_contra h
  rcases (le_significand_iff hq (2 ^ 53 + 1)).mp (by omega) with h | ⟨h, _⟩ <;>
    (push_cast at h; linarith)

/-- Above the least place, it has no fewer. -/
theorem le_significand (hq : 0 < q) (h : -1074 < place q) : 2 ^ 52 ≤ significand q := by
  have hpow : (0 : ℚ) < 2 ^ place q := zpow_pos (by norm_num) _
  have hle : (2 : ℚ) ^ 52 ≤ q / 2 ^ place q := by
    have hnot := mt (place_le_iff hq (place q - 1)).mpr (by omega)
    rw [not_and, not_lt] at hnot
    rw [le_div_iff₀ hpow, ← zpow_natCast, ← zpow_add₀ (by norm_num)]
    refine le_trans (le_of_eq ?_) (hnot (by omega))
    congr 1
    push_cast
    ring
  rw [le_significand_iff hq]
  left
  push_cast
  linarith

/-- A number that is a whole multiple of its last place is its own rounding. -/
theorem significand_of_eq (hq : 0 < q) {k : Nat} (h : q = k * 2 ^ place q) : significand q = k := by
  have hpow : (2 : ℚ) ^ place q ≠ 0 := zpow_ne_zero _ (by norm_num)
  have hdiv : q / 2 ^ place q = k := by
    rw [div_eq_iff hpow]
    exact h
  refine le_antisymm (not_lt.mp fun hlt => ?_) ?_
  · rcases (le_significand_iff hq (k + 1)).mp hlt with h | ⟨h, _⟩ <;>
      (rw [hdiv] at h; push_cast at h; linarith)
  · rw [le_significand_iff hq, hdiv]
    left
    linarith

/-! ## Rounding is monotone -/

theorem round_nonneg (hq : 0 < q) : 0 ≤ round q := by
  rw [round_eq hq]
  positivity

/-- At one place, larger numbers have no smaller significand. -/
theorem significand_mono (hp : 0 < p) (h : p ≤ q) (hplace : place p = place q) :
    significand p ≤ significand q := by
  have hpow : (0 : ℚ) < 2 ^ place q := zpow_pos (by norm_num) _
  have hdiv : p / 2 ^ place p ≤ q / 2 ^ place q := by
    rw [hplace]
    gcongr
  rw [le_significand_iff (hp.trans_le h)]
  rcases (le_significand_iff hp (significand p)).mp le_rfl with hlt | ⟨heq, heven⟩
  · left
    linarith
  · rcases hdiv.lt_or_eq with hlt | hdiv
    · left
      linarith
    · right
      exact ⟨by rw [heq, hdiv], heven⟩

/-- **Rounding is monotone**, at first for positive numbers. -/
theorem round_mono_of_pos (hp : 0 < p) (h : p ≤ q) : round p ≤ round q := by
  have hq : 0 < q := hp.trans_le h
  rw [round_eq hp, round_eq hq]
  rcases (place_mono hp h).lt_or_eq with hlt | heq
  · -- The larger number has a further bit, and rounding leaves a power of two between them.
    have hsmall : (significand p : ℚ) ≤ 2 ^ 53 := by exact_mod_cast significand_le hp
    have hlarge : (2 : ℚ) ^ 52 ≤ significand q := by
      exact_mod_cast le_significand hq ((least_le_place hp).trans_lt hlt)
    calc (significand p : ℚ) * 2 ^ place p ≤ 2 ^ 53 * 2 ^ place p := by gcongr
      _ = 2 ^ 52 * 2 ^ (place p + 1) := by
          rw [zpow_add₀ (by norm_num)]
          ring
      _ ≤ 2 ^ 52 * 2 ^ place q := by
          gcongr
          · norm_num
          · exact Int.add_one_le_of_lt hlt
      _ ≤ significand q * 2 ^ place q := by gcongr
  · rw [heq]
    gcongr
    exact significand_mono hp h heq

/-- Rounding is odd. -/
theorem round_neg (q : ℚ) : round (-q) = -round q := by
  rcases lt_trichotomy q.num 0 with hq | hq | hq
  · have hneg : ¬ -q.num < 0 := by omega
    have hne : -q.num ≠ 0 := by omega
    simp only [round, Rat.num_neg_eq_neg_num, Rat.den_neg_eq_den, Int.natAbs_neg, if_neg hneg,
      if_neg hne, if_neg hq.ne, if_pos hq, scaleByTwo_eq, Int.cast_neg, neg_mul, neg_neg]
  · simp [round, hq]
  · have hneg : -q.num < 0 := by omega
    have hne : -q.num ≠ 0 := by omega
    simp only [round, Rat.num_neg_eq_neg_num, Rat.den_neg_eq_den, Int.natAbs_neg, if_pos hneg,
      if_neg hne, if_neg hq.ne', if_neg (not_lt.mpr hq.le), scaleByTwo_eq, Int.cast_neg, neg_mul]

theorem round_zero : round 0 = 0 := by
  rw [round, if_pos Rat.num_zero]

/-- **Rounding is monotone.** -/
theorem round_mono : Monotone round := by
  intro p q h
  rcases lt_trichotomy p 0 with hp | rfl | hp
  · have hp' : 0 ≤ round (-p) := round_nonneg (by linarith)
    rw [round_neg] at hp'
    rcases lt_trichotomy q 0 with hq | rfl | hq
    · have hneg : round (-q) ≤ round (-p) := round_mono_of_pos (by linarith) (by linarith)
      rw [round_neg, round_neg] at hneg
      linarith
    · rw [round_zero]
      linarith
    · linarith [round_nonneg hq]
  · rcases h.lt_or_eq with hq | rfl
    · rw [round_zero]
      exact round_nonneg hq
    · exact le_rfl
  · exact round_mono_of_pos hp h

/-! ## Doubles -/

/-- A number with few enough bits is not rounded. -/
theorem round_of_place_le {m : Nat} {e : ℤ} (hq : (0 : ℚ) < m * 2 ^ e)
    (h : place (m * 2 ^ e) ≤ e) : round (m * 2 ^ e) = m * 2 ^ e := by
  have hmul := mul_zpow_of_le m h
  rw [round_eq hq, significand_of_eq hq hmul]
  exact hmul.symm

/-- A number with at most 53 bits above the least place is its own rounding. -/
theorem round_of_mul_zpow {m : Nat} {e : ℤ} (hm : m ≤ 2 ^ 53) (he : -1074 ≤ e) :
    round (m * 2 ^ e) = m * 2 ^ e := by
  rcases Nat.eq_zero_or_pos m with rfl | hpos
  · simp [round_zero]
  have hpow : (0 : ℚ) < 2 ^ e := by positivity
  rcases hm.lt_or_eq with hlt | rfl
  · have hq : (0 : ℚ) < m * 2 ^ e := by positivity
    refine round_of_place_le hq ((place_le_iff hq e).mpr ⟨he, ?_⟩)
    rw [add_comm, zpow_add₀ (by norm_num)]
    gcongr
    exact_mod_cast hlt
  · -- A power of two is the least number with the next place.
    have hnext : ((2 ^ 53 : Nat) : ℚ) * 2 ^ e = ((2 ^ 52 : Nat) : ℚ) * 2 ^ (e + 1) := by
      rw [zpow_add₀ (by norm_num)]
      norm_num
      ring
    rw [hnext]
    have hq : (0 : ℚ) < ((2 ^ 52 : Nat) : ℚ) * 2 ^ (e + 1) := by positivity
    refine round_of_place_le hq ((place_le_iff hq (e + 1)).mpr ⟨by omega, ?_⟩)
    have hlt : ((2 ^ 52 : Nat) : ℚ) < 2 ^ (53 : ℤ) := by norm_num
    rw [add_comm (e + 1), zpow_add₀ (by norm_num) 53]
    exact mul_lt_mul_of_pos_right hlt (by positivity)

/-- **A double times a power of two is exact.** -/
theorem round_mul_two_pow (hp : round p = p) (k : Nat) : round (p * 2 ^ k) = p * 2 ^ k := by
  have hpos : ∀ q : ℚ, 0 < q → round q = q → round (q * 2 ^ k) = q * 2 ^ k := by
    intro q hq hround
    rw [round_eq hq] at hround
    have hmul : q * 2 ^ k = significand q * 2 ^ (place q + k) := by
      rw [zpow_add₀ (by norm_num), zpow_natCast, ← mul_assoc, hround]
    have hleast := least_le_place hq
    rw [hmul]
    exact round_of_mul_zpow (significand_le hq) (by omega)
  rcases lt_trichotomy p 0 with hneg | rfl | hlt
  · have hround : round (-p) = -p := by rw [round_neg, hp]
    have hmul := hpos (-p) (by linarith) hround
    rwa [neg_mul, round_neg, neg_inj] at hmul
  · rw [zero_mul, round_zero]
  · exact hpos p hlt hp

/-- **A short difference is exact**: that of two doubles, if the larger one is at most twice the
smaller. -/
theorem round_sub_of_le_double (hp : round p = p) (hq : round q = q) (h : p ≤ q)
    (hdouble : q ≤ 2 * p) : round (q - p) = q - p := by
  rcases lt_trichotomy p 0 with hneg | rfl | hpos
  · linarith
  · rwa [sub_zero]
  have hqpos : 0 < q := hpos.trans_le h
  have hplace := place_mono hpos h
  have hleast := least_le_place hpos
  have hbits := significand_le hpos
  rw [round_eq hpos] at hp
  rw [round_eq hqpos] at hq
  -- Both are multiples of the last place of the smaller one, and so is their difference.
  have hmul : q = ((significand q * 2 ^ (place q - place p).toNat : Nat) : ℚ) * 2 ^ place p :=
    hq.symm.trans (mul_zpow_of_le _ hplace)
  generalize significand q * 2 ^ (place q - place p).toNat = n at hmul
  generalize significand p = m at hp hbits
  generalize place p = e at hp hmul hleast
  subst hp hmul
  have hpow : (0 : ℚ) < 2 ^ e := by positivity
  have hle : m ≤ n := by
    exact_mod_cast le_of_mul_le_mul_right h hpow
  have hle' : n ≤ 2 * m := by
    rw [← mul_assoc] at hdouble
    exact_mod_cast le_of_mul_le_mul_right hdouble hpow
  have hsub : (n : ℚ) * 2 ^ e - m * 2 ^ e = ((n - m : Nat) : ℚ) * 2 ^ e := by
    rw [Nat.cast_sub hle, sub_mul]
  rw [hsub]
  exact round_of_mul_zpow (by omega) hleast

end

end Binary64

end SourceAudit.Number
