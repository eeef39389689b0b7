import Mathlib.Data.Rat.Floor
import SourceAudit.Instant
import SourceAudit.Proofs.Number.Rounding

/-!
# SourceAudit.Proofs.Number.Moments

Moments from 1970 on, and the whole seconds between them. A reading of the clock is rounded to the
microsecond, and the time between two moments is rounded once more; but whole seconds are not lost
in that.

* `nearestEven_mono` — rounding to an integer is monotone;
* `microsOf_mono` and `microsOf_add` — the microseconds of a reading, and of one that is whole
  seconds later;
* `le_truncate_secondsUntil` — the time between two moments has as many whole seconds as that
  between the readings.
-/

namespace SourceAudit

open Number

namespace Number

variable {p q : ℚ}

theorem truncate_of_nonneg (hq : 0 ≤ q) : truncate q = ⌊q⌋ := by
  rw [truncate, Int.tdiv_eq_ediv_of_nonneg (Rat.num_nonneg.mpr hq), Rat.floor_def']

/-- A number is rounded to an even integer from half a unit below it on, and to an odd one only from
above that. -/
theorem le_nearestEven_iff (hq : 0 ≤ q) (k : Nat) : (k : ℤ) ≤ nearestEven q ↔
    (2 * k - 1 : ℚ) < 2 * q ∨ ((2 * k - 1 : ℚ) = 2 * q ∧ k % 2 = 0) := by
  have hnum : ¬ q.num < 0 := Int.not_lt.mpr (Rat.num_nonneg.mpr hq)
  have hquotient : ((q.num.natAbs : Nat) : ℚ) / q.den = q := by
    rw [← Int.cast_natCast (R := ℚ), Int.natAbs_of_nonneg (Rat.num_nonneg.mpr hq), Rat.num_div_den]
  simp only [nearestEven, if_neg hnum, Int.ofNat_le]
  rw [le_divNearestEven_iff k q.den_pos, hquotient]

theorem nearestEven_nonneg (hq : 0 ≤ q) : 0 ≤ nearestEven q := by
  refine (le_nearestEven_iff hq 0).mpr (Or.inl ?_)
  push_cast
  linarith

/-- **Rounding to an integer is monotone.** -/
theorem nearestEven_mono (hp : 0 ≤ p) (h : p ≤ q) : nearestEven p ≤ nearestEven q := by
  obtain ⟨k, hk⟩ := Int.eq_ofNat_of_zero_le (nearestEven_nonneg hp)
  rw [hk, le_nearestEven_iff (hp.trans h)]
  rcases (le_nearestEven_iff hp k).mp hk.ge with hlt | ⟨heq, heven⟩
  · left
    linarith
  · rcases h.lt_or_eq with hlt | rfl
    · left
      linarith
    · exact Or.inr ⟨heq, heven⟩

/-- A whole number is the nearest to itself. -/
theorem nearestEven_natCast (n : Nat) : nearestEven (n : ℚ) = n := by
  refine le_antisymm ?_ ((le_nearestEven_iff n.cast_nonneg n).mpr (Or.inl (by linarith)))
  by_contra hmore
  rcases (le_nearestEven_iff n.cast_nonneg (n + 1)).mp (by push_cast; omega) with h | ⟨h, -⟩ <;>
    · push_cast at h
      linarith

/-- An integer of at most 53 bits is a double. -/
theorem Binary64.round_natCast {n : Nat} (hn : n ≤ 2 ^ 53) : round (n : ℚ) = n := by
  have hround := round_of_mul_zpow hn (show (-1074 : ℤ) ≤ 0 by decide)
  simpa using hround

end Number

namespace Instant

variable {p q : ℚ} {t t' : Instant}

/-- The microseconds of a fraction of a second. -/
def fractionMicros (q : ℚ) : ℤ := nearestEven (Binary64.mul (Int.fract q) 1000000)

/-- The microseconds of a time that is not before 1970 are those of its whole seconds and of the
rest. -/
theorem microsOf_of_nonneg (hq : 0 ≤ q) : microsOf q = ⌊q⌋ * 1000000 + fractionMicros q := by
  simp only [microsOf, truncate_of_nonneg hq, fractionMicros, Int.fract]

theorem fraction_nonneg (q : ℚ) : 0 ≤ Binary64.mul (Int.fract q) 1000000 := by
  rw [← Binary64.round_zero]
  have := Int.fract_nonneg q
  exact Binary64.round_mono (by positivity)

theorem fractionMicros_nonneg (q : ℚ) : 0 ≤ fractionMicros q := nearestEven_nonneg (fraction_nonneg q)

/-- The rest of a time makes at most a whole second, which it can be rounded up to. -/
theorem fractionMicros_le (q : ℚ) : fractionMicros q ≤ 1000000 := by
  have hsecond : Binary64.round (1000000 : Nat) = (1000000 : Nat) :=
    Binary64.round_natCast (by norm_num)
  calc fractionMicros q ≤ nearestEven (Binary64.round (1000000 : Nat)) := by
        refine nearestEven_mono (fraction_nonneg q) (Binary64.round_mono ?_)
        have := Int.fract_lt_one q
        push_cast
        linarith
    _ = 1000000 := by rw [hsecond, nearestEven_natCast]; rfl

/-- **A later reading has no fewer microseconds.** -/
theorem microsOf_mono (hp : 0 ≤ p) (h : p ≤ q) : microsOf p ≤ microsOf q := by
  rw [microsOf_of_nonneg hp, microsOf_of_nonneg (hp.trans h)]
  rcases (Int.floor_mono h).lt_or_eq with hlt | heq
  · have := fractionMicros_le p
    have := fractionMicros_nonneg q
    omega
  · have hfract : Int.fract p ≤ Int.fract q := by
      rw [Int.fract, Int.fract, heq]
      linarith
    have hmicros : fractionMicros p ≤ fractionMicros q :=
      nearestEven_mono (fraction_nonneg p) (Binary64.round_mono (by linarith))
    omega

/-- Whole seconds are added as such. -/
theorem microsOf_add (hq : 0 ≤ q) (m : Nat) : microsOf (q + m) = microsOf q + m * 1000000 := by
  rw [microsOf_of_nonneg hq, microsOf_of_nonneg (by positivity), fractionMicros, fractionMicros,
    Int.fract_add_natCast, Int.floor_add_natCast]
  ring

/-- A time that is not before 1970 has no negative number of microseconds. -/
theorem microsOf_nonneg (hq : 0 ≤ q) : 0 ≤ microsOf q := by
  rw [microsOf_of_nonneg hq]
  have := Int.floor_nonneg.mpr hq
  have := fractionMicros_nonneg q
  omega

/-- A moment of the calendar has the microseconds of its reading. -/
theorem micros_of_ofEpoch (h : ofEpoch q = .ok t) :
    t.micros = microsOf q ∧ t.micros / 1000000 ≤ 253402300799 := by
  unfold ofEpoch inCalendar at h
  simp only at h
  split at h
  · simp at h
  · split at h
    · simp at h
    · split at h
      · simp at h
      · next hcalendar =>
        obtain rfl := Except.ok.inj h
        simp only [Bool.not_eq_true', Bool.and_eq_false_iff, decide_eq_false_iff_not, not_or,
          not_not] at hcalendar
        exact ⟨rfl, hcalendar.2⟩

/-- **Whole seconds are not lost**: if one reading is that many after another, so is its moment. -/
theorem le_truncate_secondsUntil (hp : 0 ≤ p) (ht : ofEpoch p = .ok t) (ht' : ofEpoch q = .ok t')
    {m : Nat} (h : p + m ≤ q) : (m : ℤ) ≤ truncate (t.secondsUntil t') := by
  obtain ⟨hmicros, -⟩ := micros_of_ofEpoch ht
  obtain ⟨hmicros', hcalendar⟩ := micros_of_ofEpoch ht'
  have hlater : t.micros + m * 1000000 ≤ t'.micros := by
    rw [hmicros, hmicros', ← microsOf_add hp]
    exact microsOf_mono (by positivity) h
  have hpast : 0 ≤ t.micros := by
    rw [hmicros]
    exact microsOf_nonneg hp
  have hbits : m ≤ 2 ^ 53 := by omega
  have hseconds : (m : ℚ) ≤ t.secondsUntil t' := by
    rw [secondsUntil, ← Binary64.round_natCast hbits]
    refine Binary64.round_mono ?_
    rw [Rat.mkRat_eq_div, le_div_iff₀ (by norm_num)]
    have hcast : (m * 1000000 : ℤ) ≤ t'.micros - t.micros := by omega
    exact_mod_cast hcast
  have hnonneg : (0 : ℚ) ≤ m := Nat.cast_nonneg m
  rw [truncate_of_nonneg (hnonneg.trans hseconds), Int.le_floor]
  exact_mod_cast hseconds

end Instant

end SourceAudit
