import SourceAudit.Proofs.Number.Digits
import SourceAudit.Proofs.Remote.Acceptance

/-!
# SourceAudit.Proofs.Remote.Legible

Which headers of a response can be read. A header that tells of the limit of requests may hold any
text, and most texts that name no number of requests and no moment are passed over. Those that are
not are few, and they make a response unusable, whatever its status.

* `LegibleCount`, `LegibleReset` and `LegibleDelay` — the values that do no harm;
* `epochHeader_ok_iff` and `retryAfter_ok_iff` — they are those that name a moment, or none;
* `legible_iff` — a response that is delivered can be used exactly if all that is looked at in it is
  legible.
-/

namespace SourceAudit.Remote

open Number Text Client

/-! ## Values -/

/-- A count of requests can be read. A text that does not consist of digits is passed over, and one
that does is a number if its digits are decimal ones and not too many. -/
def LegibleCount (value : String) : Prop :=
  value ≠ "" → (∀ ch ∈ value.toList, isAnyDigit ch = true) →
    (∀ ch ∈ value.toList, isDecimalDigit ch = true) ∧ value.toList.length ≤ maxDigits

/-- The number that a header holds, if it holds one. -/
def numberIn (value : Option String) : Option Int := value.bind readInt?

/-- The end of a limit can be read. A number of seconds that is too large for 64 bits is passed
over, and so is one beyond the year 9999; but a year that is too large for 32 bits is an error. -/
def LegibleReset (value : Option String) : Prop :=
  ∀ n, numberIn value = some n → -0x8000000000000000 ≤ n → n < 0x8000000000000000 →
    Instant.hasYear n = true

/-- The time to wait can be read at a moment: what is so many seconds later is in the calendar. -/
def LegibleDelay (value : Option String) (now : Rat) : Prop :=
  ∀ n, numberIn value = some n →
    -Binary64.bound < Binary64.round n ∧ Binary64.round n < Binary64.bound ∧
      ∃ t, Instant.ofEpoch (Binary64.add now (Binary64.round n)) = .ok t

/-- A response counts the requests that are left. -/
def Counts (r : Response) : Prop :=
  ∃ value, r.headers.get? "x-ratelimit-remaining" = some value ∧ value ≠ "" ∧
    ∀ ch ∈ value.toList, isAnyDigit ch = true

/-- All that is looked at in a response can be read. -/
structure Legible (r : Response) (now : Rat) : Prop where
  count : ∀ value, r.headers.get? "x-ratelimit-remaining" = some value → LegibleCount value
  /-- The end of the limit is looked at together with the count. -/
  renewal : Counts r → LegibleReset (r.headers.get? "x-ratelimit-reset")
  delay : r.isRateLimited = some true → LegibleDelay (r.headers.get? "retry-after") now
  /-- It is looked at once more if there is no other time to wait. -/
  reset : r.isRateLimited = some true → numberIn (r.headers.get? "retry-after") = none →
    LegibleReset (r.headers.get? "x-ratelimit-reset")
  /-- A refusal whose headers do not tell of a limit may do so in its text. -/
  text : r.isRateLimited ≠ none

section

variable {value : Option String} {now : Rat} {r : Response} {q : Query} {s : Session}

/-- An empty header is no number, as if it were missing. -/
theorem number_of_header (value : Option String) :
    (value.filter (· ≠ "")).bind readInt? = numberIn value := by
  cases value with
  | none => rfl
  | some text =>
      by_cases hempty : text = ""
      · subst hempty
        rfl
      · simp [Option.filter, hempty, numberIn]

/-! ## Moments -/

theorem microsOf_intCast (n : Int) : Instant.microsOf n = n * 1000000 := by
  have hwhole : truncate (n : Rat) = n := by simp [truncate]
  have hrest : Binary64.mul ((n : Rat) - (n : Rat)) 1000000 = 0 := by
    rw [Rat.sub_self, Binary64.mul, Rat.zero_mul]
    rfl
  have hzero : nearestEven 0 = 0 := by decide +kernel
  simp only [Instant.microsOf, hwhole, hrest, hzero, Int.add_zero]

/-- **Which ends of a limit can be read.** -/
theorem epochHeader_ok_iff :
    (∃ resetAt, Response.epochHeader value = .ok resetAt) ↔ LegibleReset value := by
  unfold Response.epochHeader LegibleReset
  rw [number_of_header]
  cases numberIn value with
  | none => simp
  | some n =>
      have hseconds : Instant.microsOf n / 1000000 = n := by
        rw [microsOf_intCast]
        omega
      simp only [Instant.ofEpoch, hseconds, Option.some.injEq, forall_eq']
      by_cases hlarge : n < -0x8000000000000000 ∨ 0x8000000000000000 ≤ n
      · rw [if_pos hlarge]
        exact iff_of_true ⟨none, rfl⟩ (by omega)
      rw [if_neg hlarge]
      rw [not_or, Int.not_lt, Int.not_le] at hlarge
      cases hyear : Instant.hasYear n with
      | false => simp [hlarge]
      | true => cases Instant.inCalendar n <;> simp

/-- **Which times to wait can be read.** -/
theorem retryAfter_ok_iff :
    (∃ resetAt, Response.retryAfter value now = .ok resetAt) ↔ LegibleDelay value now := by
  unfold Response.retryAfter LegibleDelay
  rw [number_of_header]
  cases numberIn value with
  | none => simp
  | some n =>
      simp only [Option.some.injEq, forall_eq']
      by_cases hlarge : Binary64.bound ≤ Binary64.round n ∨ Binary64.round n ≤ -Binary64.bound
      · rw [if_pos hlarge]
        refine iff_of_false (by simp) ?_
        rintro ⟨hleast, hmost, -⟩
        grind
      · rw [if_neg hlarge]
        rw [not_or, Rat.not_le, Rat.not_le] at hlarge
        simp only [hlarge, true_and]
        cases Instant.ofEpoch (Binary64.add now (Binary64.round n)) <;> simp [Except.map]

/-- A delay that can be read gives a moment, unless it is not a number. -/
theorem retryAfter_eq_none_iff (h : LegibleDelay value now) :
    Response.retryAfter value now = .ok none ↔ numberIn value = none := by
  unfold Response.retryAfter
  rw [number_of_header]
  cases hnumber : numberIn value with
  | none => simp
  | some n =>
      obtain ⟨-, -, t, ht⟩ := h n hnumber
      simp only
      split
      · simp
      · simp [ht, Except.map]

/-- **Which moments a limit may name**: by the time to wait, or else by its end. -/
theorem limitReset_ok_iff : (∃ resetAt, r.limitReset now = .ok resetAt) ↔
    LegibleDelay (r.headers.get? "retry-after") now ∧
      (numberIn (r.headers.get? "retry-after") = none →
        LegibleReset (r.headers.get? "x-ratelimit-reset")) := by
  rw [← retryAfter_ok_iff, ← epochHeader_ok_iff]
  unfold Response.limitReset
  cases hretry : Response.retryAfter (r.headers.get? "retry-after") now with
  | error e => simp
  | ok resetAt =>
      have hnone := retryAfter_eq_none_iff (retryAfter_ok_iff.mp ⟨resetAt, hretry⟩)
      rw [hretry] at hnone
      cases resetAt with
      | none => simp [hnone.mp rfl]
      | some t =>
          have hnumber : numberIn (r.headers.get? "retry-after") ≠ none := fun h => by
            simp [h] at hnone
          simp [hnumber]

/-! ## Responses -/

/-- **Which counts can be taken note of.** -/
theorem track_ok_iff : (∃ s', track s r = .ok s') ↔
    (∀ value, r.headers.get? "x-ratelimit-remaining" = some value → LegibleCount value) ∧
      (Counts r → LegibleReset (r.headers.get? "x-ratelimit-reset")) := by
  unfold track Counts
  rw [← epochHeader_ok_iff]
  cases r.headers.get? "x-ratelimit-remaining" with
  | none => simp
  | some value =>
      simp only [Option.some.injEq, forall_eq', exists_eq_left']
      by_cases hdigits : value ≠ "" ∧ ∀ ch ∈ value.toList, isAnyDigit ch = true
      · obtain ⟨hsome, hall⟩ := hdigits
        have hcount : LegibleCount value ↔ (readInt? value).isSome = true := by
          rw [readInt?_isSome_iff hsome hall]
          exact ⟨fun h => h hsome hall, fun h _ _ => h⟩
        rw [hcount, forall_prop_of_true ⟨hsome, hall⟩, if_neg (by simpa using ⟨hsome, hall⟩)]
        cases readInt? value with
        | none => simp
        | some n =>
            cases Response.epochHeader (r.headers.get? "x-ratelimit-reset") <;> simp
      · have hcount : LegibleCount value := fun hsome hall => absurd ⟨hsome, hall⟩ hdigits
        rw [if_pos (by simpa [Classical.or_iff_not_imp_left] using hdigits)]
        simp [hcount, hdigits]

/-- Only a 403 and a 429 can be for the rate limit. -/
theorem isRateLimited_of_status (h : r.status ≠ 403 ∧ r.status ≠ 429) :
    r.isRateLimited = some false := by
  simp [Response.isRateLimited, h]

/-- **Which refusals can be told from one another.** -/
theorem errorOf_usable_iff : (∀ cause, errorOf q r now ≠ some (.unusable cause)) ↔
    (r.isRateLimited = some true → ∃ resetAt, r.limitReset now = .ok resetAt) ∧
      r.isRateLimited ≠ none := by
  by_cases hstatus : r.status ≠ 403 ∧ r.status ≠ 429
  · have hfree := isRateLimited_of_status hstatus
    refine iff_of_true (fun cause => ?_) (by simp [hfree])
    unfold errorOf Response.error?
    grind
  · have hrefused : accepts q r.status = false := by
      have hconflict : r.status ≠ 409 := by omega
      cases q <;> simp [accepts, hconflict]
    have herror : ¬ r.status < 400 := by omega
    simp only [errorOf, hrefused, Bool.false_eq_true, if_false, Response.error?, if_neg herror]
    cases r.isRateLimited with
    | none => simp
    | some limited =>
        cases limited with
        | false => simp; grind
        | true => cases r.limitReset now <;> simp

/-- **Which responses can be used.** -/
theorem legible_iff : Legible r now ↔
    (∃ s', track s r = .ok s') ∧ ∀ cause, errorOf q r now ≠ some (.unusable cause) := by
  rw [track_ok_iff, errorOf_usable_iff, limitReset_ok_iff]
  constructor
  · rintro ⟨hcount, hrenewal, hdelay, hreset, htext⟩
    exact ⟨⟨hcount, hrenewal⟩, fun h => ⟨hdelay h, hreset h⟩, htext⟩
  · rintro ⟨⟨hcount, hrenewal⟩, hlimit, htext⟩
    exact ⟨hcount, hrenewal, fun h => (hlimit h).1, fun h => (hlimit h).2, htext⟩

end

end SourceAudit.Remote
