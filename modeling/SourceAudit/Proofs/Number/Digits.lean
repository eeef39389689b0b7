import SourceAudit.Number.Reading
import SourceAudit.Proofs.Text.Cutting

/-!
# SourceAudit.Proofs.Number.Digits

Texts that consist of digits. Such a text is read as a number exactly if its digits are decimal ones
and there are not too many of them; among the digits of the widest sense, those that are not decimal
make the reading fail.

* `readDigits?_of_forall` and `readDigits?_of_exists` — what is read of digits one after the other;
* `readInt?_isSome_iff` — which texts of digits are numbers.
-/

namespace SourceAudit.Number

open Text

/-! ## Characters -/

/-- A digit is no blank. -/
theorem not_isBlank_of_isAnyDigit {c : Char} (h : isAnyDigit c = true) : isBlank c = false :=
  not_isBlank_of_codes (by decide +kernel) h

theorem ne_of_isAnyDigit {c d : Char} (h : isAnyDigit c = true) (hd : isAnyDigit d = false) :
    c ≠ d := by
  rintro rfl
  simp [h] at hd

variable {cs : List Char}

/-- Digits have no sign. -/
theorem splitSign_of_digits (h : ∀ c ∈ cs, isAnyDigit c = true) : splitSign cs = (false, cs) := by
  cases cs with
  | nil => rfl
  | cons c cs =>
      have hc := h c List.mem_cons_self
      have hminus : c ≠ '-' := ne_of_isAnyDigit hc (by decide +kernel)
      have hplus : c ≠ '+' := ne_of_isAnyDigit hc (by decide +kernel)
      unfold splitSign
      split <;> simp_all

/-! ## Digits one after the other -/

/-- Decimal digits are read, however many there are, and are all counted. -/
theorem readDigits?_of_forall (afterDigit : Bool) (count value : Nat)
    (hsome : afterDigit = true ∨ cs ≠ []) (h : ∀ c ∈ cs, isDecimalDigit c = true) :
    ∃ value', readDigits? afterDigit count value cs = some (count + cs.length, value') := by
  induction cs generalizing afterDigit count value with
  | nil =>
      have hafter : afterDigit = true := hsome.resolve_right (by simp)
      exact ⟨value, by simp [readDigits?, hafter]⟩
  | cons c cs ih =>
      obtain ⟨hc, hcs⟩ := List.forall_mem_cons.mp h
      obtain ⟨d, hd⟩ := Option.isSome_iff_exists.mp hc
      have hunderscore : c ≠ '_' := by
        rintro rfl
        exact absurd hc (by decide +kernel)
      obtain ⟨value', hrest⟩ := ih true (count + 1) (value * 10 + d) (Or.inl rfl) hcs
      refine ⟨value', ?_⟩
      rw [readDigits?, if_neg hunderscore, hd]
      simp only [hrest, List.length_cons]
      congr 2
      omega

/-- Digits are not read if one of them has no decimal value. -/
theorem readDigits?_of_exists {afterDigit : Bool} (count value : Nat)
    (hdigits : ∀ c ∈ cs, isAnyDigit c = true) (h : ∃ c ∈ cs, isDecimalDigit c = false) :
    readDigits? afterDigit count value cs = none := by
  induction cs generalizing afterDigit count value with
  | nil => simp at h
  | cons c cs ih =>
      obtain ⟨hc, hcs⟩ := List.forall_mem_cons.mp hdigits
      have hunderscore : c ≠ '_' := ne_of_isAnyDigit hc (by decide +kernel)
      rw [readDigits?, if_neg hunderscore]
      cases hd : digitValue? c with
      | none => rfl
      | some d =>
          obtain ⟨loose, hmem, hloose⟩ := h
          have hrest : ∃ c ∈ cs, isDecimalDigit c = false := by
            rcases List.mem_cons.mp hmem with rfl | hmem
            · simp [isDecimalDigit, hd] at hloose
            · exact ⟨loose, hmem, hloose⟩
          exact ih (count + 1) (value * 10 + d) hcs hrest

/-- **Which texts of digits are numbers**: those of decimal digits, as long as they are not too
many. -/
theorem readInt?_isSome_iff {s : String} (hsome : s ≠ "")
    (h : ∀ c ∈ s.toList, isAnyDigit c = true) :
    (readInt? s).isSome = true ↔
      (∀ c ∈ s.toList, isDecimalDigit c = true) ∧ s.toList.length ≤ maxDigits := by
  have hne : s.toList ≠ [] := fun hnil => hsome (String.toList_eq_nil_iff.mp hnil)
  have hblanks : ∀ c ∈ s.toList, isBlank c = false := fun c hc => not_isBlank_of_isAnyDigit (h c hc)
  rw [readInt?, strip_of_forall hblanks, splitSign_of_digits h]
  by_cases hdecimal : ∀ c ∈ s.toList, isDecimalDigit c = true
  · obtain ⟨value, hread⟩ := readDigits?_of_forall false 0 0 (Or.inr hne) hdecimal
    rw [and_iff_right hdecimal]
    simp only [hread, Nat.zero_add]
    split <;> simp [*]
  · have hloose : ∃ c ∈ s.toList, isDecimalDigit c = false := by
      simpa using hdecimal
    simp [readDigits?_of_exists 0 0 h hloose, hdecimal]

end SourceAudit.Number
