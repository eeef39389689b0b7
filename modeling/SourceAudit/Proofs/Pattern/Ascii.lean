import SourceAudit.Pattern.Subject

/-!
# SourceAudit.Proofs.Pattern.Ascii

The word characters and the decimal digits among the ASCII characters, for which the written maps of
the traits need only be read up to the first run that goes beyond them.

* `isWordCode_ascii` — the word characters are the letters, the digits and the underscore;
* `isDecimal_ascii` — the decimal digits are `0` to `9`.
-/

namespace SourceAudit

open Text

namespace Text

/-- Runs beyond the ASCII characters do not count for these. -/
theorem CodeMap.ascii_addRuns {m : CodeMap} {start : Nat} (h : 128 ≤ start) (runs : List Nat) :
    (addRuns m start runs).ascii = m.ascii := by
  fun_induction addRuns m start runs with
  | case1 m start length value rest ascii ih =>
      rw [ih (by omega)]
      simp [ascii, Nat.sub_eq_zero_of_le h]
  | case2 => rfl

/-- The ASCII part of a written map is that of its first runs, if these go beyond ASCII. -/
theorem CodeMap.ascii_ofTexts (runs : List Nat) (start : Nat) {pieces : List String}
    {lead rest : List Char} {m : CodeMap} (htext : pieces.flatMap String.toList = lead ++ rest)
    (hlead : numbers 0 (lead ++ rest) = runs ++ numbers 0 rest)
    (hruns : addRuns ⟨#[], #[], #[]⟩ 0 (runs ++ numbers 0 rest) = addRuns m start (numbers 0 rest))
    (hstart : 128 ≤ start) : (ofTexts pieces).ascii = m.ascii := by
  rw [ofTexts, htext, hlead, hruns, ascii_addRuns hstart]

/-! ## Word characters -/

/-- The first runs of the map of word characters. -/
def wordRuns : List Nat := [48, 0, 10, 1, 7, 0, 26, 1, 4, 0, 1, 1, 1, 0, 26, 1, 47, 0]

/-- The map with these runs only. -/
def wordLead : CodeMap := CodeMap.addRuns ⟨#[], #[], #[]⟩ 0 wordRuns

/-- The place of the word characters in the table of traits. -/
theorem traitNamed?_word : traitNamed? "WORD" = some 46 := by decide +kernel

theorem allTraits_word : ∃ pieces rest, allTraits[46]? = some (.flag "WORD" pieces) ∧
    pieces.flatMap String.toList = "WH0A170Q1401110Q1WG0".toList ++ rest := by
  have hclass : allTraits[46]? = classTraits[7]? := rfl
  have hword : ∃ pieces, classTraits[7]? = some (.flag "WORD" pieces) ∧
      (pieces.flatMap String.toList).take 20 = "WH0A170Q1401110Q1WG0".toList := by
    refine ⟨_, rfl, ?_⟩
    decide +kernel
  obtain ⟨pieces, htrait, hlead⟩ := hword
  refine ⟨pieces, (pieces.flatMap String.toList).drop 20, hclass.trans htrait, ?_⟩
  rw [← hlead, List.take_append_drop]

/-! ## Categories -/

/-- The first runs of the map of general categories. -/
def categoryRuns : List Nat :=
  [32, 26, 1, 23, 3, 18, 1, 20, 3, 18, 1, 14, 1, 15, 1, 18, 1, 19, 1, 18, 1, 13, 2, 18, 10, 9, 2, 18,
    3, 19, 2, 18, 26, 1, 1, 14, 1, 18, 1, 15, 1, 21, 1, 12, 1, 21, 26, 2, 1, 14, 1, 19, 1, 15, 1, 19,
    33, 26]

/-- The map with these runs only. -/
def categoryLead : CodeMap := CodeMap.addRuns ⟨#[], #[], #[]⟩ 0 categoryRuns

theorem allTraits_category : ∃ names values pieces rest,
    allTraits[0]? = some (.ofTexts names values pieces) ∧ pieces.flatMap String.toList =
      "W1Q1N3I1K3I1E1F1I1J1I1D2IA92I3J2IQ11E1I1F1L1C1LQ21E1J1F1JW2Q".toList ++ rest := by
  have hfirst : allTraits[0]? = categoryTraits[0]? := rfl
  have hcategory : ∃ names values pieces,
      categoryTraits[0]? = some (.ofTexts names values pieces) ∧
      (pieces.flatMap String.toList).take 60 =
        "W1Q1N3I1K3I1E1F1I1J1I1D2IA92I3J2IQ11E1I1F1L1C1LQ21E1J1F1JW2Q".toList := by
    refine ⟨_, _, _, rfl, ?_⟩
    decide +kernel
  obtain ⟨names, values, pieces, htrait, hlead⟩ := hcategory
  refine ⟨names, values, pieces, (pieces.flatMap String.toList).drop 60, hfirst.trans htrait, ?_⟩
  rw [← hlead, List.take_append_drop]

end Text

namespace Pattern

/-- **The ASCII word characters** are the letters, the digits and the underscore. -/
theorem isWordCode_ascii {code : Nat} (h : code < 128) :
    Subject.isWordCode false code = isAsciiWord (Char.ofNat code) := by
  obtain ⟨pieces, rest, htrait, htext⟩ := allTraits_word
  have hascii : (CodeMap.ofTexts pieces).ascii = wordLead.ascii :=
    CodeMap.ascii_ofTexts wordRuns 170 htext rfl rfl (by decide)
  have hvalue : traitValue 46 code = wordLead.ascii.getD code 0 := by
    rw [traitValue, htrait, ← hascii]
    simp only [Trait.get, CodeMap.get, if_pos h]
    rfl
  have hproperty : Subject.wordProperty = ⟨46, [1], false⟩ := by
    rw [Subject.wordProperty, traitNamed?_word, Option.getD_some]
  have hall : ∀ code < 128,
      [1].contains (wordLead.ascii.getD code 0) = isAsciiWord (Char.ofNat code) := by
    decide +kernel
  rw [Subject.isWordCode, hproperty, Property.holds, Bool.false_and, hvalue, hall code h,
    if_neg Bool.false_ne_true, Bool.bne_false]

/-- **The ASCII decimal digits** are `0` to `9`. -/
theorem isDecimal_ascii {code : Nat} (h : code < 128) :
    (⟨0, [9], false⟩ : Property).holds false code = isAsciiDigit (Char.ofNat code) := by
  obtain ⟨names, values, pieces, rest, htrait, htext⟩ := allTraits_category
  have hascii : (CodeMap.ofTexts pieces).ascii = categoryLead.ascii :=
    CodeMap.ascii_ofTexts categoryRuns 160 htext rfl rfl (by decide)
  have hvalue : traitValue 0 code = categoryLead.ascii.getD code 0 := by
    rw [traitValue, htrait, ← hascii]
    simp only [Trait.get, CodeMap.get, if_pos h]
    rfl
  have hall : ∀ code < 128,
      [9].contains (categoryLead.ascii.getD code 0) = isAsciiDigit (Char.ofNat code) := by
    decide +kernel
  rw [Property.holds, Bool.false_and, hvalue, hall code h, if_neg Bool.false_ne_true,
    Bool.bne_false]

end Pattern

end SourceAudit
