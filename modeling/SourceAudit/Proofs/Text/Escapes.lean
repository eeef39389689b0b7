import SourceAudit.Proofs.Text.Cutting
import SourceAudit.Proofs.Text.Utf8
import SourceAudit.Text.Percent

/-!
# SourceAudit.Proofs.Text.Escapes

Percent-encoded texts, by the characters that stand in them, and how they are read back. An escape
gives its byte and a safe character its bytes; a form-encoded value is one in which the blanks are
written as plus signs, and it has no plus signs of its own.

* `mem_percentChars` — each is a safe character of the text, or belongs to an escape;
* `percentChars_of_notMem` — a text that is encoded without an escape is not changed;
* `piecesBetween_percentPath`, `piecesBetween_percentKept` — the segments of a path are encoded one
  by one;
* `unpercent_percentChars` — an encoded text is read back if the percent sign is not safe;
* `unpercent_percentPath`, `unform_percentForm` — so are a path and the value of a parameter.
-/

namespace SourceAudit.Text

/-- The characters of an escape. -/
def escapeChars : List Char := '%' :: (List.range 16).map (hexDigit true)

theorem hexDigit_mem_escapeChars {n : Nat} (hn : n < 16) : hexDigit true n ∈ escapeChars :=
  List.mem_cons_of_mem _ (List.mem_map_of_mem (List.mem_range.mpr hn))

/-- An escaped byte is a percent sign and two digits. -/
theorem mem_escapeChars_of_mem_percentByte {b : UInt8} {d : Char} (h : d ∈ percentByte b) :
    d ∈ escapeChars := by
  have hb := b.toNat_lt
  simp only [percentByte, List.mem_cons, List.not_mem_nil, or_false] at h
  rcases h with rfl | rfl | rfl
  · exact List.mem_cons_self
  · exact hexDigit_mem_escapeChars (by omega)
  · exact hexDigit_mem_escapeChars (by omega)

section

variable {isSafe : Char → Bool} {c d : Char} {cs : List Char}

/-! ## One character -/

/-- A character is either safe and kept or escaped. -/
theorem mem_percentChar (h : d ∈ percentChar isSafe c) :
    d = c ∧ isSafe c = true ∨ d ∈ escapeChars := by
  rw [percentChar] at h
  split at h
  · next hsafe => exact .inl ⟨List.mem_singleton.mp h, hsafe⟩
  · obtain ⟨b, -, hd⟩ := List.mem_flatMap.mp h
    exact .inr (mem_escapeChars_of_mem_percentByte hd)

/-- A character that is not safe becomes escapes. -/
theorem exists_percentChar (h : isSafe c = false) : ∃ rest, percentChar isSafe c = '%' :: rest := by
  obtain ⟨b, bytes, hbytes⟩ : ∃ b bytes, String.utf8EncodeChar c = b :: bytes :=
    List.exists_cons_of_ne_nil String.utf8EncodeChar_ne_nil
  rw [percentChar, if_neg (by simp [h]), hbytes, List.flatMap_cons]
  exact ⟨_, rfl⟩

theorem percentChar_ne_nil (isSafe : Char → Bool) (c : Char) : percentChar isSafe c ≠ [] := by
  cases h : isSafe c with
  | true => simp [percentChar, h]
  | false =>
      obtain ⟨rest, hrest⟩ := exists_percentChar h
      simp [hrest]

/-! ## A text -/

/-- **The characters of an encoded text.** -/
theorem mem_percentChars (h : d ∈ cs.flatMap (percentChar isSafe)) :
    d ∈ cs ∧ isSafe d = true ∨ d ∈ escapeChars := by
  obtain ⟨c, hc, hd⟩ := List.mem_flatMap.mp h
  rcases mem_percentChar hd with ⟨rfl, hsafe⟩ | hescape
  · exact .inl ⟨hc, hsafe⟩
  · exact .inr hescape

/-- A text of safe characters is kept. -/
theorem percentChars_of_forall (h : ∀ c ∈ cs, isSafe c = true) :
    cs.flatMap (percentChar isSafe) = cs := by
  have hsame : cs.map (percentChar isSafe) = cs.map fun c => [c] :=
    List.map_congr_left fun c hc => if_pos (h c hc)
  rw [List.flatMap_def, hsame, ← List.flatMap_def, List.flatMap_singleton']

/-- **A text that is encoded without an escape** is not changed. -/
theorem percentChars_of_notMem (h : '%' ∉ cs.flatMap (percentChar isSafe)) :
    cs.flatMap (percentChar isSafe) = cs := by
  refine percentChars_of_forall fun c hc => ?_
  cases hsafe : isSafe c with
  | true => rfl
  | false =>
      obtain ⟨rest, hrest⟩ := exists_percentChar hsafe
      exact absurd (List.mem_flatMap.mpr ⟨c, hc, hrest ▸ List.mem_cons_self⟩) h

theorem percentChars_ne_nil (h : cs ≠ []) : cs.flatMap (percentChar isSafe) ≠ [] := by
  obtain ⟨c, cs, rfl⟩ := List.exists_cons_of_ne_nil h
  rw [List.flatMap_cons]
  exact List.append_ne_nil_of_left_ne_nil (percentChar_ne_nil isSafe c) _

/-- An encoded text starts as the text does, up to the first escape. -/
theorem prefix_of_prefix_percentChars {front : List Char} (hfront : '%' ∉ front)
    (h : front <+: cs.flatMap (percentChar isSafe)) : front <+: cs := by
  induction front generalizing cs with
  | nil => exact List.nil_prefix
  | cons d front ih =>
      obtain ⟨hd, hrest⟩ := List.ne_and_not_mem_of_not_mem_cons hfront
      cases cs with
      | nil => simp at h
      | cons c cs =>
          rw [List.flatMap_cons] at h
          cases hsafe : isSafe c with
          | true =>
              rw [percentChar, if_pos hsafe, List.singleton_append, List.cons_prefix_cons] at h
              exact List.cons_prefix_cons.mpr ⟨h.1, ih hrest h.2⟩
          | false =>
              obtain ⟨rest, hescape⟩ := exists_percentChar hsafe
              rw [hescape, List.cons_append, List.cons_prefix_cons] at h
              exact absurd h.1.symm hd

/-- Segments are encoded one by one if the slash is safe. -/
theorem piecesBetween_percentChars (h : isSafe '/' = true) (cs : List Char) :
    piecesBetween '/' (cs.flatMap (percentChar isSafe)) =
      (piecesBetween '/' cs).map (·.flatMap (percentChar isSafe)) := by
  have hslash : percentChar isSafe '/' = ['/'] := if_pos h
  refine piecesBetween_flatMap hslash (fun c hc hmem => ?_) cs
  rcases mem_percentChar hmem with ⟨rfl, -⟩ | hescape
  · exact hc rfl
  · exact absurd hescape (by decide)

end

/-- Slashes are kept in a path, so that its segments are escaped one by one. -/
theorem piecesBetween_percentPath (cs : List Char) :
    piecesBetween '/' (percentPath cs) = (piecesBetween '/' cs).map percentPath :=
  piecesBetween_percentChars (by decide) cs

theorem piecesBetween_percentKept {marks : List Char} (h : '/' ∉ marks) (cs : List Char) :
    piecesBetween '/' (percentKept marks cs) = (piecesBetween '/' cs).map (percentKept marks) :=
  piecesBetween_percentChars (by simp [isKept, h]) cs

/-! ## Characters that are kept -/

/-- What is escaped in this way needs no more escaping. -/
theorem isKept_of_mem_percentKept {marks cs : List Char} {c : Char}
    (hmarks : ∀ d ∈ escapeChars, d ∉ marks) (h : c ∈ percentKept marks cs) :
    isKept marks c = true := by
  have hvisible : ∀ d ∈ escapeChars, 0x20 < d.toNat ∧ d.toNat < 0x7F :=
    forall_of_all (by decide)
  rcases mem_percentChars h with ⟨-, hkept⟩ | hescape
  · exact hkept
  · simp [isKept, hvisible c hescape, hmarks c hescape]

theorem toNat_lt_of_isUnreserved {c : Char} (h : isUnreserved c = true) : c.toNat < 0x80 := by
  simp only [isUnreserved, isAsciiLetter, isAsciiDigit, Bool.or_eq_true, Bool.and_eq_true,
    decide_eq_true_eq, beq_iff_eq] at h
  rcases h with (((((⟨-, h⟩ | ⟨-, h⟩) | ⟨-, h⟩) | rfl) | rfl) | rfl) | rfl
  · exact Nat.lt_of_le_of_lt h (by decide)
  · exact Nat.lt_of_le_of_lt h (by decide)
  · exact Nat.lt_of_le_of_lt h (by decide)
  all_goals decide

/-! ## Reading back escapes -/

/-- A digit has the value that it was written for. -/
theorem hexValue?_hexDigit {n : Nat} (h : n < 16) : hexValue? (hexDigit true n) = some n := by
  have hall : ∀ n ∈ List.range 16, hexValue? (hexDigit true n) = some n := by decide
  exact hall n (List.mem_range.mpr h)

theorem unpercent_percentByte (b : UInt8) (rest : List Char) :
    unpercent (percentByte b ++ rest) = b :: unpercent rest := by
  have hb := b.toNat_lt
  have hvalue : b.toNat / 16 * 16 + b.toNat % 16 = b.toNat := by omega
  simp only [percentByte, List.cons_append, List.nil_append, unpercent,
    hexValue?_hexDigit (show b.toNat / 16 < 16 by omega),
    hexValue?_hexDigit (show b.toNat % 16 < 16 by omega), hvalue, UInt8.ofNat_toNat]

/-- Escaped bytes are read back. -/
theorem unpercent_percentBytes (bs : List UInt8) (rest : List Char) :
    unpercent (bs.flatMap percentByte ++ rest) = bs ++ unpercent rest := by
  induction bs with
  | nil => rfl
  | cons b bs ih =>
      rw [List.flatMap_cons, List.append_assoc, unpercent_percentByte, ih, List.cons_append]

theorem unpercent_cons {c : Char} (h : c ≠ '%') (rest : List Char) :
    unpercent (c :: rest) = String.utf8EncodeChar c ++ unpercent rest := by
  rw [unpercent]
  rintro a b cs rfl
  exact absurd rfl h

/-! ## Reading back texts -/

section

variable {isSafe : Char → Bool}

/-- A character, escaped or not, is read back as its bytes, if percent signs are escaped. -/
theorem unpercent_percentChar (h : isSafe '%' = false) (c : Char) (rest : List Char) :
    unpercent (percentChar isSafe c ++ rest) = String.utf8EncodeChar c ++ unpercent rest := by
  rw [percentChar]
  split
  · next hsafe =>
    refine unpercent_cons ?_ rest
    rintro rfl
    simp [h] at hsafe
  · exact unpercent_percentBytes _ rest

/-- **An encoded text is read back** if the percent sign is encoded. -/
theorem unpercent_percentChars (h : isSafe '%' = false) (cs : List Char) :
    unpercent (cs.flatMap (percentChar isSafe)) = encode cs := by
  induction cs with
  | nil => rfl
  | cons c cs ih =>
      rw [List.flatMap_cons, unpercent_percentChar h, ih, encode, encode, List.flatMap_cons]

end

/-- **An escaped path is read back.** -/
theorem unpercent_percentPath (cs : List Char) : unpercent (percentPath cs) = encode cs :=
  unpercent_percentChars (by decide) cs

/-! ## Reading back forms -/

/-- The characters of a form-encoded value. -/
theorem mem_percentForm {cs : List Char} {d : Char} (h : d ∈ percentForm cs) :
    d = '+' ∨ isUnreserved d = true ∨ d ∈ escapeChars := by
  obtain ⟨c, -, hd⟩ := List.mem_flatMap.mp h
  split at hd
  · exact .inl (List.mem_singleton.mp hd)
  · rcases mem_percentChar hd with ⟨rfl, hsafe⟩ | hescape
    · exact .inr (.inl hsafe)
    · exact .inr (.inr hescape)

/-- With its plus signs read as blanks, a form-encoded value is a text in which blanks are safe. -/
theorem map_percentForm (cs : List Char) :
    ((percentForm cs).map fun c => if c = '+' then ' ' else c) =
      cs.flatMap (percentChar fun c => isUnreserved c || c == ' ') := by
  rw [percentForm, List.map_flatMap, List.flatMap_def, List.flatMap_def]
  refine congrArg List.flatten (List.map_congr_left fun c _ => ?_)
  split
  · next hblank =>
    subst hblank
    rfl
  · next hblank =>
    have hsame : percentChar (fun c => isUnreserved c || c == ' ') c =
        percentChar isUnreserved c := by
      simp only [percentChar, beq_false_of_ne hblank, Bool.or_false]
    rw [hsame]
    refine (List.map_congr_left fun d hd => if_neg ?_).trans (List.map_id' _)
    rintro rfl
    rcases mem_percentChar hd with ⟨rfl, hsafe⟩ | hescape
    · exact absurd hsafe (by decide)
    · exact absurd hescape (by decide)

/-- **An escaped value of a query is read back.** -/
theorem unform_percentForm (cs : List Char) : unform (percentForm cs) = encode cs := by
  rw [unform, map_percentForm]
  exact unpercent_percentChars (by decide) cs

end SourceAudit.Text
