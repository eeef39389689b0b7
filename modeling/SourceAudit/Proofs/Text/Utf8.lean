import SourceAudit.Text.Utf8

/-!
# SourceAudit.Proofs.Text.Utf8

Texts are read back from their bytes. The reader goes through the bytes of a character one by one:
the first one tells how many there are, and what the next one may be; the others add six bits each.

* `start_two`, `start_three`, `start_four` — the first byte of a character;
* `decodeFrom_last`, `decodeFrom_more` — a further byte of it;
* `decode_encode` — a text is read back from its bytes;
* `decode?_encode`, `encode_of_decode?` — the well-formed sequences of bytes are those of texts.
-/

namespace SourceAudit.Text

namespace Utf8

section

variable {n : Nat}

theorem lt_ofNat_iff (hn : n < 256) (b : UInt8) : UInt8.ofNat n < b ↔ n < b.toNat := by
  rw [UInt8.lt_iff_toNat_lt, UInt8.toNat_ofNat', Nat.mod_eq_of_lt hn]

theorem ofNat_eq_iff (hn : n < 256) (b : UInt8) : UInt8.ofNat n = b ↔ n = b.toNat := by
  rw [← UInt8.toNat_inj, UInt8.toNat_ofNat', Nat.mod_eq_of_lt hn]

/-! ## The first byte -/

/-- A byte below 128 is a character. -/
theorem start_one (h : n < 0x80) : start (UInt8.ofNat n) = ([Char.ofNat n], none) := by
  have hn : n < 256 := by omega
  simp only [start, lt_ofNat_iff hn, UInt8.toNat_ofNat', Nat.mod_eq_of_lt hn, UInt8.reduceToNat]
  rw [if_pos h]

/-- The other first bytes tell how many bytes are missing, and in which range the next one is. -/
theorem start_two (hle : 0xC2 ≤ n) (hlt : n < 0xE0) :
    start (UInt8.ofNat n) = ([], some ⟨n - 0xC0, 0, 0x80, 0xBF⟩) := by
  have hn : n < 256 := by omega
  simp only [start, lt_ofNat_iff hn, UInt8.toNat_ofNat', Nat.mod_eq_of_lt hn, UInt8.reduceToNat]
  rw [if_neg (by omega), if_neg (by omega), if_pos (by omega)]

theorem start_three (hle : 0xE0 ≤ n) (hlt : n < 0xF0) :
    start (UInt8.ofNat n) = ([], some ⟨n - 0xE0, 1, if n = 0xE0 then 0xA0 else 0x80,
      if n = 0xED then 0x9F else 0xBF⟩) := by
  have hn : n < 256 := by omega
  by_cases hfirst : n = 0xE0
  · subst hfirst
    rfl
  by_cases hsurrogate : n = 0xED
  · subst hsurrogate
    rfl
  simp only [start, lt_ofNat_iff hn, ofNat_eq_iff hn, UInt8.toNat_ofNat', Nat.mod_eq_of_lt hn,
    UInt8.reduceToNat]
  rw [if_neg (by omega), if_neg (by omega), if_neg (by omega), if_neg hfirst, if_neg hsurrogate,
    if_pos hlt, if_neg hfirst, if_neg hsurrogate]

theorem start_four (hle : 0xF0 ≤ n) (hlt : n ≤ 0xF4) :
    start (UInt8.ofNat n) = ([], some ⟨n - 0xF0, 2, if n = 0xF0 then 0x90 else 0x80,
      if n = 0xF4 then 0x8F else 0xBF⟩) := by
  have hn : n < 256 := by omega
  by_cases hfirst : n = 0xF0
  · subst hfirst
    rfl
  by_cases hlast : n = 0xF4
  · subst hlast
    rfl
  simp only [start, lt_ofNat_iff hn, ofNat_eq_iff hn, UInt8.toNat_ofNat', Nat.mod_eq_of_lt hn,
    UInt8.reduceToNat]
  rw [if_neg (by omega), if_neg (by omega), if_neg (by omega), if_neg (by omega),
    if_neg (by omega), if_neg (by omega), if_neg hfirst, if_pos (by omega), if_neg hfirst,
    if_neg hlast]

/-! ## The other bytes -/

theorem step_some {p : Pending} (hlow : p.low.toNat ≤ n) (hhigh : n ≤ p.high.toNat) :
    step (some p) (UInt8.ofNat n) = match p.missing with
      | 0 => ([Char.ofNat (p.code * 64 + (n - 0x80))], none)
      | missing + 1 => ([], some ⟨p.code * 64 + (n - 0x80), missing, 0x80, 0xBF⟩) := by
  have hn : n < 256 := Nat.lt_of_le_of_lt hhigh p.high.toNat_lt
  have hin : p.low ≤ UInt8.ofNat n ∧ UInt8.ofNat n ≤ p.high := by
    rw [UInt8.le_iff_toNat_le, UInt8.le_iff_toNat_le, UInt8.toNat_ofNat', Nat.mod_eq_of_lt hn]
    exact ⟨hlow, hhigh⟩
  have hvalue : (UInt8.ofNat n).toNat = n := by rw [UInt8.toNat_ofNat', Nat.mod_eq_of_lt hn]
  cases hmissing : p.missing <;> simp only [step, if_pos hin, hvalue, hmissing]

variable {code : Nat} {low high : UInt8} {bs : List UInt8}

/-- The last byte of a character. -/
theorem decodeFrom_last (hlow : low.toNat ≤ n) (hhigh : n ≤ high.toNat) :
    decodeFrom (some ⟨code, 0, low, high⟩) (UInt8.ofNat n :: bs) =
      Char.ofNat (code * 64 + (n - 0x80)) :: decodeFrom none bs := by
  rw [decodeFrom, step_some hlow hhigh]
  rfl

/-- A byte of a character that more of them follow. -/
theorem decodeFrom_more {missing : Nat} (hlow : low.toNat ≤ n) (hhigh : n ≤ high.toNat) :
    decodeFrom (some ⟨code, missing + 1, low, high⟩) (UInt8.ofNat n :: bs) =
      decodeFrom (some ⟨code * 64 + (n - 0x80), missing, 0x80, 0xBF⟩) bs := by
  rw [decodeFrom, step_some hlow hhigh]
  rfl

/-- After a first byte, the bytes that are missing are decoded. -/
theorem decodeFrom_start {p : Pending} (h : start (UInt8.ofNat n) = ([], some p)) :
    decodeFrom none (UInt8.ofNat n :: bs) = decodeFrom (some p) bs := by
  rw [decodeFrom, step, h]
  rfl

/-! ## Characters -/

/-- **A character is read back from its bytes.** -/
theorem decodeFrom_utf8EncodeChar (c : Char) (bs : List UInt8) :
    decodeFrom none (String.utf8EncodeChar c ++ bs) = c :: decodeFrom none bs := by
  have hchar : ∀ v, v = c.toNat → Char.ofNat v :: decodeFrom none bs = c :: decodeFrom none bs := by
    rintro v rfl
    rw [Char.ofNat_toNat]
  have hvalid : c.toNat < 0xD800 ∨ 0xDFFF < c.toNat ∧ c.toNat < 0x110000 := c.valid
  have hval : c.val.toNat = c.toNat := rfl
  unfold String.utf8EncodeChar
  simp only [hval]
  generalize c.toNat = v at hchar hvalid
  split
  · rw [List.singleton_append, decodeFrom, step, start_one (by omega)]
    exact hchar v rfl
  · split
    · rw [List.cons_append, List.singleton_append, decodeFrom_start (start_two (by omega) (by omega)),
        decodeFrom_last (by simp) (by simp; omega)]
      exact hchar _ (by omega)
    · split
      · rw [List.cons_append, List.cons_append, List.singleton_append,
          decodeFrom_start (start_three (by omega) (by omega)), decodeFrom_more, decodeFrom_last]
        · exact hchar _ (by omega)
        · simp
        · simp; omega
        · split <;> simp
          omega
        · split <;> simp <;> omega
      · rw [List.cons_append, List.cons_append, List.cons_append, List.singleton_append,
          decodeFrom_start (start_four (by omega) (by omega)), decodeFrom_more, decodeFrom_more,
          decodeFrom_last]
        · exact hchar _ (by omega)
        · simp
        · simp; omega
        · simp
        · simp; omega
        · split <;> simp
          omega
        · split <;> simp <;> omega

end

end Utf8

/-! ## Texts -/

/-- Texts are encoded one after the other. -/
theorem encode_append (cs ds : List Char) : encode (cs ++ ds) = encode cs ++ encode ds :=
  List.flatMap_append

/-- **A text is read back from its bytes.** -/
theorem decode_encode (cs : List Char) : decode (encode cs) = cs := by
  rw [decode]
  induction cs with
  | nil => rfl
  | cons c cs ih =>
      rw [encode, List.flatMap_cons, Utf8.decodeFrom_utf8EncodeChar]
      exact congrArg (c :: ·) ih

/-- What is encoded is valid. -/
theorem decode?_encode (cs : List Char) : decode? (encode cs) = some cs := by
  simp only [decode?, decode_encode, if_true]

/-- Well-formed bytes are those of their text. -/
theorem encode_of_decode? {bs : List UInt8} {cs : List Char} (h : decode? bs = some cs) :
    encode cs = bs := by
  simp only [decode?] at h
  split at h
  · next hencode =>
    obtain rfl := Option.some.inj h
    exact hencode
  · simp at h

end SourceAudit.Text
