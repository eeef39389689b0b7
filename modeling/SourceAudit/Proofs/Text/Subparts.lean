import Mathlib.Data.List.Basic
import SourceAudit.Proofs.Text.Utf8

/-!
# SourceAudit.Proofs.Text.Subparts

What ill-formed bytes are read as. Where no character starts, the longest part that begins one is
read as one replacement character, or the first byte if there is no such part. The reader decides
byte by byte: its state tells which byte may come next, and a byte may come next exactly if some
character begins with it and those before.

* `Decodes` — the text of any bytes, told without a reader;
* `Reached.begins_iff` — what the reader takes for the continuation of a character is one;
* `decodes_iff` — the reader finds the one text there is.
-/

namespace SourceAudit.Text

/-! ## The text of any bytes -/

/-- The bytes begin a character. -/
def Begins (bs : List UInt8) : Prop := ∃ c : Char, bs <+: String.utf8EncodeChar c

/-- No character starts before `part` and `rest`, and `part` is the longest part of these bytes that
begins one, or else the first byte. -/
structure IllFormed (part rest : List UInt8) : Prop where
  ne_nil : part ≠ []
  no_char : ∀ c : Char, ¬ String.utf8EncodeChar c <+: part ++ rest
  begins : part.length = 1 ∨ Begins part
  longest : ∀ more, more <+: part ++ rest → Begins more → more.length ≤ part.length

/-- The text of bytes: each ill-formed part is read as one replacement character. -/
inductive Decodes : List UInt8 → List Char → Prop
  | nil : Decodes [] []
  | char (c : Char) {bs : List UInt8} {cs : List Char} (h : Decodes bs cs) :
      Decodes (String.utf8EncodeChar c ++ bs) (c :: cs)
  | illFormed {part rest : List UInt8} {cs : List Char} (hpart : IllFormed part rest)
      (h : Decodes rest cs) : Decodes (part ++ rest) (replacement :: cs)

section

variable {c d : Char} {bs bs' part part' rest rest' : List UInt8} {cs cs' : List Char}

/-- What goes on beyond the front goes on with what follows it. -/
theorem isPrefix_or_next {front more : List UInt8} (h : more <+: front ++ bs) :
    more <+: front ∨ ∃ b ∈ bs.head?, front ++ [b] <+: more := by
  rcases List.prefix_or_prefix_of_prefix h (List.prefix_append front bs) with hshort | ⟨t, rfl⟩
  · exact .inl hshort
  · cases t with
    | nil => exact .inl (by simp)
    | cons b t =>
        obtain ⟨rest, rfl⟩ := (List.prefix_append_right_inj front).mp h
        exact .inr ⟨b, rfl, t, by simp⟩

/-- Characters are told apart by their bytes, whatever follows. -/
theorem utf8EncodeChar_append_inj
    (h : String.utf8EncodeChar c ++ bs = String.utf8EncodeChar d ++ bs') : c = d ∧ bs = bs' := by
  have hread := congrArg (Utf8.decodeFrom none) h
  rw [Utf8.decodeFrom_utf8EncodeChar, Utf8.decodeFrom_utf8EncodeChar] at hread
  obtain rfl := (List.cons.inj hread).1
  exact ⟨rfl, List.append_cancel_left h⟩

/-- No encoding of a character begins that of another. -/
theorem eq_of_utf8EncodeChar_isPrefix
    (h : String.utf8EncodeChar c <+: String.utf8EncodeChar d) : c = d := by
  obtain ⟨bs, hbs⟩ := h
  exact (utf8EncodeChar_append_inj (hbs.trans (List.append_nil _).symm)).1

/-- What begins a beginning of a character begins that character. -/
theorem Begins.of_isPrefix (h : Begins bs) (hpart : part <+: bs) : Begins part :=
  h.imp fun _ hc => hpart.trans hc

/-- Ill-formed parts have one length. -/
theorem IllFormed.eq (h : IllFormed part rest) (h' : IllFormed part' rest')
    (heq : part ++ rest = part' ++ rest') : part = part' ∧ rest = rest' := by
  have hle : ∀ {part rest part' rest' : List UInt8}, IllFormed part rest →
      IllFormed part' rest' → part ++ rest = part' ++ rest' → part.length ≤ part'.length := by
    intro part rest part' rest' h h' heq
    rcases h.begins with hone | hbegins
    · have := List.length_pos_iff.mpr h'.ne_nil
      omega
    · exact h'.longest part (heq ▸ List.prefix_append part rest) hbegins
  exact List.append_inj heq (Nat.le_antisymm (hle h h' heq) (hle h' h heq.symm))

/-- **Bytes have one text.** -/
theorem Decodes.unique (h : Decodes bs cs) (h' : Decodes bs cs') : cs = cs' := by
  induction h generalizing cs' with
  | nil =>
      generalize hbs : ([] : List UInt8) = bs at h'
      cases h' with
      | nil => rfl
      | char c h => exact absurd (List.append_eq_nil_iff.mp hbs.symm).1 String.utf8EncodeChar_ne_nil
      | illFormed hpart h => exact absurd (List.append_eq_nil_iff.mp hbs.symm).1 hpart.ne_nil
  | @char c bs cs h ih =>
      generalize hbs : String.utf8EncodeChar c ++ bs = whole at h'
      cases h' with
      | nil => exact absurd (List.append_eq_nil_iff.mp hbs).1 String.utf8EncodeChar_ne_nil
      | char d h' =>
          obtain ⟨rfl, rfl⟩ := utf8EncodeChar_append_inj hbs
          exact congrArg (c :: ·) (ih h')
      | illFormed hpart h' => exact absurd (hbs ▸ List.prefix_append _ bs) (hpart.no_char c)
  | @illFormed part rest cs hpart h ih =>
      generalize hbs : part ++ rest = whole at h'
      cases h' with
      | nil => exact absurd (List.append_eq_nil_iff.mp hbs).1 hpart.ne_nil
      | char d h' => exact absurd (hbs ▸ List.prefix_append _ _) (hpart.no_char d)
      | illFormed hpart' h' =>
          obtain ⟨rfl, rfl⟩ := hpart.eq hpart' hbs
          exact congrArg (replacement :: ·) (ih h')

end

namespace Utf8

/-! ## Characters of given bytes -/

theorem exists_char {v : Nat} (h : v < 0xD800 ∨ 0xDFFF < v ∧ v < 0x110000) :
    ∃ c : Char, c.val.toNat = v :=
  ⟨⟨UInt32.ofNatLT v (by rw [UInt32.size]; omega), by
    unfold UInt32.isValidChar Nat.isValidChar
    rw [UInt32.toNat_ofNatLT]
    exact h⟩, UInt32.toNat_ofNatLT ..⟩

/-- A byte below 80 is a character by itself. -/
theorem exists_one {x : Nat} (hx : x ≤ 0x7F) :
    ∃ c : Char, c = Char.ofNat x ∧ String.utf8EncodeChar c = [UInt8.ofNat x] := by
  obtain ⟨c, hc⟩ := exists_char (v := x) (by omega)
  refine ⟨c, ?_, ?_⟩
  · rw [← hc]
    exact (Char.ofNat_toNat c).symm
  · unfold String.utf8EncodeChar
    simp only [hc]
    rw [if_pos hx]

/-- The encodings of two bytes, by the ranges of the bytes. -/
theorem exists_two {x y : Nat} (hx : 0xC2 ≤ x ∧ x ≤ 0xDF) (hy : 0x80 ≤ y ∧ y ≤ 0xBF) :
    ∃ c : Char, String.utf8EncodeChar c = [UInt8.ofNat x, UInt8.ofNat y] := by
  obtain ⟨c, hc⟩ := exists_char (v := (x - 0xC0) * 64 + (y - 0x80)) (by omega)
  refine ⟨c, ?_⟩
  have hfirst : c.val.toNat / 64 % 32 + 192 = x := by omega
  have hsecond : c.val.toNat % 64 + 128 = y := by omega
  unfold String.utf8EncodeChar
  simp only [hfirst, hsecond]
  rw [if_neg (by omega), if_pos (by omega)]

/-- The encodings of three bytes: the second byte has a narrower range after E0 and ED. -/
theorem exists_three {x y z : Nat} (hx : 0xE0 ≤ x ∧ x ≤ 0xEF) (hy : 0x80 ≤ y ∧ y ≤ 0xBF)
    (hz : 0x80 ≤ z ∧ z ≤ 0xBF) (hleast : x = 0xE0 → 0xA0 ≤ y) (hsurrogate : x = 0xED → y ≤ 0x9F) :
    ∃ c : Char, String.utf8EncodeChar c = [UInt8.ofNat x, UInt8.ofNat y, UInt8.ofNat z] := by
  obtain ⟨c, hc⟩ := exists_char (v := (x - 0xE0) * 4096 + (y - 0x80) * 64 + (z - 0x80)) (by omega)
  refine ⟨c, ?_⟩
  have hfirst : c.val.toNat / 4096 % 16 + 224 = x := by omega
  have hsecond : c.val.toNat / 64 % 64 + 128 = y := by omega
  have hthird : c.val.toNat % 64 + 128 = z := by omega
  unfold String.utf8EncodeChar
  simp only [hfirst, hsecond, hthird]
  rw [if_neg (by omega), if_neg (by omega), if_pos (by omega)]

/-- The encodings of four bytes: the second byte has a narrower range after F0 and F4. -/
theorem exists_four {w x y z : Nat} (hw : 0xF0 ≤ w ∧ w ≤ 0xF4) (hx : 0x80 ≤ x ∧ x ≤ 0xBF)
    (hy : 0x80 ≤ y ∧ y ≤ 0xBF) (hz : 0x80 ≤ z ∧ z ≤ 0xBF) (hleast : w = 0xF0 → 0x90 ≤ x)
    (hgreatest : w = 0xF4 → x ≤ 0x8F) :
    ∃ c : Char, String.utf8EncodeChar c =
      [UInt8.ofNat w, UInt8.ofNat x, UInt8.ofNat y, UInt8.ofNat z] := by
  obtain ⟨c, hc⟩ := exists_char
    (v := (w - 0xF0) * 262144 + (x - 0x80) * 4096 + (y - 0x80) * 64 + (z - 0x80)) (by omega)
  refine ⟨c, ?_⟩
  have hfirst : c.val.toNat / 262144 % 8 + 240 = w := by omega
  have hsecond : c.val.toNat / 4096 % 64 + 128 = x := by omega
  have hthird : c.val.toNat / 64 % 64 + 128 = y := by omega
  have hfourth : c.val.toNat % 64 + 128 = z := by omega
  unfold String.utf8EncodeChar
  simp only [hfirst, hsecond, hthird, hfourth]
  rw [if_neg (by omega), if_neg (by omega), if_neg (by omega)]

/-! ## The states of the reader -/

/-- A byte that may come last or in the middle of a character. -/
def IsTail (b : UInt8) : Prop := 0x80 ≤ b.toNat ∧ b.toNat ≤ 0xBF

/-- The reader has come to a pending character after the bytes `read`. Whatever it would accept
next, and any further bytes of characters then, makes a character together with them. -/
structure Reached (read : List UInt8) (p : Pending) : Prop where
  run : ∀ bs, decodeFrom none (read ++ bs) = decodeFrom (some p) bs
  low_le_high : p.low ≤ p.high
  completes : ∀ b tail, p.low ≤ b → b ≤ p.high → tail.length = p.missing →
    (∀ t ∈ tail, IsTail t) → ∃ c : Char, String.utf8EncodeChar c = read ++ b :: tail

variable {read bs : List UInt8} {p : Pending} {b : UInt8}

/-- Bytes that begin a character leave something in the text, if only a replacement. -/
theorem decodeFrom_some_ne_nil (p : Pending) (bs : List UInt8) : decodeFrom (some p) bs ≠ [] := by
  induction bs generalizing p with
  | nil => simp [decodeFrom]
  | cons b bs ih =>
      rw [decodeFrom, step]
      split
      · split
        · simp
        · exact ih _
      · simp

/-- The text of bytes is empty only if there are none. -/
theorem decodeFrom_cons_ne_nil (b : UInt8) (bs : List UInt8) : decodeFrom none (b :: bs) ≠ [] := by
  rw [decodeFrom, step]
  cases hstart : (start b).2 with
  | some p => exact List.append_ne_nil_of_right_ne_nil _ (decodeFrom_some_ne_nil p bs)
  | none =>
      have hread : (start b).1 ≠ [] := by
        unfold start at hstart ⊢
        grind
      exact List.append_ne_nil_of_left_ne_nil hread _

/-- What the bytes of one character begin with is not read as a replacement and something else. -/
theorem not_begins_of_decodeFrom {front : List UInt8}
    (h : ∀ bs, ∃ c cs, cs ≠ [] ∧ decodeFrom none (front ++ bs) = c :: cs) : ¬ Begins front := by
  rintro ⟨c, bs, hbs⟩
  obtain ⟨d, cs, hne, hread⟩ := h bs
  have hchar := decodeFrom_utf8EncodeChar c []
  rw [List.append_nil, ← hbs, hread] at hchar
  exact hne (List.cons.inj hchar).2

/-- A byte out of the range that the decoder expects does not go on with any character. -/
theorem Reached.reject (h : Reached read p) (hb : ¬ (p.low ≤ b ∧ b ≤ p.high)) :
    ¬ Begins (read ++ [b]) := by
  refine not_begins_of_decodeFrom fun bs => ⟨replacement, _, decodeFrom_cons_ne_nil b bs, ?_⟩
  rw [List.append_assoc, h.run, List.singleton_append, decodeFrom, step, if_neg hb]
  rfl

/-- **What may come next.** The reader accepts a byte exactly if a character begins with what it has
read and that byte. -/
theorem Reached.begins_iff (h : Reached read p) (b : UInt8) :
    Begins (read ++ [b]) ↔ p.low ≤ b ∧ b ≤ p.high := by
  refine ⟨fun hbegins => Classical.byContradiction fun hb => h.reject hb hbegins,
    fun ⟨hlow, hhigh⟩ => ?_⟩
  obtain ⟨c, hc⟩ := h.completes b (List.replicate p.missing 0x80) hlow hhigh
    (List.length_replicate ..) fun t ht => by
      obtain rfl := List.eq_of_mem_replicate ht
      exact ⟨by decide, by decide⟩
  exact ⟨c, List.replicate p.missing 0x80, by rw [hc, List.append_assoc]; rfl⟩

/-- What the decoder has read of a character begins one. -/
theorem Reached.begins (h : Reached read p) : Begins read :=
  ((h.begins_iff p.low).mpr ⟨UInt8.le_refl _, h.low_le_high⟩).of_isPrefix
    (List.prefix_append read [p.low])

/-- A pending character is not yet a character. -/
theorem Reached.no_char (h : Reached read p) (c : Char) : ¬ String.utf8EncodeChar c <+: read := by
  intro hc
  obtain ⟨d, hd⟩ := h.begins
  obtain rfl := eq_of_utf8EncodeChar_isPrefix (hc.trans hd)
  obtain rfl := hc.eq_of_length_le hd.length_le
  obtain ⟨d, hd⟩ := h.completes p.low (List.replicate p.missing 0x80) (UInt8.le_refl _)
    h.low_le_high (List.length_replicate ..) fun t ht => by
      obtain rfl := List.eq_of_mem_replicate ht
      exact ⟨by decide, by decide⟩
  rw [← List.append_nil (String.utf8EncodeChar d)] at hd
  exact List.cons_ne_nil _ _ (utf8EncodeChar_append_inj hd).2.symm

theorem Reached.ne_nil (h : Reached read p) : read ≠ [] := by
  rintro rfl
  have hrun := h.run []
  simp [decodeFrom] at hrun

/-- What the reader does with a byte that it accepts. -/
theorem Reached.accept (h : Reached read p) (hlow : p.low ≤ b) (hhigh : b ≤ p.high) :
    (∃ c : Char, String.utf8EncodeChar c = read ++ [b] ∧
        ∀ bs, decodeFrom (some p) (b :: bs) = c :: decodeFrom none bs) ∨
      ∃ p', Reached (read ++ [b]) p' ∧
        ∀ bs, decodeFrom (some p) (b :: bs) = decodeFrom (some p') bs := by
  cases hmissing : p.missing with
  | zero =>
      obtain ⟨c, hc⟩ := h.completes b [] hlow hhigh hmissing.symm (by simp)
      refine .inl ⟨c, hc, fun bs => ?_⟩
      rw [← h.run, ← List.singleton_append, ← List.append_assoc, ← hc,
        decodeFrom_utf8EncodeChar]
  | succ missing =>
      have hstep : ∀ bs, decodeFrom (some p) (b :: bs) =
          decodeFrom (some ⟨p.code * 64 + (b.toNat - 0x80), missing, 0x80, 0xBF⟩) bs := by
        intro bs
        simp only [decodeFrom, step, if_pos (And.intro hlow hhigh), hmissing]
        rfl
      refine .inr ⟨_, ⟨fun bs => ?_, by simp only; decide,
        fun b' tail hlow' hhigh' hlength htail => ?_⟩, hstep⟩
      · rw [List.append_assoc, h.run]
        exact hstep bs
      · obtain ⟨c, hc⟩ := h.completes b (b' :: tail) hlow hhigh (by simp [hlength, hmissing])
          (List.forall_mem_cons.mpr
            ⟨⟨UInt8.le_iff_toNat_le.mp hlow', UInt8.le_iff_toNat_le.mp hhigh'⟩, htail⟩)
        exact ⟨c, by rw [hc, List.append_assoc]; rfl⟩

/-! ### The first byte -/

/-- The state after the first of two bytes. -/
theorem reached_two {n : Nat} (hn : 0xC2 ≤ n ∧ n ≤ 0xDF) :
    Reached [UInt8.ofNat n] ⟨n - 0xC0, 0, 0x80, 0xBF⟩ where
  run bs := decodeFrom_start (start_two hn.1 (by omega))
  low_le_high := by simp only; decide
  completes b tail hlow hhigh hlength _ := by
    obtain rfl := List.length_eq_zero_iff.mp hlength
    obtain ⟨c, hc⟩ := exists_two hn
      ⟨UInt8.le_iff_toNat_le.mp hlow, UInt8.le_iff_toNat_le.mp hhigh⟩
    exact ⟨c, by rw [hc, UInt8.ofNat_toNat]; rfl⟩

/-- The state after the first of three bytes. -/
theorem reached_three {n : Nat} (hn : 0xE0 ≤ n ∧ n ≤ 0xEF) :
    Reached [UInt8.ofNat n] ⟨n - 0xE0, 1, if n = 0xE0 then 0xA0 else 0x80,
      if n = 0xED then 0x9F else 0xBF⟩ where
  run bs := decodeFrom_start (start_three hn.1 (by omega))
  low_le_high := by
    by_cases hfirst : n = 0xE0
    · subst hfirst
      decide
    · simp only [if_neg hfirst]
      split <;> decide
  completes b tail hlow hhigh hlength htail := by
    obtain ⟨z, rfl⟩ := List.length_eq_one_iff.mp hlength
    have hz := htail z (List.mem_singleton_self z)
    rw [UInt8.le_iff_toNat_le] at hlow hhigh
    simp only at hlow hhigh
    obtain ⟨c, hc⟩ := exists_three (y := b.toNat) hn
      (by constructor <;> split at hlow <;> split at hhigh <;> simp at hlow hhigh <;> omega) hz
      (fun hfirst => by simpa [hfirst] using hlow) (fun hfirst => by simpa [hfirst] using hhigh)
    exact ⟨c, by rw [hc, UInt8.ofNat_toNat, UInt8.ofNat_toNat]; rfl⟩

/-- The state after the first of four bytes. -/
theorem reached_four {n : Nat} (hn : 0xF0 ≤ n ∧ n ≤ 0xF4) :
    Reached [UInt8.ofNat n] ⟨n - 0xF0, 2, if n = 0xF0 then 0x90 else 0x80,
      if n = 0xF4 then 0x8F else 0xBF⟩ where
  run bs := decodeFrom_start (start_four hn.1 hn.2)
  low_le_high := by
    by_cases hfirst : n = 0xF0
    · subst hfirst
      decide
    · simp only [if_neg hfirst]
      split <;> decide
  completes b tail hlow hhigh hlength htail := by
    obtain ⟨y, z, rfl⟩ := List.length_eq_two.mp hlength
    have hy := htail y (by simp)
    have hz := htail z (by simp)
    rw [UInt8.le_iff_toNat_le] at hlow hhigh
    simp only at hlow hhigh
    obtain ⟨c, hc⟩ := exists_four (x := b.toNat) hn
      (by constructor <;> split at hlow <;> split at hhigh <;> simp at hlow hhigh <;> omega) hy hz
      (fun hfirst => by simpa [hfirst] using hlow) (fun hfirst => by simpa [hfirst] using hhigh)
    exact ⟨c, by rw [hc, UInt8.ofNat_toNat, UInt8.ofNat_toNat, UInt8.ofNat_toNat]; rfl⟩

/-- A byte that starts no character is read as a replacement. -/
theorem start_stray {n : Nat} (hn : n < 256) (h : 0x80 ≤ n ∧ n ≤ 0xC1 ∨ 0xF5 ≤ n) :
    start (UInt8.ofNat n) = ([replacement], none) := by
  simp only [start, lt_ofNat_iff hn, ofNat_eq_iff hn, UInt8.reduceToNat,
    UInt8.toNat_ofNat', Nat.mod_eq_of_lt hn]
  grind

/-- **The first byte**: a character of its own, none at all, or the start of one. -/
theorem start_cases (b : UInt8) :
    (∃ c : Char, String.utf8EncodeChar c = [b] ∧ start b = ([c], none)) ∨
      start b = ([replacement], none) ∧ ¬ Begins [b] ∨
      ∃ p, start b = ([], some p) ∧ Reached [b] p := by
  have hn := b.toNat_lt
  rw [← UInt8.ofNat_toNat (x := b)]
  generalize b.toNat = n at hn
  by_cases hone : n ≤ 0x7F
  · obtain ⟨c, rfl, hc⟩ := exists_one hone
    exact .inl ⟨_, hc, start_one (by omega)⟩
  by_cases htwo : 0xC2 ≤ n ∧ n ≤ 0xDF
  · exact .inr (.inr ⟨_, start_two htwo.1 (by omega), reached_two htwo⟩)
  by_cases hthree : 0xE0 ≤ n ∧ n ≤ 0xEF
  · exact .inr (.inr ⟨_, start_three hthree.1 (by omega), reached_three hthree⟩)
  by_cases hfour : 0xF0 ≤ n ∧ n ≤ 0xF4
  · exact .inr (.inr ⟨_, start_four hfour.1 hfour.2, reached_four hfour⟩)
  have hstray := start_stray (n := n) hn (by omega)
  refine .inr (.inl ⟨hstray, ?_⟩)
  rintro ⟨c, bs, hbs⟩
  have hread : decodeFrom none (UInt8.ofNat n :: bs) = replacement :: decodeFrom none bs := by
    rw [decodeFrom, step, hstray]
    rfl
  have hchar := decodeFrom_utf8EncodeChar c []
  rw [List.append_nil, ← hbs, List.singleton_append, hread] at hchar
  cases bs with
  | nil =>
      obtain rfl := (List.cons.inj hchar).1
      have hlength := congrArg List.length hbs
      rw [List.append_nil, List.length_singleton] at hlength
      exact absurd hlength (by decide)
  | cons b bs => exact decodeFrom_cons_ne_nil b bs (List.cons.inj hchar).2

/-! ## The reader and the text -/

/-- Bytes that begin a character only without what follows them are ill-formed. -/
theorem illFormed_of_stop {front : List UInt8} (hne : front ≠ [])
    (hbegins : front.length = 1 ∨ Begins front)
    (hno : ∀ c : Char, ¬ String.utf8EncodeChar c <+: front)
    (hstop : ∀ b ∈ bs.head?, ¬ Begins (front ++ [b])) : IllFormed front bs := by
  refine ⟨hne, fun c hc => ?_, hbegins, fun more hmore hbegins => ?_⟩
  · rcases isPrefix_or_next hc with hshort | ⟨b, hb, hnext⟩
    · exact hno c hshort
    · exact hstop b hb ⟨c, hnext⟩
  · rcases isPrefix_or_next hmore with hshort | ⟨b, hb, hnext⟩
    · exact hshort.length_le
    · exact absurd (hbegins.of_isPrefix hnext) (hstop b hb)

/-- What is read of a character is ill-formed if the next byte does not go on with it. -/
theorem Reached.illFormed (h : Reached read p)
    (hstop : ∀ b ∈ bs.head?, ¬ (p.low ≤ b ∧ b ≤ p.high)) : IllFormed read bs :=
  illFormed_of_stop h.ne_nil (.inr h.begins) h.no_char fun b hb hbegins =>
    hstop b hb ((h.begins_iff b).mp hbegins)

/-- The reader finds the text of the bytes, also when it is in the middle of a character. -/
theorem decodes_decodeFrom (bs : List UInt8) :
    Decodes bs (decodeFrom none bs) ∧
      ∀ read p, Reached read p → Decodes (read ++ bs) (decodeFrom (some p) bs) := by
  induction bs with
  | nil =>
      refine ⟨.nil, fun read p h => ?_⟩
      have hpart : IllFormed read [] := h.illFormed (by simp)
      exact .illFormed hpart .nil
  | cons b bs ih =>
      obtain ⟨hnone, hsome⟩ := ih
      have hfirst : Decodes (b :: bs) (decodeFrom none (b :: bs)) := by
        rw [decodeFrom, step]
        rcases start_cases b with ⟨c, hc, hstart⟩ | ⟨hstart, hno⟩ | ⟨p, hstart, hreached⟩
        · rw [hstart, ← List.singleton_append, ← hc]
          exact .char c hnone
        · rw [hstart]
          have hpart : IllFormed [b] bs := by
            refine illFormed_of_stop (List.cons_ne_nil b []) (.inl rfl) (fun c hc => hno ?_)
              fun d _ hbegins => hno (hbegins.of_isPrefix (List.prefix_append [b] [d]))
            refine ⟨c, hc.eq_of_length_le ?_ ▸ List.prefix_rfl⟩
            exact List.length_pos_iff.mpr String.utf8EncodeChar_ne_nil
          exact .illFormed hpart hnone
        · rw [hstart]
          exact hsome [b] p hreached
      refine ⟨hfirst, fun read p h => ?_⟩
      by_cases hb : p.low ≤ b ∧ b ≤ p.high
      · rcases h.accept hb.1 hb.2 with ⟨c, hc, hread⟩ | ⟨p', hreached, hread⟩
        · rw [hread, ← List.singleton_append, ← List.append_assoc, ← hc]
          exact .char c hnone
        · rw [hread, ← List.singleton_append, ← List.append_assoc]
          exact hsome _ p' hreached
      · have hread : decodeFrom (some p) (b :: bs) = replacement :: decodeFrom none (b :: bs) := by
          rw [decodeFrom, step, if_neg hb]
          rfl
        rw [hread]
        exact .illFormed (h.illFormed (by simpa using hb)) hfirst

end Utf8

/-- **The reader finds the one text of any bytes.** -/
theorem decodes_iff (bs : List UInt8) (cs : List Char) : Decodes bs cs ↔ cs = decode bs := by
  have hread : Decodes bs (decode bs) := (Utf8.decodes_decodeFrom bs).1
  refine ⟨fun h => h.unique hread, ?_⟩
  rintro rfl
  exact hread

end SourceAudit.Text
