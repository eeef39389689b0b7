import SourceAudit.Line.Split
import SourceAudit.Proofs.Text.Cutting
import SourceAudit.Proofs.Text.Utf8

/-!
# SourceAudit.Proofs.Line.Columns

Columns count bytes. The bytes of a file that is well-formed text are cut into lines as its
characters are, and a line that is searched is the start of what is written in its place; so the
bytes before a column are those of the characters before a position.

* `byteColumn_lt_iff` — positions are in the order of their columns;
* `piecesBetween_encode` — the pieces of the bytes are the bytes of the pieces;
* `take_byteColumn` — the bytes before the column of a position;
* `split_of_decode?` — the bytes in which a line of a well-formed file is written.
-/

namespace SourceAudit.Line

open Text

section

variable {line : List Char} {a b : Nat}

/-! ## The order of columns -/

theorem byteColumn_mono (line : List Char) (h : a ≤ b) : byteColumn line a ≤ byteColumn line b := by
  have hsplit := List.take_append_drop a (line.take b)
  rw [List.take_take, Nat.min_eq_left h] at hsplit
  rw [byteColumn, byteColumn, ← hsplit, encode_append, List.length_append]
  omega

/-- Positions further to the right have a greater column. -/
theorem byteColumn_lt (hab : a < b) (hb : b ≤ line.length) :
    byteColumn line a < byteColumn line b := by
  have ha : a < line.length := by omega
  have hnext : byteColumn line a < byteColumn line (a + 1) := by
    have hchar : ∀ c : Char, 0 < (String.utf8EncodeChar c).length := fun c =>
      List.length_pos_iff.mpr String.utf8EncodeChar_ne_nil
    rw [byteColumn, byteColumn, List.take_succ_eq_append_getElem ha, encode_append,
      List.length_append, encode, encode, List.flatMap_singleton]
    exact Nat.succ_lt_succ (Nat.lt_add_of_pos_right (hchar _))
  exact Nat.lt_of_lt_of_le hnext (byteColumn_mono line hab)

/-- **Positions are in the order of their columns.** -/
theorem byteColumn_lt_iff (hb : b ≤ line.length) :
    byteColumn line a < byteColumn line b ↔ a < b := by
  refine ⟨fun h => Nat.lt_of_not_le fun hle => ?_, fun h => byteColumn_lt h hb⟩
  have := byteColumn_mono line hle
  omega

theorem byteColumn_inj (ha : a ≤ line.length) (hb : b ≤ line.length)
    (h : byteColumn line a = byteColumn line b) : a = b := by
  rcases Nat.lt_trichotomy a b with hlt | heq | hgt
  · have := byteColumn_lt hlt hb
    omega
  · exact heq
  · have := byteColumn_lt hgt ha
    omega

end

/-! ## Lines and their bytes -/

/-- Only a line feed has the byte of one. -/
theorem lineFeed_notMem_utf8EncodeChar {c : Char} (h : c ≠ '\n') :
    (0x0A : UInt8) ∉ String.utf8EncodeChar c := by
  have hne : c.toNat ≠ 10 := fun heq => h (Char.toNat_inj.mp heq)
  have hvalid : c.toNat < 0x110000 := by
    have := c.valid
    simp only [UInt32.isValidChar, Nat.isValidChar] at this
    have hval : c.val.toNat = c.toNat := rfl
    omega
  have hbyte : ∀ n, n < 256 → n ≠ 10 → (0x0A : UInt8) ≠ UInt8.ofNat n := by
    intro n hn hten heq
    exact hten ((Utf8.ofNat_eq_iff hn 0x0A).mp heq.symm)
  have hval : c.val.toNat = c.toNat := rfl
  unfold String.utf8EncodeChar
  simp only [hval]
  split
  · simpa using hbyte _ (by omega) hne
  · split
    · simp only [List.mem_cons, List.not_mem_nil, or_false, not_or]
      exact ⟨hbyte _ (by omega) (by omega), hbyte _ (by omega) (by omega)⟩
    · split
      · simp only [List.mem_cons, List.not_mem_nil, or_false, not_or]
        exact ⟨hbyte _ (by omega) (by omega), hbyte _ (by omega) (by omega),
          hbyte _ (by omega) (by omega)⟩
      · simp only [List.mem_cons, List.not_mem_nil, or_false, not_or]
        exact ⟨hbyte _ (by omega) (by omega), hbyte _ (by omega) (by omega),
          hbyte _ (by omega) (by omega), hbyte _ (by omega) (by omega)⟩

/-- **The pieces of the bytes** are the bytes of the pieces. -/
theorem piecesBetween_encode (cs : List Char) :
    piecesBetween 0x0A (encode cs) = (piecesBetween '\n' cs).map encode :=
  piecesBetween_flatMap (by decide) (fun _ => lineFeed_notMem_utf8EncodeChar) cs

/-- The text of a piece is the start of what is written in it. -/
theorem ofBytes_isPrefix (cs : List Char) : ofBytes (encode cs) <+: cs := by
  rw [ofBytes, decode_encode, dropEndWhile, ← List.reverse_suffix, List.reverse_reverse]
  exact List.dropWhile_suffix _

/-- **The bytes before a column** are those of the characters before its position. -/
theorem take_byteColumn {line cs : List Char} (h : line <+: cs) (pos : Nat) :
    (encode cs).take (byteColumn line pos - 1) = encode (line.take pos) := by
  obtain ⟨rest, rfl⟩ := h
  have hsplit : encode (line ++ rest) = encode (line.take pos) ++ encode (line.drop pos ++ rest) := by
    rw [← encode_append, ← List.append_assoc, List.take_append_drop]
  rw [hsplit, byteColumn, Nat.add_sub_cancel, List.take_left]

/-- **A line of a well-formed file**, and the bytes in which it is written. -/
theorem split_of_decode? {content : List UInt8} {text line : List Char} {k : Nat}
    (hvalid : decode? content = some text) (hline : (split content)[k]? = some line) :
    ∃ raw, (piecesBetween 0x0A content)[k]? = some raw ∧ ofBytes raw = line ∧
      ∀ pos, byteColumn line pos - 1 ≤ raw.length ∧
        decode? (raw.take (byteColumn line pos - 1)) = some (line.take pos) := by
  obtain rfl := encode_of_decode? hvalid
  rw [split, List.getElem?_map] at hline
  obtain ⟨raw, hraw, rfl⟩ := Option.map_eq_some_iff.mp hline
  refine ⟨raw, hraw, rfl, fun pos => ?_⟩
  rw [piecesBetween_encode, List.getElem?_map] at hraw
  obtain ⟨cs, -, rfl⟩ := Option.map_eq_some_iff.mp hraw
  have htake := take_byteColumn (ofBytes_isPrefix cs) pos
  refine ⟨?_, by rw [htake, decode?_encode]⟩
  have hlength := congrArg List.length htake
  rw [List.length_take, byteColumn] at hlength
  rw [byteColumn]
  omega

end SourceAudit.Line
