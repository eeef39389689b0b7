import SourceAudit.Proofs.Line.Columns
import SourceAudit.Proofs.Text.Subparts

/-!
# SourceAudit.Proofs.Line.Breaks

Line breaks and ill-formed bytes. A file is cut before it is decoded, so a character that is broken
off at the end of a line is read against the end of the piece and not against the line feed. That
makes no difference: no character goes on with a line feed, so what is ill-formed before one is
ill-formed at the end.

* `IllFormed.append_lineFeed` — a line feed does not change what is ill-formed before it;
* `piecesBetween_decode` — the pieces of the text are the texts of the pieces;
* `split_eq_decoded` — the lines of any bytes are those of their text.
-/

namespace SourceAudit

namespace Text

/-! ## Ill-formed parts and line feeds -/

section

variable {part rest bs bs' : List UInt8} {cs cs' : List Char}

theorem utf8EncodeChar_lineFeed : String.utf8EncodeChar '\n' = [0x0A] := by decide

/-- No character but the line feed has the byte of one in its encoding. -/
theorem eq_lineFeed_of_begins (h : Begins part) (hmem : (0x0A : UInt8) ∈ part) :
    part = [0x0A] := by
  obtain ⟨c, hc⟩ := h
  by_cases hfeed : c = '\n'
  · subst hfeed
    rw [utf8EncodeChar_lineFeed] at hc
    exact hc.eq_of_length_le (List.length_pos_of_mem hmem)
  · exact absurd (hc.subset hmem) (Line.lineFeed_notMem_utf8EncodeChar hfeed)

/-- **No ill-formed part swallows a line feed.** -/
theorem IllFormed.lineFeed_notMem (h : IllFormed part rest) : (0x0A : UInt8) ∉ part := by
  intro hmem
  have hpart : part = [0x0A] := by
    rcases h.begins with hone | hbegins
    · obtain ⟨b, rfl⟩ := List.length_eq_one_iff.mp hone
      rw [List.mem_singleton.mp hmem]
    · exact eq_lineFeed_of_begins hbegins hmem
  refine h.no_char '\n' ?_
  rw [utf8EncodeChar_lineFeed, hpart]
  exact List.prefix_append _ _

/-- What begins a character does not go on beyond a line feed. -/
theorem Begins.isPrefix_of_lineFeed {more : List UInt8} (h : Begins more) (hne : bs ≠ [])
    (hmore : more <+: bs ++ 0x0A :: bs') : more <+: bs := by
  rcases isPrefix_or_next hmore with hshort | ⟨b, hb, hnext⟩
  · exact hshort
  · obtain rfl : 0x0A = b := Option.some.inj hb
    have hfeed := eq_lineFeed_of_begins (h.of_isPrefix hnext) (by simp)
    exact absurd (List.append_eq_singleton_iff.mp hfeed) (by simp [hne])

/-- **A line feed does not change what is ill-formed before it.** -/
theorem IllFormed.append_lineFeed (h : IllFormed part rest) (bs : List UInt8) :
    IllFormed part (rest ++ 0x0A :: bs) := by
  have hne : part ++ rest ≠ [] := List.append_ne_nil_of_left_ne_nil h.ne_nil rest
  refine ⟨h.ne_nil, fun c hc => ?_, h.begins, fun more hmore hbegins => ?_⟩
  · rw [← List.append_assoc] at hc
    exact h.no_char c (Begins.isPrefix_of_lineFeed ⟨c, List.prefix_rfl⟩ hne hc)
  · rw [← List.append_assoc] at hmore
    exact h.longest more (hbegins.isPrefix_of_lineFeed hne hmore) hbegins

/-! ## Texts and line feeds -/

/-- Decodings on both sides of a line feed make one decoding: no part reaches across it. -/
theorem Decodes.append_lineFeed (h : Decodes bs cs) (h' : Decodes bs' cs') :
    Decodes (bs ++ 0x0A :: bs') (cs ++ '\n' :: cs') := by
  induction h with
  | nil => exact .char '\n' h'
  | char c _ ih =>
      rw [List.append_assoc, List.cons_append]
      exact .char c ih
  | illFormed hpart _ ih =>
      rw [List.append_assoc, List.cons_append]
      exact .illFormed (hpart.append_lineFeed bs') ih

/-- **Ill-formed parts neither swallow nor create a line break.** -/
theorem Decodes.count_lineFeed (h : Decodes bs cs) : cs.count '\n' = bs.count 0x0A := by
  induction h with
  | nil => rfl
  | char c _ ih =>
      rw [List.count_append, List.count_cons, ih]
      by_cases hfeed : c = '\n'
      · subst hfeed
        rw [utf8EncodeChar_lineFeed, if_pos (beq_self_eq_true _), List.count_singleton_self]
        exact Nat.add_comm ..
      · rw [if_neg (by simpa using hfeed),
          List.count_eq_zero_of_not_mem (Line.lineFeed_notMem_utf8EncodeChar hfeed), Nat.zero_add,
          Nat.add_zero]
  | illFormed hpart _ ih =>
      rw [List.count_append, List.count_eq_zero_of_not_mem hpart.lineFeed_notMem,
        List.count_cons_of_ne (by decide), ih, Nat.zero_add]

theorem decodes_decode (bs : List UInt8) : Decodes bs (decode bs) := (decodes_iff bs _).mpr rfl

/-- Bytes on both sides of a line feed are decoded apart. -/
theorem decode_append_lineFeed (bs bs' : List UInt8) :
    decode (bs ++ 0x0A :: bs') = decode bs ++ '\n' :: decode bs' :=
  ((decodes_iff _ _).mp ((decodes_decode bs).append_lineFeed (decodes_decode bs'))).symm

/-- Bytes without a line feed are decoded to a text without one. -/
theorem lineFeed_notMem_decode (h : (0x0A : UInt8) ∉ bs) : '\n' ∉ decode bs := by
  rw [← List.count_eq_zero, (decodes_decode bs).count_lineFeed]
  exact List.count_eq_zero_of_not_mem h

end

/-- Pieces that line feeds join are decoded one by one. -/
theorem decode_joinPieces (pieces : List (List UInt8)) :
    decode (joinPieces 0x0A pieces) = joinPieces '\n' (pieces.map decode) := by
  induction pieces with
  | nil => rfl
  | cons piece pieces ih =>
      cases pieces with
      | nil => rfl
      | cons next pieces =>
          rw [joinPieces_cons_cons, decode_append_lineFeed, ih]
          rfl

/-- **The pieces of the text** are the texts of the pieces. -/
theorem piecesBetween_decode (content : List UInt8) :
    piecesBetween '\n' (decode content) = (piecesBetween 0x0A content).map decode := by
  have hne : (piecesBetween 0x0A content).map decode ≠ [] := by
    simpa using piecesBetween_ne_nil 0x0A content
  have hpieces : ∀ piece ∈ (piecesBetween 0x0A content).map decode, '\n' ∉ piece := by
    rw [List.forall_mem_map]
    exact fun piece hpiece => lineFeed_notMem_decode (notMem_of_mem_piecesBetween hpiece)
  calc piecesBetween '\n' (decode content)
      = piecesBetween '\n' (decode (joinPieces 0x0A (piecesBetween 0x0A content))) := by
        rw [joinPieces_piecesBetween]
    _ = piecesBetween '\n' (joinPieces '\n' ((piecesBetween 0x0A content).map decode)) := by
        rw [decode_joinPieces]
    _ = (piecesBetween 0x0A content).map decode := piecesBetween_joinPieces_self hne hpieces

/-- There is one piece more than there are separators. -/
theorem length_piecesBetween {α : Type} [DecidableEq α] (sep : α) (as : List α) :
    (piecesBetween sep as).length = as.count sep + 1 := by
  induction as with
  | nil => rfl
  | cons a as ih =>
      obtain ⟨piece, pieces, hpieces⟩ := List.exists_cons_of_ne_nil (piecesBetween_ne_nil sep as)
      rw [hpieces, List.length_cons] at ih
      rw [piecesBetween, List.count_cons]
      split
      · next hsep => simp [hpieces, ih, hsep]
      · next hsep => simp [hpieces, ih, hsep]

end Text

namespace Line

open Text

/-- **The lines of any bytes** are those of their text, in which each maximal ill-formed part is one
replacement character: it is cut at the line feeds, and every piece loses the carriage returns at
its end. There is one line more than there are line feeds, and no ill-formed part swallows one of
them or makes another. -/
theorem split_eq_decoded (content : List UInt8) :
    (∀ text, Decodes content text ↔ text = decode content) ∧
      split content = (piecesBetween '\n' (decode content)).map (dropEndWhile (· == '\r')) ∧
      (split content).length = content.count 0x0A + 1 ∧
      (decode content).count '\n' = content.count 0x0A ∧
      ∀ part rest, IllFormed part rest → (0x0A : UInt8) ∉ part := by
  refine ⟨decodes_iff content, ?_, ?_, (decodes_decode content).count_lineFeed,
    fun part rest h => h.lineFeed_notMem⟩
  · rw [piecesBetween_decode, List.map_map]
    rfl
  · rw [split, List.length_map, length_piecesBetween]

/-- A character that is broken off, a line feed, a line that ends in two carriage returns, and bytes
that follow them. -/
example : split [0xE2, 0x82, 0x0A, 0x61, 0x0D, 0x0D, 0x0A, 0xFF] =
    [[replacement], ['a'], [replacement]] := by decide

end Line

end SourceAudit
