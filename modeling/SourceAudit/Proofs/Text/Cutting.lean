import SourceAudit.Text.Blank
import SourceAudit.Text.Pieces

/-!
# SourceAudit.Proofs.Text.Cutting

Cutting a text: stripping the blanks at its ends, and taking apart what was put together with
separators.

* `strip_append` — what stands between blanks, and has none itself, is what is left;
* `piecesBetween_joinPieces` — pieces without the separator are the pieces of what they make;
* `piecesBetween_flatMap` — the pieces of a text whose characters are written in another way.
-/

namespace SourceAudit.Text

/-! ## Blanks -/

/-- The code points of the blanks. -/
def blankCodes : List Nat :=
  [0x9, 0xA, 0xB, 0xC, 0xD, 0x1C, 0x1D, 0x1E, 0x1F, 0x20, 0x85, 0xA0, 0x1680, 0x2000, 0x2001,
    0x2002, 0x2003, 0x2004, 0x2005, 0x2006, 0x2007, 0x2008, 0x2009, 0x200A, 0x2028, 0x2029, 0x202F,
    0x205F, 0x3000]

/-- What holds of the characters with some code points, one after the other. -/
theorem of_codes {P : Char → Prop} {codes : List Nat} (h : ∀ n ∈ codes, P (Char.ofNat n))
    {c : Char} (hc : c.toNat ∈ codes) : P c := by
  have hp := h c.toNat hc
  rwa [Char.ofNat_toNat] at hp

/-- What holds of the members of a list, one after the other. It is decided over the list, not over
all characters. -/
theorem forall_of_all {α : Type} {as : List α} {P : α → Prop} [DecidablePred P]
    (h : as.all (P ·) = true) : ∀ a ∈ as, P a := by
  simpa using h

theorem toNat_mem_of_isBlank {c : Char} (h : isBlank c = true) : c.toNat ∈ blankCodes := by
  simp only [isBlank, isWhite, Bool.or_eq_true, Bool.and_eq_true, decide_eq_true_eq,
    beq_iff_eq, or_assoc] at h
  simp only [blankCodes, List.mem_cons, List.not_mem_nil, or_false]
  rcases h with h | h | h | h | ⟨-, h | h | h | h | h | h | h⟩ | h <;> omega

/-- Characters of a kind are no blanks if none of the blanks is of that kind. -/
theorem not_isBlank_of_codes {p : Char → Bool} (hcodes : ∀ n ∈ blankCodes, p (Char.ofNat n) = false)
    {c : Char} (h : p c = true) : isBlank c = false := by
  cases hblank : isBlank c with
  | false => rfl
  | true =>
      rw [of_codes (P := fun c => p c = false) hcodes (toNat_mem_of_isBlank hblank)] at h
      simp at h

/-- What is left of a list from the first part of it that is not of a kind. -/
theorem dropWhile_append_of_not {α : Type} (before : List α) {core : List α} (after : List α)
    {p : α → Bool} (hbefore : ∀ a ∈ before, p a = true) (hcore : ∀ a ∈ core, p a = false)
    (hne : core ≠ []) : (before ++ core ++ after).dropWhile p = core ++ after := by
  obtain ⟨c, core, rfl⟩ := List.exists_cons_of_ne_nil hne
  have hc := hcore c List.mem_cons_self
  rw [List.append_assoc, List.dropWhile_append_of_pos hbefore, List.cons_append,
    List.dropWhile_cons_of_neg (by simp [hc])]

theorem takeWhile_of_forall {α : Type} {as : List α} {p : α → Bool} (h : ∀ a ∈ as, p a = true) :
    as.takeWhile p = as := by
  have happend : (as ++ []).takeWhile p = as ++ [].takeWhile p := List.takeWhile_append_of_pos h
  simpa using happend

/-- What precedes the first character that is not of a kind. -/
theorem takeWhile_append_cons {α : Type} {as bs : List α} {b : α} {p : α → Bool}
    (has : ∀ a ∈ as, p a = true) (hb : p b = false) : (as ++ b :: bs).takeWhile p = as := by
  rw [List.takeWhile_append_of_pos has, List.takeWhile_cons_of_neg (by simp [hb]), List.append_nil]

/-- A list that starts with nothing of a kind adds nothing to what precedes it. -/
theorem takeWhile_append_of_head {α : Type} {as bs : List α} {p : α → Bool}
    (h : bs.head?.any p = false) : (as ++ bs).takeWhile p = as.takeWhile p := by
  induction as with
  | nil =>
      cases bs with
      | nil => rfl
      | cons b bs => exact List.takeWhile_cons_of_neg (by simpa using h)
  | cons a as ih =>
      cases hp : p a with
      | true => rw [List.cons_append, List.takeWhile_cons_of_pos hp, List.takeWhile_cons_of_pos hp, ih]
      | false =>
          rw [List.cons_append, List.takeWhile_cons_of_neg (by simp [hp]),
            List.takeWhile_cons_of_neg (by simp [hp])]

section

variable {before core after : List Char}

/-- **What stands between blanks.** -/
theorem strip_append (hbefore : ∀ c ∈ before, isBlank c = true)
    (hcore : ∀ c ∈ core, isBlank c = false) (hne : core ≠ [])
    (hafter : ∀ c ∈ after, isBlank c = true) : strip (before ++ core ++ after) = core := by
  have hreverse : (core ++ after).reverse = after.reverse ++ core.reverse ++ [] := by simp
  rw [strip, stripStart, dropWhile_append_of_not _ _ hbefore hcore hne, stripEnd, dropEndWhile,
    hreverse, dropWhile_append_of_not _ _ (by simpa using hafter) (by simpa using hcore)
      (by simpa using hne), List.append_nil, List.reverse_reverse]

/-- There is nothing to strip where there is no blank. -/
theorem strip_of_forall (hcore : ∀ c ∈ core, isBlank c = false) : strip core = core := by
  by_cases hne : core = []
  · rw [hne]
    rfl
  · have hstrip : strip ([] ++ core ++ []) = core := strip_append (by simp) hcore hne (by simp)
    simpa using hstrip

end

/-! ## Pieces -/

section

variable {α : Type} {sep : α}

/-- What stands in joined pieces is a separator or stands in one of them. -/
theorem mem_of_mem_joinPieces {pieces : List (List α)} {a : α} (h : a ∈ joinPieces sep pieces) :
    a = sep ∨ ∃ piece ∈ pieces, a ∈ piece := by
  induction pieces with
  | nil => simp [joinPieces] at h
  | cons piece pieces ih =>
      cases pieces with
      | nil => exact .inr ⟨piece, List.mem_cons_self, h⟩
      | cons next pieces =>
          rw [joinPieces_cons_cons] at h
          rcases List.mem_append.mp h with h | h
          · exact .inr ⟨piece, List.mem_cons_self, h⟩
          · rcases List.mem_cons.mp h with rfl | h
            · exact .inl rfl
            · obtain hsep | ⟨p, hp, hap⟩ := ih h
              · exact .inl hsep
              · exact .inr ⟨p, List.mem_cons_of_mem piece hp, hap⟩

variable [DecidableEq α]

theorem notMem_of_mem_piecesBetween {as piece : List α} (h : piece ∈ piecesBetween sep as) :
    sep ∉ piece := by
  induction as generalizing piece with
  | nil =>
      rw [List.mem_singleton.mp h]
      exact List.not_mem_nil
  | cons a as ih =>
      obtain ⟨first, pieces, hpieces⟩ := List.exists_cons_of_ne_nil (piecesBetween_ne_nil sep as)
      rw [hpieces] at ih
      by_cases ha : a = sep
      · rw [piecesBetween, if_pos ha, hpieces] at h
        rcases List.mem_cons.mp h with rfl | h
        · exact List.not_mem_nil
        · exact ih h
      · rw [piecesBetween, if_neg ha, hpieces] at h
        rcases List.mem_cons.mp h with rfl | h
        · exact List.not_mem_cons_of_ne_of_not_mem (Ne.symm ha) (ih List.mem_cons_self)
        · exact ih (List.mem_cons_of_mem first h)

theorem piecesBetween_of_notMem {as : List α} (h : sep ∉ as) : piecesBetween sep as = [as] := by
  induction as with
  | nil => rfl
  | cons a as ih =>
      obtain ⟨ha, has⟩ := List.ne_and_not_mem_of_not_mem_cons h
      rw [piecesBetween, if_neg (Ne.symm ha), ih has]

/-- A separator ends a piece. -/
theorem piecesBetween_append_cons (as bs : List α) :
    piecesBetween sep (as ++ sep :: bs) = piecesBetween sep as ++ piecesBetween sep bs := by
  induction as with
  | nil => simp [piecesBetween]
  | cons a as ih =>
      rw [List.cons_append, piecesBetween, piecesBetween, ih]
      split
      · rfl
      · obtain ⟨piece, pieces, hpieces⟩ :=
          List.exists_cons_of_ne_nil (piecesBetween_ne_nil sep as)
        rw [hpieces]
        rfl

theorem piecesBetween_append {as : List α} (h : sep ∉ as) (bs : List α) :
    piecesBetween sep (as ++ sep :: bs) = as :: piecesBetween sep bs := by
  rw [piecesBetween_append_cons, piecesBetween_of_notMem h]
  rfl

/-- What stands in front goes to the first piece. -/
theorem piecesBetween_append_of_notMem {front as piece : List α} {pieces : List (List α)}
    (hfront : sep ∉ front) (h : piecesBetween sep as = piece :: pieces) :
    piecesBetween sep (front ++ as) = (front ++ piece) :: pieces := by
  induction front with
  | nil => exact h
  | cons b front ih =>
      obtain ⟨hb, hrest⟩ := List.ne_and_not_mem_of_not_mem_cons hfront
      rw [List.cons_append, piecesBetween, if_neg (Ne.symm hb), ih hrest]
      rfl

/-- **Pieces are replaced one by one** where nothing else becomes a separator. -/
theorem piecesBetween_flatMap {β : Type} [DecidableEq β] {sep' : β} {f : α → List β}
    (hsep : f sep = [sep']) (hother : ∀ a, a ≠ sep → sep' ∉ f a) (as : List α) :
    piecesBetween sep' (as.flatMap f) = (piecesBetween sep as).map (·.flatMap f) := by
  induction as with
  | nil => rfl
  | cons a as ih =>
      obtain ⟨piece, pieces, hpieces⟩ := List.exists_cons_of_ne_nil (piecesBetween_ne_nil sep as)
      rw [hpieces, List.map_cons] at ih
      by_cases ha : a = sep
      · subst ha
        rw [List.flatMap_cons, hsep, List.singleton_append, piecesBetween, if_pos rfl, ih,
          piecesBetween, if_pos rfl, hpieces]
        rfl
      · rw [List.flatMap_cons, piecesBetween_append_of_notMem (hother a ha) ih, piecesBetween,
          if_neg ha, hpieces, List.map_cons, List.flatMap_cons]

/-- A separator after the last piece leaves an empty one. -/
theorem piecesBetween_replicate (n : Nat) :
    piecesBetween sep (List.replicate n sep) = List.replicate (n + 1) [] := by
  induction n with
  | zero => rfl
  | succ n ih =>
      rw [List.replicate_succ, piecesBetween, if_pos rfl, ih]
      rfl

/-- **Pieces that were joined are found again**, and after them as many empty ones as there are
further separators. -/
theorem piecesBetween_joinPieces {pieces : List (List α)} (hne : pieces ≠ [])
    (h : ∀ piece ∈ pieces, sep ∉ piece) (n : Nat) :
    piecesBetween sep (joinPieces sep pieces ++ List.replicate n sep) =
      pieces ++ List.replicate n [] := by
  induction pieces with
  | nil => exact absurd rfl hne
  | cons piece pieces ih =>
      obtain ⟨hpiece, hrest⟩ := List.forall_mem_cons.mp h
      cases pieces with
      | nil =>
          cases n with
          | zero => simpa [joinPieces] using piecesBetween_of_notMem hpiece
          | succ n =>
              rw [joinPieces, List.replicate_succ, piecesBetween_append hpiece,
                piecesBetween_replicate]
              rfl
      | cons next pieces =>
          rw [joinPieces_cons_cons, List.append_assoc, List.cons_append,
            piecesBetween_append hpiece, ih (by simp) hrest]
          rfl

theorem piecesBetween_joinPieces_self {pieces : List (List α)} (hne : pieces ≠ [])
    (h : ∀ piece ∈ pieces, sep ∉ piece) : piecesBetween sep (joinPieces sep pieces) = pieces := by
  simpa using piecesBetween_joinPieces hne h 0

end

end SourceAudit.Text
