/-!
# SourceAudit.Text.Pieces

Cutting a list at a separator.
-/

namespace SourceAudit.Text

variable {α : Type}

/-- The pieces of a list between the occurrences of `sep`, one more than there are of these. -/
def piecesBetween [DecidableEq α] (sep : α) : List α → List (List α)
  | [] => [[]]
  | a :: as =>
    if a = sep then [] :: piecesBetween sep as
    else
      match piecesBetween sep as with
      | [] => [[a]]
      | piece :: pieces => (a :: piece) :: pieces

/-- The pieces joined with `sep` between them. -/
def joinPieces (sep : α) : List (List α) → List α
  | [] => []
  | [piece] => piece
  | piece :: pieces => piece ++ sep :: joinPieces sep pieces

theorem piecesBetween_ne_nil [DecidableEq α] (sep : α) (as : List α) :
    piecesBetween sep as ≠ [] := by
  cases as with
  | nil => simp [piecesBetween]
  | cons a as =>
    rw [piecesBetween]
    split
    · simp
    · split <;> simp

@[simp] theorem joinPieces_cons_cons (sep : α) (p q : List α) (ps : List (List α)) :
    joinPieces sep (p :: q :: ps) = p ++ sep :: joinPieces sep (q :: ps) := rfl

/-- Joining the pieces gives back the list. -/
theorem joinPieces_piecesBetween [DecidableEq α] (sep : α) (as : List α) :
    joinPieces sep (piecesBetween sep as) = as := by
  induction as with
  | nil => rfl
  | cons a as ih =>
    rw [piecesBetween]
    cases h : piecesBetween sep as with
    | nil => exact absurd h (piecesBetween_ne_nil sep as)
    | cons p ps =>
      rw [h] at ih
      split
      · next e => subst e; rw [joinPieces_cons_cons, ih]; rfl
      · cases ps with
        | nil => simpa [joinPieces] using ih
        | cons q qs => simpa using ih

end SourceAudit.Text
