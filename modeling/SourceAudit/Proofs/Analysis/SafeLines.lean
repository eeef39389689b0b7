import SourceAudit.Proofs.Pattern.Forms
import SourceAudit.Rule.Registry

/-!
# SourceAudit.Proofs.Analysis.SafeLines

Lines that no rule passes over as safe. A search does not try a place at which no match can begin,
so a pattern with a known head does not occur in a line without the characters of that head. The
patterns of safe lines have such heads, which are computed from them.

* `not_occursIn_of_lead` — a pattern does not occur in a line without the characters of its head;
* `not_isSafeLine` — lines without any of the heads are not safe.
-/

namespace SourceAudit

open Pattern Text

namespace Pattern

/-! ## Searching for a head -/

/-- A search fails if a match may start nowhere. -/
theorem firstFrom_of_not_mayStart {q : Search} {f : Frame} {lead : Option CharSet}
    (h : ∀ pos, mayStart lead q.subject pos = false) (groups room pos : Nat) :
    firstFrom q f groups lead room pos = none := by
  induction room generalizing pos with
  | zero => rfl
  | succ room ih =>
      unfold firstFrom
      simp only [h pos, if_neg Bool.false_ne_true]
      cases nextPlace? f.direction f.low f.high pos none with
      | none => rfl
      | some pos' => exact ih pos'

/-- **A pattern does not occur in a line without the characters of its head.** -/
theorem not_occursIn_of_lead {p : Pattern} {set : CharSet} {text : List Char}
    (hlead : p.lead = some set) (h : ∀ c ∈ text, set.contains c.toNat = false) :
    p.occursIn text = false := by
  have hnever : ∀ pos, mayStart p.lead (.ofLine text text.length) pos = false := by
    intro pos
    rw [hlead, mayStart, Subject.after?_ofLine, List.take_length, Option.any_map]
    cases hc : text[pos]? with
    | none => rfl
    | some c => exact h c (List.mem_of_getElem? hc)
  unfold occursIn search firstMatch
  simp only
  rw [firstFrom_of_not_mayStart hnever]
  rfl

/-! ## Heads of patterns -/

/-- Does the pattern begin with one of the characters? -/
def beginsWith (p : Pattern) (heads : List Char) : Bool :=
  p.lead.any fun s => s.isSingles && s.singles.all heads.contains

/-- A pattern does not occur in a line without any of the characters it has to begin with. -/
theorem not_occursIn_of_beginsWith {p : Pattern} {heads line : List Char}
    (h : p.beginsWith heads = true) (hline : ∀ c ∈ line, c ∉ heads) : p.occursIn line = false := by
  unfold beginsWith at h
  cases hlead : p.lead with
  | none => simp [hlead] at h
  | some set =>
      rw [hlead, Option.any_some, Bool.and_eq_true, List.all_eq_true] at h
      obtain ⟨hsingles, hheads⟩ := h
      refine not_occursIn_of_lead hlead fun c hc => ?_
      by_contra hcontains
      rw [Bool.not_eq_false, CharSet.contains_iff_mem_singles hsingles] at hcontains
      exact hline c hc (List.contains_iff_mem.mp (hheads c hcontains))

end Pattern

/-! ## Lines that are not safe -/

namespace RuleDraft

/-- The characters with which the patterns of safe lines begin. -/
def safeHeads : List Char := "pPoOgGNV$".toList

/-- Each pattern of safe lines begins with one of the heads. -/
theorem beginsWith_of_mem {p : Pattern} (hp : p ∈ secretSafeLines) :
    p.beginsWith safeHeads = true := by
  have hall : secretSafeLines.all (·.beginsWith safeHeads) = true := by decide +kernel
  exact List.all_eq_true.mp hall p hp

end RuleDraft

/-- **Lines without any of the heads are not safe.** -/
theorem not_isSafeLine {d : RuleDraft} {r : Rule} (hr : d.rule? = some r) {line : List Char}
    (hline : ∀ c ∈ line, c ∉ RuleDraft.safeHeads) : r.isSafeLine line = false := by
  obtain ⟨p, -, rfl⟩ := Option.map_eq_some_iff.mp hr
  rw [Rule.isSafeLine, List.any_eq_false]
  intro q hq
  simp only at hq
  split at hq
  · rw [Bool.not_eq_true]
    exact not_occursIn_of_beginsWith (RuleDraft.beginsWith_of_mem hq) hline
  · simp at hq

end SourceAudit
