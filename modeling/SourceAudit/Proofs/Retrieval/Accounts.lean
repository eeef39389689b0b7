import Mathlib.Data.List.Perm.Basic
import SourceAudit.Proofs.Retrieval.Offers

/-!
# SourceAudit.Proofs.Retrieval.Accounts

The account that a retrieval gives of its candidates. At every moment each of those dealt with is
either retrieved or skipped, and the retrieval says that it is incomplete exactly if there were too
many candidates, or if a file was skipped for a limit on the whole of it.

* `Accounts` — what holds of the candidates dealt with;
* `accounts_plan`, `Accounts.keep` and `Accounts.skip` — it holds of a plan and is kept by what is
  done with one file;
* `retrieve_accounts` and `retrieveBy_accounts` — it holds of all chosen files at the end of a
  retrieval, and of some of them when it is cut.
-/

namespace SourceAudit.Retrieval

open Remote

/-- A file is skipped because the retrieval as a whole came to a limit. -/
def ForLimit (x : Skipped) : Prop :=
  x.reason = SkipReason.byteBudget.name ∨ x.reason = SkipReason.rateLimited.name

/-- The account of the candidates dealt with, whose number was cut or not. -/
structure Accounts (cut : Prop) (dealt : List String) (p : Progress) : Prop where
  /-- Each of them is either retrieved or skipped. -/
  paths : (p.files.map Artifact.path ++ p.skipped.map Skipped.path).Perm dealt
  truncated : p.truncated = true ↔ cut ∨ ∃ x ∈ p.skipped, ForLimit x

theorem Accounts.congr {cut cut' : Prop} {dealt : List String} {p : Progress}
    (h : Accounts cut dealt p) (hcut : cut ↔ cut') : Accounts cut' dealt p :=
  ⟨h.paths, h.truncated.trans (or_congr_left hcut)⟩

/-- Accounts are of the files dealt with in any order. -/
theorem Accounts.perm {cut : Prop} {dealt dealt' : List String} {p : Progress}
    (h : Accounts cut dealt p) (hperm : dealt.Perm dealt') : Accounts cut dealt' p :=
  ⟨h.paths.trans hperm, h.truncated⟩

/-! ## Plans -/

/-- **A plan chooses or skips every candidate**, and it says that it is incomplete if one is skipped
for want of room. -/
theorem ofCandidates_accounts (maxFileSize budget : Int) (cs : List Candidate) :
    let plan := Plan.ofCandidates maxFileSize budget cs
    (plan.chosen.map Candidate.path ++ plan.skipped.map Skipped.path).Perm
        (cs.map Candidate.path) ∧
      (plan.truncated = true ↔ ∃ x ∈ plan.skipped, ForLimit x) := by
  induction cs generalizing budget with
  | nil => simp [Plan.ofCandidates]
  | cons c cs ih =>
      rw [Plan.ofCandidates]
      split
      · obtain ⟨hpaths, htruncated⟩ := ih budget
        refine ⟨List.perm_middle.trans (hpaths.cons _), ?_⟩
        simp only [htruncated, List.exists_mem_cons_iff]
        simp [ForLimit, SkipReason.name]
      · split
        · obtain ⟨hpaths, htruncated⟩ := ih budget
          refine ⟨List.perm_middle.trans (hpaths.cons _), ?_⟩
          simp [ForLimit]
        · obtain ⟨hpaths, htruncated⟩ := ih (budget - c.size)
          exact ⟨hpaths.cons _, htruncated⟩

/-- The account of a retrieval that has planned what to do with the candidates listed. -/
theorem accounts_plan (limits : Limits) (l : Listing) {p : Progress} (hp : p.files = []) :
    let plan := Plan.ofCandidates limits.maxFileSize limits.maxTotalBytes l.candidates
    Accounts (l.truncated = true) (plan.skipped.map Skipped.path)
      { p with
        considered := l.candidates.length
        planned := plan.chosen.map Candidate.path
        skipped := plan.skipped
        truncated := l.truncated || plan.truncated } := by
  obtain ⟨-, htruncated⟩ :=
    ofCandidates_accounts limits.maxFileSize limits.maxTotalBytes l.candidates
  exact ⟨by simp [hp], by simp [htruncated]⟩

/-! ## One file -/

section

variable {cut : Prop} {dealt : List String} {p : Progress}

/-- A file that is kept is one more dealt with. -/
theorem Accounts.keep (h : Accounts cut dealt p) (a : Artifact) :
    Accounts cut (dealt ++ [a.path]) (p.keep a) := by
  refine ⟨?_, h.truncated⟩
  simp only [Progress.keep, List.map_append, List.map_singleton, List.append_assoc]
  exact List.perm_middle.trans ((h.paths.cons _).trans (List.perm_append_singleton _ _).symm)

/-- A file that is skipped is one more dealt with, whatever the reason. -/
theorem paths_skip (h : Accounts cut dealt p) (path : String) (reason : SkipReason) :
    ((p.skip path reason).files.map Artifact.path ++
      (p.skip path reason).skipped.map Skipped.path).Perm (dealt ++ [path]) := by
  simpa [Progress.skip] using h.paths.append_right [path]

/-- A file may be skipped for a limit only if the retrieval says that it is incomplete. -/
theorem Accounts.skip (h : Accounts cut dealt p) (path : String) (reason : SkipReason)
    (hreason : ForLimit ⟨path, reason.name⟩ → p.truncated = true) :
    Accounts cut (dealt ++ [path]) (p.skip path reason) := by
  refine ⟨paths_skip h path reason, ?_⟩
  have htruncated := h.truncated
  simp only [Progress.skip, List.mem_append, List.mem_singleton]
  grind

/-- A file at which the rate limit ends the retrieval is one more dealt with, and it sets the flag.
-/
theorem Accounts.stop (h : Accounts cut dealt p) (path : String) :
    Accounts cut (dealt ++ [path]) { p.skip path .rateLimited with truncated := true } := by
  refine ⟨paths_skip h path .rateLimited, iff_of_true rfl (Or.inr ?_)⟩
  exact ⟨⟨path, SkipReason.rateLimited.name⟩, by simp [Progress.skip], Or.inr rfl⟩

/-- A failure that concerns one file alone is no limit on the whole. -/
theorem not_forLimit_of_skipReason {e : Error} {reason : SkipReason} (path : String)
    (h : skipReason? e = some reason) (hother : reason = .rateLimited → False) :
    ¬ ForLimit ⟨path, reason.name⟩ := by
  cases e <;> simp only [skipReason?, Option.some.injEq, reduceCtorEq] at h <;> subst h
  case rateLimited => exact absurd rfl hother
  all_goals simp [ForLimit, SkipReason.name]

theorem path_artifactOf (limits : Limits) (path : String) (body : List UInt8) :
    (artifactOf limits path body).path = path := by
  unfold artifactOf
  split <;> rfl

/-! ## All files -/

variable (c : Client) (repo : Repository) (limits : Limits)

/-- **The account of the chosen files**: it covers all of them at the end, and not all of them if
the retrieval is cut. -/
theorem retrieve_accounts (fs : List Candidate) (limited : Bool) {p p' : Progress}
    (s : Session) {s' : Session} {o : Option Stop} (h : Accounts cut dealt p)
    (hlimited : limited = true → p.truncated = true)
    (hout : retrieve c repo limits fs limited p s = (o, p', s')) (ho : ∀ e, o ≠ some (.failed e)) :
    p'.planned = p.planned ∧ ∃ done rest, fs.Perm (done ++ rest) ∧ (o = none ↔ rest = []) ∧
      Accounts cut (dealt ++ done.map Candidate.path) p' := by
  induction fs generalizing limited p dealt s o with
  | nil =>
      obtain ⟨rfl, rfl, rfl⟩ : o = none ∧ p' = p ∧ s' = s := by
        cases limited <;> simpa [retrieve, eq_comm] using hout
      exact ⟨rfl, [], [], .refl _, by simp, by simpa using h⟩
  | cons f fs ih =>
      -- What the rest of the files comes to, once the first one is dealt with.
      have hnext : ∀ {limited p₁ s₁}, Accounts cut (dealt ++ [f.path]) p₁ →
          (limited = true → p₁.truncated = true) → p₁.planned = p.planned →
          retrieve c repo limits fs limited p₁ s₁ = (o, p', s') →
          p'.planned = p.planned ∧ ∃ done rest, (f :: fs).Perm (done ++ rest) ∧
            (o = none ↔ rest = []) ∧ Accounts cut (dealt ++ done.map Candidate.path) p' := by
        intro limited p₁ s₁ h₁ hlimited₁ hplanned hout₁
        obtain ⟨hplanned', done, rest, hperm, hrest, hdone⟩ := ih limited s₁ h₁ hlimited₁ hout₁ ho
        refine ⟨hplanned'.trans hplanned, f :: done, rest, hperm.cons f, hrest, ?_⟩
        simpa using hdone
      cases limited with
      | true => exact hnext (h.skip _ _ fun _ => hlimited rfl) hlimited rfl hout
      | false =>
          rw [retrieve] at hout
          split at hout
          · next body s₁ hbody =>
            have hkeep := h.keep (artifactOf limits f.path body)
            rw [path_artifactOf] at hkeep
            exact hnext hkeep (by simp) rfl hout
          · next s₁ _ =>
            split at hout
            · obtain ⟨rfl, hrest⟩ := Prod.mk.inj hout
              obtain ⟨rfl, -⟩ := Prod.mk.inj hrest
              exact ⟨rfl, [], f :: fs, .refl _, by simp, by simpa using h⟩
            · -- The other workers deal with some of the files that follow.
              rcases hothers : retrieve c repo limits fs false p s₁.lose with ⟨o₁, p₁, s₂⟩
              rw [hothers] at hout
              obtain ⟨rfl, hrest⟩ := Prod.mk.inj hout
              obtain ⟨rfl, rfl⟩ := Prod.mk.inj hrest
              have ho₁ : ∀ e, o₁ ≠ some (.failed e) := by
                rintro e rfl
                exact ho e rfl
              obtain ⟨hplanned, done, rest, hperm, -, hdone⟩ :=
                ih false s₁.lose h (by simp) hothers ho₁
              refine ⟨hplanned, done, f :: rest, ?_, by simp, hdone⟩
              exact (hperm.cons f).trans List.perm_middle.symm
          · split at hout
            · exact hnext (h.stop f.path) (fun _ => rfl) rfl hout
            · next reason hother hreason =>
              have hfile := not_forLimit_of_skipReason f.path hreason hother
              exact hnext (h.skip f.path reason fun hlimit => absurd hlimit hfile) (by simp) rfl
                hout
            · simp only [Prod.mk.injEq] at hout
              exact absurd hout.1.symm (ho _)

/-- **The account of the chosen files**, with any number of workers. -/
theorem retrieveBy_accounts (workers : Int) (fs : List Candidate) {p p' : Progress} (s : Session)
    {s' : Session} {o : Option Stop} (h : Accounts cut dealt p)
    (hout : retrieveBy c repo limits workers fs p s = (o, p', s'))
    (ho : ∀ e, o ≠ some (.failed e)) :
    p'.planned = p.planned ∧ ∃ done rest, fs.Perm (done ++ rest) ∧ (o = none ↔ rest = []) ∧
      Accounts cut (dealt ++ done.map Candidate.path) p' := by
  unfold retrieveBy at hout
  split at hout
  · exact absurd (Prod.mk.inj hout).1.symm (ho _)
  · split at hout
    · next hidle =>
      obtain ⟨rfl, hrest⟩ := Prod.mk.inj hout
      obtain ⟨rfl, -⟩ := Prod.mk.inj hrest
      exact ⟨rfl, [], fs, .refl _, by simp [hidle.2], by simpa using h⟩
    · exact retrieve_accounts c repo limits fs false _ h (by simp) hout ho

end

end SourceAudit.Retrieval
