import SourceAudit.Proofs.Retrieval.Diversion
import SourceAudit.Proofs.Scan.Accounting

/-!
# SourceAudit.Proofs.Scan.Listed

Scans from the moment at which their files are listed. Until then no file is asked for, and what
follows is the retrieval of the files chosen.

* `Listed` — a scan receives a listing, and `retrieveInTime_of_listed` — what follows;
* `exists_listed` — a scan that asks for a file has received a listing before;
* `Listed.agrees` — in a world that differs in later replies, the scan receives the same listing;
* `accounts_listed` — the account of a listing, before any file is asked for.
-/

namespace SourceAudit

open Remote Remote.Session Remote.Client Retrieval

namespace Retrieval

/-- What is done with the candidates of a listing. -/
def planOf (limits : Limits) (l : Listing) : Plan :=
  Plan.ofCandidates limits.maxFileSize limits.maxTotalBytes l.candidates

/-- What a retrieval has come to when its files are listed. -/
def Progress.listed (limits : Limits) (version : Json) (l : Listing) : Progress where
  ref := some version
  considered := l.candidates.length
  planned := (planOf limits l).chosen.map Candidate.path
  files := []
  skipped := (planOf limits l).skipped
  truncated := l.truncated || (planOf limits l).truncated
  bytes := 0

section

variable {c : Client} {repo : Repository} {limits : Limits} {target : String} {total : Nat}
  {rest : List Reply} {s s' : Session}

theorem versionOf_sends (c : Client) (repo : Repository) (s : Session) :
    Sends Query.lookup.accept s (versionOf c repo s).2 := by
  unfold versionOf
  split
  · exact .refl s
  · exact c.defaultBranch_sends repo s

theorem Kept.versionOf {P : Session → Prop} (h : Kept c repo P) (hs : P s) :
    P (versionOf c repo s).2 := by
  unfold Retrieval.versionOf
  split
  · exact hs
  · exact h.defaultBranch hs

theorem fetch_of_unknown (workers : Int) {stop : Stop} (hsend : c.canSend = true)
    (hversion : versionOf c repo s = (.error stop, s')) :
    fetch c repo limits s workers = (some stop, .start, s') := by
  unfold versionOf at hversion
  unfold fetch
  simp only [hsend, Bool.not_true, Bool.false_eq_true, if_false]
  cases href : repo.ref.filter (· ≠ "") with
  | some ref =>
      rw [href] at hversion
      simp at hversion
  | none =>
      rw [href] at hversion
      simp only [hversion]

/-- Workers without any files change nothing but the time. -/
theorem retrieveBy_nil (c : Client) (repo : Repository) (limits : Limits) (workers : Int)
    (p : Progress) (s : Session) : Alike s (retrieveBy c repo limits workers [] p s).2.2 := by
  unfold retrieveBy
  split
  · exact .refl s
  · rw [if_neg (by simp)]
    exact alike_recruit s _

/-- Nor do fewer workers than one, unless that fails. -/
theorem retrieveBy_of_nonpos {workers : Int} (h : workers ≤ 0) (c : Client) (repo : Repository)
    (limits : Limits) (fs : List Candidate) (p : Progress) (s : Session) :
    (∃ e, (retrieveBy c repo limits workers fs p s).1 = some (.failed e)) ∨
      Alike s (retrieveBy c repo limits workers fs p s).2.2 := by
  unfold retrieveBy
  split
  · exact Or.inl ⟨_, rfl⟩
  · split
    · exact Or.inr (alike_lose s)
    · next hsome =>
      obtain rfl : fs = [] := by
        by_contra hne
        exact hsome ⟨by omega, hne⟩
      exact Or.inr (alike_recruit s _)

/-- If there is a worker, the files are retrieved in turn. -/
theorem retrieveBy_of_pos {workers : Int} (h : 0 < workers) (c : Client) (repo : Repository)
    (limits : Limits) (fs : List Candidate) (p : Progress) (s : Session) :
    retrieveBy c repo limits workers fs p s =
      retrieve c repo limits fs false p (s.recruit workers.toNat) := by
  rw [retrieveBy, if_neg (by omega), if_neg (fun hnone => by omega)]

theorem versionOf_agrees (repo : Repository) (hrest : rest ≠ [])
    (h : InStep c target total rest s s')
    (hasked : c.asked target (versionOf c repo s).2 ≤ total) :
    Agrees c target total rest (versionOf c repo s) (versionOf c repo s') := by
  unfold versionOf at hasked ⊢
  cases href : repo.ref.filter (· ≠ "") with
  | some ref => exact ⟨rfl, h⟩
  | none =>
      rw [href] at hasked
      exact defaultBranch_agrees hrest h hasked

end

end Retrieval

namespace Scanner

/-- A scan receives the listing of a version: there is time for it, and requests can be sent. -/
structure Listed (s : Scanner) (repo : Repository) (token : Option String) (world : World)
    (version : Json) (l : Listing) (session : Session) : Prop where
  time : s.settings.scanDeadline.atMost 0 = false
  canSend : (s.client token).canSend = true
  listing : ∃ session₀,
    versionOf (s.client token) repo (s.opening world) = (.ok version, session₀) ∧
    Listing.ofVersion (s.client token) repo s.settings.limits version session₀ =
      (.ok (some l), session)

section

variable {s : Scanner} {repo : Repository} {token : Option String} {world : World} {version : Json}
  {l : Listing} {session : Session}

/-- **What follows a listing** is the retrieval of the files chosen from it. -/
theorem retrieveInTime_of_listed (h : s.Listed repo token world version l session) :
    s.retrieveInTime repo token (.start world) =
      retrieveBy (s.client token) repo s.settings.limits s.settings.fetchConcurrency
        (planOf s.settings.limits l).chosen (.listed s.settings.limits version l) session := by
  obtain ⟨session₀, hversion, hlist⟩ := h.listing
  rw [retrieveInTime, if_neg (by simp [h.time]), ← opening, fetch_eq _ h.canSend hversion,
    retrieveVersion, hlist]
  rfl

theorem Listed.sends (h : s.Listed repo token world version l session) :
    Sends Query.lookup.accept (s.opening world) session := by
  obtain ⟨session₀, hversion, hlist⟩ := h.listing
  have hfirst := versionOf_sends (s.client token) repo (s.opening world)
  have hsecond := ofVersion_sends (s.client token) repo s.settings.limits version session₀
  rw [hversion] at hfirst
  rw [hlist] at hsecond
  exact hfirst.trans hsecond

/-- What holds of a session after any query holds when the listing is received. -/
theorem Listed.kept {P : Session → Prop} (h : s.Listed repo token world version l session)
    (hkept : Kept (s.client token) repo P) (hs : P (s.opening world)) : P session := by
  obtain ⟨session₀, hversion, hlist⟩ := h.listing
  have hfirst := hkept.versionOf hs
  rw [hversion] at hfirst
  have hsecond := hkept.ofVersion s.settings.limits version hfirst
  rwa [hlist] at hsecond

/-- The time is still limited then. -/
theorem Listed.limit (h : s.Listed repo token world version l session) :
    session.timer.limit = some s.settings.scanDeadline := by
  refine h.kept (P := fun s' => s'.timer.limit = some s.settings.scanDeadline)
    (fun q session hs => ?_) rfl
  obtain ⟨elapsed, htimer⟩ := (s.client token).timer_get repo q session
  rw [htimer]
  exact hs

/-- No file is asked for before the listing is received. -/
theorem Listed.noFile (h : s.Listed repo token world version l session) : session.NoFile :=
  h.sends.noFile (by decide) (noFile_start world)

/-- **A scan that asks for a file** has received a listing before. -/
theorem exists_listed (h : ¬ (s.retrieveInTime repo token (.start world)).2.2.NoFile) :
    ∃ version l session, s.Listed repo token world version l session := by
  unfold retrieveInTime at h
  split at h
  · exact absurd (noFile_start world) h
  next htime =>
  rw [← opening] at h
  have hstart : (s.opening world).NoFile := noFile_start world
  by_cases hsend : (s.client token).canSend = true
  swap
  · rw [fetch] at h
    simp only [hsend, Bool.not_false, if_true] at h
    exact absurd hstart h
  have hfirst := (versionOf_sends (s.client token) repo (s.opening world)).noFile (by decide) hstart
  rcases hversion : versionOf (s.client token) repo (s.opening world) with
    ⟨stop | version, session₀⟩
  · rw [fetch_of_unknown _ hsend hversion] at h
    rw [hversion] at hfirst
    exact absurd hfirst h
  · rw [fetch_eq _ hsend hversion, retrieveVersion] at h
    rw [hversion] at hfirst
    have hsends := ofVersion_sends (s.client token) repo s.settings.limits version session₀
    have hsecond := hsends.noFile (by decide) hfirst
    rcases hlist : Listing.ofVersion (s.client token) repo s.settings.limits version session₀ with
      ⟨stop | listed, session⟩
    · rw [hlist] at h hsecond
      exact absurd hsecond h
    · rw [hlist] at h hsecond
      cases listed with
      | none => exact absurd ((retrieveBy_nil _ _ _ _ _ _).noFile.mpr hsecond) h
      | some l =>
          exact ⟨version, l, session, by simpa using htime, hsend, session₀, hversion, hlist⟩

/-- **The same listing** is received in a world that differs in later replies only. -/
theorem Listed.agrees {rest : List Reply} (h : s.Listed repo token world version l session)
    (target : String) (total : Nat) (hrest : rest ≠ [])
    (hasked : (s.client token).asked target session ≤ total) :
    ∃ session', s.Listed repo token (world.divert target total rest) version l session' ∧
      InStep (s.client token) target total rest session session' := by
  obtain ⟨session₀, hversion, hlist⟩ := h.listing
  have hsends := ofVersion_sends (s.client token) repo s.settings.limits version session₀
  have hfirst := versionOf_agrees repo hrest
    (inStep_start (s.client token) target total rest world s.settings.scanDeadline)
  rw [hlist] at hsends
  rw [← opening, ← opening, hversion] at hfirst
  obtain ⟨hresult, hstep⟩ := hfirst (Nat.le_trans (asked_of_sends hsends) hasked)
  obtain ⟨session', hlist', hstep'⟩ := ofVersion_agrees hrest hlist hstep hasked
  refine ⟨session', ⟨h.time, h.canSend, ?_⟩, hstep'⟩
  exact ⟨(versionOf (s.client token) repo (s.opening _)).2, Prod.ext hresult rfl, hlist'⟩

/-- **The account of a listing**: its candidates are left out by the plan or chosen by it. -/
theorem accounts_listed (limits : Limits) (version : Json) (l : Listing) :
    let unplanned := (planOf limits l).skipped.map Skipped.path
    (unplanned ++ (planOf limits l).chosen.map Candidate.path).Perm
        (l.candidates.map Candidate.path) ∧
      Accounts (l.truncated = true) unplanned (.listed limits version l) :=
  ⟨List.perm_append_comm.trans
      (ofCandidates_accounts limits.maxFileSize limits.maxTotalBytes l.candidates).1,
    accounts_plan limits l (p := { Progress.start with ref := some version }) rfl⟩

/-- No path is left out and chosen, or chosen twice. -/
theorem nodup_listed (limits : Limits) (hdistinct : (l.candidates.map Candidate.path).Nodup) :
    ((planOf limits l).skipped.map Skipped.path ++
      (planOf limits l).chosen.map Candidate.path).Nodup :=
  (accounts_listed limits .null l).1.nodup_iff.mpr hdistinct

end

end Scanner

end SourceAudit
