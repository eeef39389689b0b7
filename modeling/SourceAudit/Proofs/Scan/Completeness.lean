import SourceAudit.Proofs.Retrieval.Visits
import SourceAudit.Proofs.Scan.Listed

/-!
# SourceAudit.Proofs.Scan.Completeness

When a retrieval says that it is incomplete. It does so for too many files and for the limits that
it comes to itself. That an answer for a directory is incomplete is not taken note of in a walk,
while an answer for everything at once that says so is replaced by one.

* `exists_draws_of_fetch` — a retrieval that comes to its end is drawn from answers;
* `truncated_iff` — when it says that it is incomplete;
* `incompleteness_told_iff` — so incomplete answers do not go unmentioned exactly if there are none,
  or the retrieval is incomplete for a cause of its own.
-/

namespace SourceAudit.Retrieval

open Remote Listing

section

variable {c : Client} {repo : Repository} {limits : Limits} {workers : Int} {s : Session}

/-- **A complete retrieval is drawn from answers**: it knows a version and receives its listing. -/
theorem exists_draws_of_fetch (h : (fetch c repo limits s workers).1 = none) :
    c.canSend = true ∧ ∃ version s₁ visits listed s₂, versionOf c repo s = (.ok version, s₁) ∧
      Draws c repo limits version s₁ visits listed s₂ := by
  have hsend : c.canSend = true := by
    cases hsend : c.canSend with
    | true => rfl
    | false => simp [fetch, hsend] at h
  refine ⟨hsend, ?_⟩
  rcases hversion : versionOf c repo s with ⟨stop | version, s₁⟩
  · rw [fetch_of_unknown workers hsend hversion] at h
    simp at h
  · rw [fetch_eq workers hsend hversion, retrieveVersion] at h
    rcases hlist : ofVersion c repo limits version s₁ with ⟨stop | listed, s₂⟩
    · simp [hlist] at h
    · obtain ⟨visits, hdraws⟩ := draws_of_ofVersion hlist
      exact ⟨version, s₁, visits, listed, s₂, rfl, hdraws⟩

section

variable {version : Json} {s₁ s₂ : Session} {visits : List Visit}

/-- What follows a listing that is drawn from answers. -/
theorem fetch_of_draws (workers : Int) {l : Listing} (hsend : c.canSend = true)
    (hversion : versionOf c repo s = (.ok version, s₁))
    (h : Draws c repo limits version s₁ visits (some l) s₂) :
    fetch c repo limits s workers =
      retrieveBy c repo limits workers (planOf limits l).chosen (.listed limits version l) s₂ := by
  rw [fetch_eq workers hsend hversion, retrieveVersion, ofVersion_of_draws h]
  rfl

/-- **When a retrieval says that it is incomplete**: if its answers offer too many files, or if a
file is skipped for a limit on the whole of it. -/
theorem truncated_iff {listed : Option Listing} (h : (fetch c repo limits s workers).1 = none)
    (hversion : versionOf c repo s = (.ok version, s₁))
    (hdraws : Draws c repo limits version s₁ visits listed s₂) :
    (fetch c repo limits s workers).2.1.truncated = true ↔
      limits.maxFiles.toNat < (offered (visits.map Visit.directory)).length ∨
        ∃ x ∈ (fetch c repo limits s workers).2.1.skipped, ForLimit x := by
  have hsend := (exists_draws_of_fetch h).1
  have hcut : (listed.getD .empty).truncated = true ↔
      limits.maxFiles.toNat < (offered (visits.map Visit.directory)).length := by
    rw [hdraws.eq_first]
    exact decide_eq_true_iff
  rw [← hcut]
  cases listed with
  | none =>
      have hstart : Accounts (Listing.empty.truncated = true) []
          { Progress.start with ref := some version } :=
        ⟨by simp [Progress.start], by simp [Progress.start, Listing.empty]⟩
      have hfetch : fetch c repo limits s workers =
          retrieveBy c repo limits workers [] { Progress.start with ref := some version } s₂ := by
        rw [fetch_eq workers hsend hversion, retrieveVersion, ofVersion_of_draws hdraws]
      rw [hfetch] at h ⊢
      rcases hout : retrieveBy c repo limits workers [] { Progress.start with ref := some version }
        s₂ with ⟨stop, p, s'⟩
      rw [hout] at h
      obtain rfl : stop = none := h
      obtain ⟨-, done, rest, -, -, haccounts⟩ :=
        retrieveBy_accounts c repo limits workers [] s₂ hstart hout (by simp)
      exact haccounts.truncated
  | some l =>
      have hstart : Accounts (l.truncated = true) ((planOf limits l).skipped.map Skipped.path)
          (.listed limits version l) :=
        accounts_plan limits l (p := { Progress.start with ref := some version }) rfl
      rw [fetch_of_draws workers hsend hversion hdraws] at h ⊢
      rcases hout : retrieveBy c repo limits workers (planOf limits l).chosen
        (.listed limits version l) s₂ with ⟨stop, p, s'⟩
      rw [hout] at h
      obtain rfl : stop = none := h
      obtain ⟨-, done, rest, -, -, haccounts⟩ :=
        retrieveBy_accounts c repo limits workers _ s₂ hstart hout (by simp)
      exact haccounts.truncated

end

/-- **Whether an incomplete answer goes unmentioned.** A retrieval that comes to its end is drawn
from answers, and it says that it is incomplete for causes of its own alone: the answers offer too
many files, or a file is skipped for a limit on the whole. So if it does not say so, it is drawn
from complete answers, exactly if none of the answers says that it is incomplete, or there is such a
cause besides. -/
theorem incompleteness_told_iff (h : (fetch c repo limits s workers).1 = none) :
    (∃ version s₁ visits listed s₂, versionOf c repo s = (.ok version, s₁) ∧
      Draws c repo limits version s₁ visits listed s₂) ∧
    ∀ version s₁ visits listed s₂, versionOf c repo s = (.ok version, s₁) →
      Draws c repo limits version s₁ visits listed s₂ →
      let cause := limits.maxFiles.toNat < (offered (visits.map Visit.directory)).length ∨
        ∃ x ∈ (fetch c repo limits s workers).2.1.skipped, ForLimit x
      ((fetch c repo limits s workers).2.1.truncated = true ↔ cause) ∧
        (((fetch c repo limits s workers).2.1.truncated = false → ∀ v ∈ visits, v.flagged = false) ↔
          (∀ v ∈ visits, v.flagged = false) ∨ cause) := by
  refine ⟨(exists_draws_of_fetch h).2, fun version s₁ visits listed s₂ hversion hdraws => ?_⟩
  have htruncated := truncated_iff h hversion hdraws
  refine ⟨htruncated, ?_⟩
  rw [← htruncated]
  cases (fetch c repo limits s workers).2.1.truncated <;> simp

end

end SourceAudit.Retrieval

namespace SourceAudit.Sample

open Remote Retrieval Listing

/-- The answer for the root of a repository when even that is incomplete. -/
def partialAnswer : List (String × Json) :=
  [("truncated", .bool true),
    ("tree", .arr [.obj [("type", .str "blob"), ("path", .str "a.py")]])]

/-- A world in which neither the answer for everything nor that for the root is complete. -/
def partialWorld : World where
  now := 1700000000
  script := ⟨[("/repos/o/n/git/trees/main?recursive=1",
      success "\x7b\"truncated\":true,\"sha\":\"r\",\"tree\":[]\x7d"),
    ("/repos/o/n/git/trees/r", success ("\x7b\"truncated\":true,\"tree\":" ++
      "[\x7b\"type\":\"blob\",\"path\":\"a.py\"\x7d]\x7d")),
    ("/repos/o/n/contents/a.py?ref=main", success "x")]⟩

/-- The listing that a walk draws from the answer for the root. -/
def partialListing : Listing := ⟨[⟨"a.py", 0, false⟩], false⟩

/-- What follows the listing in a session. -/
def partialRest (s : Session) : Option Stop × Progress × Session :=
  retrieveBy (scanner.client none) mainBranch scanner.settings.limits 1
    (planOf scanner.settings.limits partialListing).chosen
    (.listed scanner.settings.limits (.str "main") partialListing) s

theorem exists_draws_partialWorld : ∃ s₁ s₂,
    Draws (scanner.client none) mainBranch scanner.settings.limits (.str "main")
      (.start partialWorld) [⟨⟨.str "r", .str ""⟩, s₁, partialAnswer⟩] (some partialListing) s₂ ∧
    (partialRest s₂).1 = none ∧ (partialRest s₂).2.1.truncated = false := by
  -- One evaluation, in which the tree and the root are asked for once.
  have hrun : ((scanner.client none).tree mainBranch (.str "main") true (.start partialWorld)).1 =
        .ok (some (.obj [("truncated", .bool true), ("sha", .str "r"), ("tree", .arr [])])) ∧
      ((scanner.client none).tree mainBranch (.str "r") false
        ((scanner.client none).tree mainBranch (.str "main") true (.start partialWorld)).2).1 =
          .ok (some (.obj partialAnswer)) ∧
      (partialRest ((scanner.client none).tree mainBranch (.str "r") false
        ((scanner.client none).tree mainBranch (.str "main") true
          (.start partialWorld)).2).2).1 = none ∧
      (partialRest ((scanner.client none).tree mainBranch (.str "r") false
        ((scanner.client none).tree mainBranch (.str "main") true
          (.start partialWorld)).2).2).2.1.truncated = false := by
    decide +kernel
  obtain ⟨hmain, hroot, hrest⟩ := hrun
  have hgoes : walkedOn scanner.settings.limits ⟨.str "r", .str ""⟩ [] .empty
      (.ok (some (.obj partialAnswer))) = .ok ([], partialListing) := rfl
  rcases htree : (scanner.client none).tree mainBranch (.str "main") true (.start partialWorld) with
    ⟨out, s₁⟩
  rw [htree] at hmain hroot hrest
  obtain rfl : out = _ := hmain
  refine ⟨s₁, _, .walked htree rfl rfl (.step rfl hroot ?_ (.none _ _ _)) (Or.inl rfl), hrest⟩
  rw [hroot]
  exact hgoes

theorem fetch_partialWorld :
    (fetch (scanner.client none) mainBranch scanner.settings.limits (.start partialWorld)).1 = none ∧
    (fetch (scanner.client none) mainBranch scanner.settings.limits
      (.start partialWorld)).2.1.truncated = false := by
  obtain ⟨s₁, s₂, hdraws, hends, hsilent⟩ := exists_draws_partialWorld
  rw [fetch_of_draws 1 (by decide +kernel) rfl hdraws]
  exact ⟨hends, hsilent⟩

theorem incompleteness_told_iff_partialWorld :
    (∃ version s₁ visits listed s₂,
      versionOf (scanner.client none) mainBranch (.start partialWorld) = (.ok version, s₁) ∧
      Draws (scanner.client none) mainBranch scanner.settings.limits version s₁ visits listed s₂) ∧
    ∀ version s₁ visits listed s₂,
      versionOf (scanner.client none) mainBranch (.start partialWorld) = (.ok version, s₁) →
      Draws (scanner.client none) mainBranch scanner.settings.limits version s₁ visits listed s₂ →
      let cause := scanner.settings.limits.maxFiles.toNat <
          (offered (visits.map Visit.directory)).length ∨
        ∃ x ∈ (fetch (scanner.client none) mainBranch scanner.settings.limits
          (.start partialWorld)).2.1.skipped, ForLimit x
      ((fetch (scanner.client none) mainBranch scanner.settings.limits
          (.start partialWorld)).2.1.truncated = true ↔ cause) ∧
        (((fetch (scanner.client none) mainBranch scanner.settings.limits
            (.start partialWorld)).2.1.truncated = false → ∀ v ∈ visits, v.flagged = false) ↔
          (∀ v ∈ visits, v.flagged = false) ∨ cause) :=
  incompleteness_told_iff fetch_partialWorld.1

/-- **An incomplete answer can go unmentioned**: a walk takes the files of one, and the retrieval
ends without saying that it is incomplete. -/
theorem partialAnswer_unmentioned :
    (fetch (scanner.client none) mainBranch scanner.settings.limits (.start partialWorld)).1 = none ∧
    (fetch (scanner.client none) mainBranch scanner.settings.limits
      (.start partialWorld)).2.1.truncated = false ∧
    versionOf (scanner.client none) mainBranch (.start partialWorld) =
      (.ok (.str "main"), .start partialWorld) ∧
    ∃ visits listed s', Draws (scanner.client none) mainBranch scanner.settings.limits (.str "main")
        (.start partialWorld) visits listed s' ∧
      ∃ v ∈ visits, v.flagged = true ∧ v.directory.offers ≠ [] := by
  obtain ⟨s₁, s₂, hdraws, -⟩ := exists_draws_partialWorld
  have hoffers : (⟨⟨.str "r", .str ""⟩, s₁, partialAnswer⟩ : Visit).directory.offers =
      [⟨"a.py", 0, false⟩] := rfl
  refine ⟨fetch_partialWorld.1, fetch_partialWorld.2, rfl, _, _, s₂, hdraws, _,
    List.mem_singleton_self _, rfl, ?_⟩
  rw [hoffers]
  simp

end SourceAudit.Sample
