import SourceAudit.Proofs.Retrieval.Uses

/-!
# SourceAudit.Proofs.Retrieval.Visits

The directories that a listing has visited, with the answers that it was given for them. An answer
may say of itself that it is incomplete.

* `Walks` — the steps of a walk, also of one that goes on without an end;
* `Draws` — the answers that a listing is drawn from: none, the one for everything at once, or those
  of a walk;
* `draws_of_ofVersion` and `ofVersion_of_draws` — the listings that are received are those that are
  drawn from answers;
* `Draws.eq_first` — it holds the first files that the directories in these answers offer.
-/

namespace SourceAudit.Retrieval.Listing

open Remote Remote.Client

/-- A directory for which an answer with a listing is given. -/
structure Visit where
  pending : Pending
  /-- The session in which it is asked for. -/
  session : Session
  answer : List (String × Json)

namespace Visit

/-- Does the answer say that it is incomplete? -/
def flagged (v : Visit) : Bool := (Json.lookup v.answer "truncated").any Json.isTruthy

/-- The directory as listed in the answer. -/
def directory (v : Visit) : Directory := ⟨v.pending.inside, (entries? v.answer).getD []⟩

end Visit

/-- Some steps of a walk: each of them takes the next directory and goes on after the answer for
it. -/
inductive Walks (c : Client) (repo : Repository) (limits : Limits) :
    List Pending → Listing → Session → List Visit → List Pending → Listing → Session → Prop
  | none (pending : List Pending) (l : Listing) (s : Session) :
      Walks c repo limits pending l s [] pending l s
  | step {p : Pending} {pending pending' rest : List Pending} {l l' found : Listing}
      {s s' : Session} {answer : List (String × Json)} {visits : List Visit}
      (hroom : l.truncated = false)
      (htree : (c.tree repo p.version false s).1 = .ok (some (.obj answer)))
      (hgoes : walkedOn limits p pending l (c.tree repo p.version false s).1 = .ok (pending', l'))
      (hmore : Walks c repo limits pending' l' (c.tree repo p.version false s).2 visits rest
        found s') :
      Walks c repo limits (p :: pending) l s (⟨p, s, answer⟩ :: visits) rest found s'

/-- The answers that the listing of a version is drawn from. An answer for everything at once that
says that it is incomplete is not among them: the directories are walked in its place. -/
inductive Draws (c : Client) (repo : Repository) (limits : Limits) (version : Json) (s : Session) :
    List Visit → Option Listing → Session → Prop
  | empty {s' : Session} (htree : c.tree repo version true s = (.ok none, s')) :
      Draws c repo limits version s [] none s'
  | whole {s' : Session} {answer : List (String × Json)} {l : Listing}
      (htree : c.tree repo version true s = (.ok (some (.obj answer)), s'))
      (hwhole : (Json.lookup answer "truncated").any Json.isTruthy = false)
      (hadded : ((entries? answer).bind fun entries => addAll limits entries .empty) = some l) :
      Draws c repo limits version s [⟨⟨version, .str ""⟩, s, answer⟩] (some l) s'
  | walked {s₁ s' : Session} {answer : List (String × Json)} {root : Json} {visits : List Visit}
      {pending : List Pending} {l : Listing}
      (htree : c.tree repo version true s = (.ok (some (.obj answer)), s₁))
      (hcut : (Json.lookup answer "truncated").any Json.isTruthy = true)
      (hroot : Json.lookup answer "sha" = some root)
      (hwalks : Walks c repo limits [⟨root, .str ""⟩] .empty s₁ visits pending l s')
      (hdone : pending = [] ∨ l.truncated = true) :
      Draws c repo limits version s visits (some l) s'

section

variable {c : Client} {repo : Repository} {limits : Limits} {version : Json} {s s' : Session}
  {pending rest : List Pending} {l l' : Listing} {visits : List Visit} {found : List Candidate}

/-! ## Walks -/

/-- The answer after which a walk goes on. -/
theorem exists_answer_of_walkedOn {p : Pending} {out : Except Stop (Option Json)}
    {next : List Pending × Listing} (h : walkedOn limits p pending l out = .ok next) :
    ∃ answer, out = .ok (some (.obj answer)) := by
  unfold walkedOn at h
  split at h
  · simp at h
  · next answer => exact ⟨answer, rfl⟩
  · simp at h

/-- A walk that comes to an end has taken all its steps. -/
theorem walks_of_walk {out : Except Stop Listing × Session}
    (h : walk c repo limits pending l s = some out) (hout : out.1 = .ok l') :
    ∃ visits rest, Walks c repo limits pending l s visits rest l' out.2 ∧
      (rest = [] ∨ l'.truncated = true) := by
  induction h using walk_induct with
  | done pending l s _ hdone =>
      obtain rfl := Except.ok.inj hout
      exact ⟨[], pending, .none pending l s, hdone⟩
  | ends => simp at hout
  | goes p pending l s pending' l₁ out _ _ hroom hgoes ih =>
      obtain ⟨answer, htree⟩ := exists_answer_of_walkedOn hgoes
      obtain ⟨visits, rest, hwalks, hdone⟩ := ih hout
      exact ⟨_, rest, .step hroom htree hgoes hwalks, hdone⟩

/-- A walk goes on after some of its steps. -/
theorem walk_of_walks (h : Walks c repo limits pending l s visits rest l' s') :
    walk c repo limits pending l s = walk c repo limits rest l' s' := by
  induction h with
  | none => rfl
  | step hroom _ hgoes _ ih =>
      rw [walk_cons hroom, hgoes]
      exact ih

theorem Walks.trans {visits' : List Visit} {pending' : List Pending} {l'' : Listing}
    {s'' : Session} (h : Walks c repo limits pending l s visits pending' l' s')
    (h' : Walks c repo limits pending' l' s' visits' rest l'' s'') :
    Walks c repo limits pending l s (visits ++ visits') rest l'' s'' := by
  induction h with
  | none => exact h'
  | step hroom htree hgoes _ ih => exact .step hroom htree hgoes (ih h')

theorem walk_of_done (h : rest = [] ∨ l.truncated = true) :
    walk c repo limits rest l s = some (.ok l, s) := by
  rcases h with rfl | hfull
  · rw [walk.eq_def]
  · exact walk_of_truncated rest hfull s

/-- What a walk has come to is what it had, and the first of the files in the directories that it
has visited. -/
theorem Walks.eq_first (h : Walks c repo limits pending l s visits rest l' s')
    (hl : l = first limits.maxFiles.toNat found) :
    l' = first limits.maxFiles.toNat (found ++ offered (visits.map Visit.directory)) := by
  induction h generalizing found with
  | none => simpa [offered] using hl
  | @step p _ _ _ _ _ _ s _ answer _ hroom htree hgoes _ ih =>
      subst hl
      obtain ⟨answer', entries, htree', hentries, hl₁⟩ := walkedOn_reads hroom hgoes
      rw [htree] at htree'
      obtain rfl : answer = answer' := by simpa using htree'
      have hdirectory : (⟨p, s, answer⟩ : Visit).directory = ⟨p.inside, entries⟩ := by
        simp [Visit.directory, hentries]
      rw [ih hl₁, List.map_cons, hdirectory]
      simp [offered]

/-! ## Listings -/

/-- **Every listing that is received is drawn from answers.** -/
theorem draws_of_ofVersion {listed : Option Listing}
    (h : ofVersion c repo limits version s = (.ok listed, s')) :
    ∃ visits, Draws c repo limits version s visits listed s' := by
  rw [ofVersion_eq] at h
  rcases htree : c.tree repo version true s with ⟨out, s₁⟩
  rw [htree] at h
  rcases out with stop | _ | j
  · simp [answered] at h
  · obtain ⟨rfl, rfl⟩ : none = listed ∧ s₁ = s' := by simpa [answered] using h
    exact ⟨[], .empty htree⟩
  · cases j with
    | obj answer =>
        simp only [answered] at h
        cases hcut : (Json.lookup answer "truncated").any Json.isTruthy with
        | false =>
            cases hadded : (entries? answer).bind fun entries => addAll limits entries .empty with
            | none => simp [hcut, hadded] at h
            | some l =>
                obtain ⟨rfl, rfl⟩ : some l = listed ∧ s₁ = s' := by simpa [hcut, hadded] using h
                exact ⟨_, .whole htree hcut hadded⟩
        | true =>
            cases hroot : Json.lookup answer "sha" with
            | none => simp [hcut, hroot] at h
            | some root =>
                simp only [hcut, hroot, if_true] at h
                split at h
                · next out s₂ hwalk =>
                  obtain ⟨hout, rfl⟩ := Prod.mk.inj h
                  cases out with
                  | error stop => simp [Except.map] at hout
                  | ok l =>
                      obtain rfl := Except.ok.inj hout
                      obtain ⟨visits, rest, hwalks, hdone⟩ := walks_of_walk hwalk rfl
                      exact ⟨visits, .walked htree hcut hroot hwalks hdone⟩
                · simp at h
    | _ => simp [answered] at h

/-- A listing that is drawn from answers is received. -/
theorem ofVersion_of_draws {listed : Option Listing}
    (h : Draws c repo limits version s visits listed s') :
    ofVersion c repo limits version s = (.ok listed, s') := by
  rw [ofVersion_eq]
  cases h with
  | empty htree => rw [htree, answered]
  | whole htree hwhole hadded => simp [htree, answered, hwhole, hadded]
  | walked htree hcut hroot hwalks hdone =>
      simp [htree, answered, hcut, hroot, walk_of_walks hwalks, walk_of_done hdone, Except.map]

/-- **A listing holds the first files that are offered in its answers.** -/
theorem Draws.eq_first {listed : Option Listing}
    (h : Draws c repo limits version s visits listed s') :
    listed.getD .empty = first limits.maxFiles.toNat (offered (visits.map Visit.directory)) := by
  cases h with
  | empty => exact (first_nil _).symm
  | @whole _ answer l _ _ hadded =>
      obtain ⟨entries, hentries, hadd⟩ := Option.bind_eq_some_iff.mp hadded
      rw [← first_nil limits.maxFiles.toNat] at hadd
      have hl := addAll_eq (Nat.zero_le _) hadd
      simpa [offered, Visit.directory, hentries] using hl
  | walked _ _ _ hwalks _ => exact hwalks.eq_first (first_nil limits.maxFiles.toNat).symm

end

end SourceAudit.Retrieval.Listing
