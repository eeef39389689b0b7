import SourceAudit.Proofs.Remote.Course
import SourceAudit.Proofs.Retrieval.Accounts
import SourceAudit.Proofs.Retrieval.Asking

/-!
# SourceAudit.Proofs.Retrieval.Turns

The files of a retrieval in their turns. As long as no worker is late, each file is retrieved or
skipped before the next one is asked for. A file is left behind, too, if its response cannot be
used: the retrieval then fails in the end, but it goes on with the files that follow. A worker that
is alone and late ends the retrieval; of several workers the others go on.

* `Through` — some files are dealt with in their turns;
* `retrieve_of_through` — what a retrieval makes of the files that follow them;
* `Through.accounts` — the account of the files dealt with;
* `Reaches` — some files are dealt with, or workers are late with them, and `retrieve_of_reaches` —
  what the others make of the files that follow;
* `exists_turn` — each request belongs to one file, and the files before that one have been asked
  for when it is made;
* `Passes` — some files are asked for in their turns;
* `retrieve_of_passes`, `Passes.adds` — what a retrieval makes of the files that follow them, and
  what they add to it.
-/

namespace SourceAudit.Retrieval

open Remote Remote.Session Remote.Client

/-- What a retrieval has come to after more files. -/
def Progress.add (p : Progress) (files : List Artifact) (skipped : List Skipped) : Progress :=
  { p with
    files := p.files ++ files
    skipped := p.skipped ++ skipped
    bytes := files.foldl (fun bytes a => bytes + a.content.length) p.bytes }

/-- Some files are dealt with in their turns: each of them is retrieved, or skipped for a failure
that concerns it alone. -/
inductive Through (c : Client) (repo : Repository) (limits : Limits) (ref : Option String) :
    List Candidate → Session → List Artifact → List Skipped → Session → Prop
  | nil (s : Session) : Through c repo limits ref [] s [] [] s
  | kept {f : Candidate} {fs : List Candidate} {s s₁ s' : Session} {body : List UInt8}
      {files : List Artifact} {skipped : List Skipped}
      (h : contents c repo f ref s = (.ok body, s₁))
      (hrest : Through c repo limits ref fs s₁ files skipped s') :
      Through c repo limits ref (f :: fs) s (artifactOf limits f.path body :: files) skipped s'
  | skipped {f : Candidate} {fs : List Candidate} {s s₁ s' : Session} {e : Error}
      {reason : SkipReason} {files : List Artifact} {skipped : List Skipped}
      (h : contents c repo f ref s = (.error (.failed e), s₁))
      (hreason : skipReason? e = some reason) (hfile : reason ≠ .rateLimited)
      (hrest : Through c repo limits ref fs s₁ files skipped s') :
      Through c repo limits ref (f :: fs) s files (⟨f.path, reason.name⟩ :: skipped) s'

section

variable {c : Client} {repo : Repository} {limits : Limits} {ref : Option String}
  {f : Candidate} {fs before after : List Candidate} {s s₁ s' : Session} {files : List Artifact}
  {skipped : List Skipped} {p p' : Progress}

/-! ## Progress -/

@[simp] theorem Progress.add_nil (p : Progress) : p.add [] [] = p := by simp [Progress.add]

theorem Progress.keep_add (p : Progress) (a : Artifact) (files : List Artifact)
    (skipped : List Skipped) : (p.keep a).add files skipped = p.add (a :: files) skipped := by
  simp [Progress.keep, Progress.add]

theorem Progress.skip_add (p : Progress) (path : String) (reason : SkipReason)
    (files : List Artifact) (skipped : List Skipped) :
    (p.skip path reason).add files skipped = p.add files (⟨path, reason.name⟩ :: skipped) := by
  simp [Progress.skip, Progress.add]

/-! ## One file -/

/-- A file that is received is kept, and the others follow. -/
theorem retrieve_kept {body : List UInt8} (h : contents c repo f p.refText s = (.ok body, s₁))
    (fs : List Candidate) : retrieve c repo limits (f :: fs) false p s =
      retrieve c repo limits fs false (p.keep (artifactOf limits f.path body)) s₁ := by
  rw [retrieve, h]

/-- A file that fails by itself is skipped, and the others follow. -/
theorem retrieve_skipped {e : Error} {reason : SkipReason}
    (h : contents c repo f p.refText s = (.error (.failed e), s₁))
    (hreason : skipReason? e = some reason) (hfile : reason ≠ .rateLimited) (fs : List Candidate) :
    retrieve c repo limits (f :: fs) false p s =
      retrieve c repo limits fs false (p.skip f.path reason) s₁ := by
  rw [retrieve, h]
  cases reason with
  | rateLimited => exact absurd rfl hfile
  | _ => simp only [hreason]

/-- A worker that is alone and late ends the retrieval. -/
theorem retrieve_late (h : contents c repo f p.refText s = (.error .deadline, s₁))
    (halone : s₁.timer.others = []) (fs : List Candidate) :
    retrieve c repo limits (f :: fs) false p s = (some .deadline, p, s₁.lose) := by
  rw [retrieve, h]
  simp only [halone, List.isEmpty_nil, if_true]

/-- If there are others, these go on. -/
theorem retrieve_lost (h : contents c repo f p.refText s = (.error .deadline, s₁))
    (hothers : s₁.timer.others ≠ []) (fs : List Candidate) :
    retrieve c repo limits (f :: fs) false p s =
      (some (lateStop (retrieve c repo limits fs false p s₁.lose).1),
        (retrieve c repo limits fs false p s₁.lose).2) := by
  rw [retrieve, h]
  simp only [List.isEmpty_iff, hothers, if_false]

theorem lateStop_lateStop (o : Option Stop) : lateStop (some (lateStop o)) = lateStop o := by
  rcases o with _ | _ | _ <;> rfl

/-- Any other failure ends the retrieval. -/
theorem retrieve_unusable {e : Error} (h : contents c repo f p.refText s = (.error (.failed e), s₁))
    (hnone : skipReason? e = none) (fs : List Candidate) :
    (retrieve c repo limits (f :: fs) false p s).1 = some (.failed e) := by
  rw [retrieve, h]
  simp only [hnone]

/-- At the limit no other file is asked for. -/
theorem retrieve_limit {resetAt : Option Instant}
    (h : contents c repo f p.refText s = (.error (.failed (.rateLimited resetAt)), s₁))
    (fs : List Candidate) : ∃ p', retrieve c repo limits (f :: fs) false p s = (none, p', s₁) := by
  rw [retrieve, h]
  exact retrieve_limited c repo limits fs _ s₁

/-! ## Files in their turns -/

/-- **A retrieval goes on with the files that follow.** -/
theorem retrieve_of_through (h : Through c repo limits p.refText before s files skipped s₁)
    (fs : List Candidate) : retrieve c repo limits (before ++ fs) false p s =
      retrieve c repo limits fs false (p.add files skipped) s₁ := by
  generalize href : p.refText = ref at h
  induction h generalizing p with
  | nil => simp
  | kept hbody _ ih =>
      subst href
      rw [List.cons_append, retrieve_kept hbody, ih (p := p.keep _) rfl, Progress.keep_add]
  | skipped hfailed hreason hfile _ ih =>
      subst href
      rw [List.cons_append, retrieve_skipped hfailed hreason hfile, ih (p := p.skip _ _) rfl,
        Progress.skip_add]

theorem session_of_through (h : Through c repo limits ref [f] s files skipped s₁) :
    s₁ = (contents c repo f ref s).2 := by
  cases h with
  | kept hbody hrest =>
      cases hrest
      rw [hbody]
  | skipped hfailed _ _ hrest =>
      cases hrest
      rw [hfailed]

/-- The retrieval of some files is over when all of them are dealt with. -/
theorem retrieve_all_through (h : Through c repo limits p.refText fs s files skipped s₁) :
    retrieve c repo limits fs false p s = (none, p.add files skipped, s₁) := by
  have hall := retrieve_of_through h []
  rw [List.append_nil] at hall
  exact hall

/-- Files may be dealt with in two parts. -/
theorem Through.append {files' : List Artifact} {skipped' : List Skipped}
    (h : Through c repo limits ref before s files skipped s₁)
    (h' : Through c repo limits ref after s₁ files' skipped' s') :
    Through c repo limits ref (before ++ after) s (files ++ files') (skipped ++ skipped') s' := by
  induction h with
  | nil => exact h'
  | kept hbody _ ih => exact .kept hbody (ih h')
  | skipped hfailed hreason hfile _ ih => exact .skipped hfailed hreason hfile (ih h')

/-- What is dealt with may be split into two. -/
theorem Through.split (h : Through c repo limits ref (before ++ after) s files skipped s') :
    ∃ files₁ files₂ skipped₁ skipped₂ s₁, files = files₁ ++ files₂ ∧
      skipped = skipped₁ ++ skipped₂ ∧
      Through c repo limits ref before s files₁ skipped₁ s₁ ∧
      Through c repo limits ref after s₁ files₂ skipped₂ s' := by
  induction before generalizing s files skipped with
  | nil => exact ⟨[], files, [], skipped, s, rfl, rfl, .nil s, h⟩
  | cons f before ih =>
      cases h with
      | kept hbody hrest =>
          obtain ⟨_, _, _, _, _, rfl, rfl, hbefore, hafter⟩ := ih hrest
          exact ⟨_, _, _, _, _, rfl, rfl, .kept hbody hbefore, hafter⟩
      | skipped hfailed hreason hfile hrest =>
          obtain ⟨_, _, _, _, _, rfl, rfl, hbefore, hafter⟩ := ih hrest
          exact ⟨_, _, _, _, _, rfl, rfl, .skipped hfailed hreason hfile hbefore, hafter⟩

/-- **The account of the files dealt with.** -/
theorem Through.accounts {cut : Prop} {dealt : List String}
    (h : Through c repo limits ref before s files skipped s₁) (hp : Accounts cut dealt p) :
    Accounts cut (dealt ++ before.map Candidate.path) (p.add files skipped) := by
  induction h generalizing p dealt with
  | nil => simpa using hp
  | @kept f _ _ _ _ body _ _ _ _ ih =>
      have hkeep := hp.keep (artifactOf limits f.path body)
      rw [path_artifactOf] at hkeep
      simpa [Progress.keep_add] using ih hkeep
  | @skipped f _ _ _ _ _ reason _ _ _ hreason hfile _ ih =>
      have hother := not_forLimit_of_skipReason f.path hreason hfile
      have hskip := hp.skip f.path reason fun hlimit => absurd hlimit hother
      simpa [Progress.skip_add] using ih hskip

/-- The only error that skips for the limit is the one that tells of it. -/
theorem eq_rateLimited {e : Error} (h : skipReason? e = some .rateLimited) :
    ∃ resetAt, e = .rateLimited resetAt := by
  cases e <;> simp [skipReason?] at h ⊢

/-- A file is dealt with unless the time is over, its response cannot be used, or the limit of
requests is reached. -/
theorem through_or_stops (c : Client) (repo : Repository) (limits : Limits) (ref : Option String)
    (f : Candidate) (s : Session) :
    (∃ files skipped, Through c repo limits ref [f] s files skipped (contents c repo f ref s).2) ∨
      (contents c repo f ref s).1 = .error .deadline ∨
      (∃ e, (contents c repo f ref s).1 = .error (.failed e) ∧ skipReason? e = none) ∨
      ∃ resetAt, (contents c repo f ref s).1 = .error (.failed (.rateLimited resetAt)) := by
  rcases hcontents : contents c repo f ref s with ⟨(e | _) | body, s₁⟩
  · cases hreason : skipReason? e with
    | none => exact Or.inr (Or.inr (Or.inl ⟨e, rfl, hreason⟩))
    | some reason =>
        by_cases hlimit : reason = .rateLimited
        · obtain ⟨resetAt, rfl⟩ := eq_rateLimited (hlimit ▸ hreason)
          exact Or.inr (Or.inr (Or.inr ⟨resetAt, rfl⟩))
        · exact Or.inl ⟨_, _, .skipped hcontents hreason hlimit (.nil s₁)⟩
  · exact Or.inr (Or.inl rfl)
  · exact Or.inl ⟨_, _, .kept hcontents (.nil s₁)⟩

/-- A worker who is alone stays so. -/
theorem Through.alone (h : Through c repo limits ref fs s files skipped s')
    (halone : s.timer.others = []) : s'.timer.others = [] := by
  induction h with
  | nil => exact halone
  | @kept f _ s _ _ _ _ _ hbody _ ih =>
      have hfirst := alone_contents c repo f ref halone
      rw [hbody] at hfirst
      exact ih hfirst
  | @skipped f _ s _ _ _ _ _ _ hfailed _ _ _ ih =>
      have hfirst := alone_contents c repo f ref halone
      rw [hfailed] at hfirst
      exact ih hfirst

end

/-! ## Files that workers are late with -/

/-- Some files are asked for in their turns: each of them is dealt with, or the worker that asks for
it is late and leaves the files that follow to others. -/
inductive Reaches (c : Client) (repo : Repository) (limits : Limits) :
    List Candidate → Progress → Session → Progress → Session → Prop
  | start (p : Progress) (s : Session) : Reaches c repo limits [] p s p s
  | dealt {f : Candidate} {fs : List Candidate} {p p' : Progress} {s s₁ s' : Session}
      {files : List Artifact} {skipped : List Skipped}
      (h : Through c repo limits p.refText [f] s files skipped s₁)
      (hrest : Reaches c repo limits fs (p.add files skipped) s₁ p' s') :
      Reaches c repo limits (f :: fs) p s p' s'
  | lost {f : Candidate} {fs : List Candidate} {p p' : Progress} {s s₁ s' : Session}
      (h : contents c repo f p.refText s = (.error .deadline, s₁))
      (hothers : s₁.timer.others ≠ []) (hrest : Reaches c repo limits fs p s₁.lose p' s') :
      Reaches c repo limits (f :: fs) p s p' s'

section

variable {c : Client} {repo : Repository} {limits : Limits} {f : Candidate}
  {fs before : List Candidate} {s s' : Session} {p p' : Progress}

/-- **A retrieval goes on with the files that follow**, and it comes to an end as they do, but for
the time. -/
theorem retrieve_of_reaches (h : Reaches c repo limits before p s p' s') (fs : List Candidate) :
    (retrieve c repo limits (before ++ fs) false p s).2 = (retrieve c repo limits fs false p' s').2 ∧
      ((retrieve c repo limits (before ++ fs) false p s).1 =
          (retrieve c repo limits fs false p' s').1 ∨
        (retrieve c repo limits (before ++ fs) false p s).1 =
          some (lateStop (retrieve c repo limits fs false p' s').1)) := by
  induction h with
  | start => exact ⟨rfl, Or.inl rfl⟩
  | @dealt f before _ _ _ _ _ _ _ hdealt _ ih =>
      rw [List.cons_append, ← List.singleton_append (x := f), retrieve_of_through hdealt]
      exact ih
  | lost hlate hothers _ ih =>
      rw [List.cons_append, retrieve_lost hlate hothers]
      refine ⟨ih.1, Or.inr ?_⟩
      rcases ih.2 with hend | hend <;> simp only [hend, lateStop_lateStop]

/-- The version stays the same. -/
theorem Reaches.refText (h : Reaches c repo limits before p s p' s') : p'.refText = p.refText := by
  induction h with
  | start => rfl
  | dealt _ _ ih => exact ih
  | lost _ _ _ ih => exact ih

/-- **The account of the files asked for**: those that a worker is late with are not in it. -/
theorem Reaches.accounts {cut : Prop} {dealt : List String}
    (h : Reaches c repo limits before p s p' s') (hp : Accounts cut dealt p) :
    p'.planned = p.planned ∧ ∃ done : List Candidate, done.Sublist before ∧
      Accounts cut (dealt ++ done.map Candidate.path) p' := by
  induction h generalizing dealt with
  | start => exact ⟨rfl, [], .slnil, by simpa using hp⟩
  | @dealt f _ _ _ _ _ _ _ _ hdealt _ ih =>
      obtain ⟨hplanned, done, hdone, haccounts⟩ := ih (hdealt.accounts hp)
      refine ⟨hplanned, f :: done, hdone.cons_cons f, ?_⟩
      simpa [List.append_assoc] using haccounts
  | @lost f _ _ _ _ _ _ _ _ _ ih =>
      obtain ⟨hplanned, done, hdone, haccounts⟩ := ih hp
      exact ⟨hplanned, done, hdone.cons f, haccounts⟩

/-- A worker that is alone is late with none of them. -/
theorem Reaches.through (h : Reaches c repo limits before p s p' s')
    (halone : s.timer.others = []) : ∃ files skipped,
      Through c repo limits p.refText before s files skipped s' ∧ p' = p.add files skipped := by
  induction h with
  | start p s => exact ⟨[], [], .nil s, p.add_nil.symm⟩
  | dealt hdealt _ ih =>
      obtain ⟨files, skipped, hthrough, rfl⟩ := ih (hdealt.alone halone)
      exact ⟨_, _, hdealt.append hthrough, by simp [Progress.add]⟩
  | @lost f _ p _ _ _ _ hlate hothers _ _ =>
      have hfirst := alone_contents c repo f p.refText halone
      rw [hlate] at hfirst
      exact absurd hfirst hothers

/-- **Each request belongs to one file.** When it is made, the files before that one have been asked
for. -/
theorem exists_turn {i : Nat}
    (ho : ∀ e, (retrieve c repo limits fs false p s).1 ≠ some (.failed e))
    (hfirst : s.requests.length ≤ i)
    (hlast : i < (retrieve c repo limits fs false p s).2.2.requests.length) :
    ∃ before f after p₁ s₁, fs = before ++ f :: after ∧ Reaches c repo limits before p s p₁ s₁ ∧
      s₁.requests.length ≤ i ∧ i < (contents c repo f p₁.refText s₁).2.requests.length := by
  induction fs generalizing p s with
  | nil => exact absurd hlast (Nat.not_lt.mpr hfirst)
  | cons f fs ih =>
      by_cases hfile : i < (contents c repo f p.refText s).2.requests.length
      · exact ⟨[], f, fs, p, s, rfl, .start p s, hfirst, hfile⟩
      have hmore := Nat.le_of_not_lt hfile
      rcases through_or_stops c repo limits p.refText f s with
        ⟨files, skipped, hdealt⟩ | hlate | ⟨e, hfailed, hnone⟩ | ⟨resetAt, hlimit⟩
      · rw [← List.singleton_append, retrieve_of_through hdealt] at ho hlast
        obtain ⟨before, g, after, p₁, s₁, rfl, hreaches, hturn⟩ := ih ho hmore hlast
        exact ⟨f :: before, g, after, p₁, s₁, rfl, .dealt hdealt hreaches, hturn⟩
      · have hcontents : contents c repo f p.refText s =
            (.error .deadline, (contents c repo f p.refText s).2) := Prod.ext hlate rfl
        by_cases halone : (contents c repo f p.refText s).2.timer.others = []
        · rw [retrieve_late hcontents halone] at hlast
          exact absurd hlast hfile
        · rw [retrieve_lost hcontents halone] at ho hlast
          have ho' : ∀ e, (retrieve c repo limits fs false p
              (contents c repo f p.refText s).2.lose).1 ≠ some (.failed e) := by
            intro e he
            rw [he] at ho
            exact ho e rfl
          obtain ⟨before, g, after, p₁, s₁, rfl, hreaches, hturn⟩ := ih ho' hmore hlast
          exact ⟨f :: before, g, after, p₁, s₁, rfl, .lost hcontents halone hreaches, hturn⟩
      · exact absurd (retrieve_unusable (Prod.ext hfailed rfl) hnone fs) (ho e)
      · obtain ⟨p', hstop⟩ : ∃ p', retrieve c repo limits (f :: fs) false p s =
            (none, p', (contents c repo f p.refText s).2) :=
          retrieve_limit (Prod.ext hlimit rfl) fs
        rw [hstop] at hlast
        exact absurd hlast hfile

end

/-- What a retrieval has come to after the answer for a file, unless that is its last one. -/
def Progress.after (limits : Limits) (p : Progress) (f : Candidate) :
    Except Stop (List UInt8) → Progress
  | .ok body => p.keep (artifactOf limits f.path body)
  | .error .deadline => p
  | .error (.failed e) => ((skipReason? e).map (p.skip f.path)).getD p

/-- Some files are asked for in their turns, and there are answers for all of them: each is
retrieved or skipped, or its response cannot be used, and none comes too late or at the limit of
requests. -/
inductive Passes (c : Client) (repo : Repository) (limits : Limits) :
    List Candidate → Progress → Session → Progress → Session → Prop
  | none (p : Progress) (s : Session) : Passes c repo limits [] p s p s
  | file {f : Candidate} {fs : List Candidate} {p p' : Progress} {s s' : Session}
      (htime : (contents c repo f p.refText s).1 ≠ .error .deadline)
      (hlimit : Unlimited (contents c repo f p.refText s).1)
      (hrest : Passes c repo limits fs (p.after limits f (contents c repo f p.refText s).1)
        (contents c repo f p.refText s).2 p' s') :
      Passes c repo limits (f :: fs) p s p' s'

section

variable {c : Client} {repo : Repository} {limits : Limits} {f : Candidate}
  {before after : List Candidate} {p p' : Progress} {s s' : Session}

theorem Passes.trans {p'' : Progress} {s'' : Session} (h : Passes c repo limits before p s p' s')
    (h' : Passes c repo limits after p' s' p'' s'') :
    Passes c repo limits (before ++ after) p s p'' s'' := by
  induction h with
  | none => exact h'
  | file htime hlimit _ ih => exact .file htime hlimit (ih h')

/-- A file passes if there is time for it and no limit. -/
theorem Passes.one (htime : (contents c repo f p.refText s).1 ≠ .error .deadline)
    (hlimit : Unlimited (contents c repo f p.refText s).1) :
    Passes c repo limits [f] p s (p.after limits f (contents c repo f p.refText s).1)
      (contents c repo f p.refText s).2 :=
  .file htime hlimit (.none _ _)

/-- A retrieval goes on after a file. It fails in the end if the response for the file cannot be
used. -/
theorem retrieve_after (limits : Limits)
    (htime : (contents c repo f p.refText s).1 ≠ .error .deadline)
    (hlimit : Unlimited (contents c repo f p.refText s).1) (fs : List Candidate) :
    let rest := retrieve c repo limits fs false
      (p.after limits f (contents c repo f p.refText s).1) (contents c repo f p.refText s).2
    (retrieve c repo limits (f :: fs) false p s).2 = rest.2 ∧
      ((retrieve c repo limits (f :: fs) false p s).1 = rest.1 ∨
        ∃ cause, (retrieve c repo limits (f :: fs) false p s).1 =
          some (.failed (.unusable cause))) := by
  rw [retrieve]
  rcases hcontents : contents c repo f p.refText s with ⟨(e | _) | body, s₁⟩ <;>
    rw [hcontents] at htime hlimit
  · cases e with
    | rateLimited resetAt => exact absurd rfl (hlimit resetAt)
    | unusable cause => exact ⟨rfl, Or.inr ⟨cause, rfl⟩⟩
    | _ => exact ⟨rfl, Or.inl rfl⟩
  · exact absurd rfl htime
  · exact ⟨rfl, Or.inl rfl⟩

/-- **A retrieval goes on with the files that follow.** -/
theorem retrieve_of_passes (h : Passes c repo limits before p s p' s') (fs : List Candidate) :
    (retrieve c repo limits (before ++ fs) false p s).2 = (retrieve c repo limits fs false p' s').2 ∧
      ((retrieve c repo limits (before ++ fs) false p s).1 =
          (retrieve c repo limits fs false p' s').1 ∨
        ∃ cause, (retrieve c repo limits (before ++ fs) false p s).1 =
          some (.failed (.unusable cause))) := by
  induction h with
  | none => exact ⟨rfl, Or.inl rfl⟩
  | @file f before p p' s s' htime hlimit _ ih =>
      obtain ⟨hrest, hend⟩ := retrieve_after limits htime hlimit (before ++ fs)
      refine ⟨hrest.trans ih.1, ?_⟩
      rcases hend with hend | hend
      · rw [List.cons_append, hend]
        exact ih.2
      · exact Or.inr hend

theorem after_adds (limits : Limits) (p : Progress) (f : Candidate)
    (out : Except Stop (List UInt8)) : (p.after limits f out).planned = p.planned ∧
      ∀ a ∈ (p.after limits f out).files, a ∈ p.files ∨ a.path = f.path := by
  rcases out with (e | _) | body
  · rw [Progress.after]
    cases skipReason? e <;> exact ⟨rfl, fun a ha => Or.inl ha⟩
  · exact ⟨rfl, fun a ha => Or.inl ha⟩
  · refine ⟨rfl, fun a ha => (List.mem_append.mp ha).imp_right fun ha => ?_⟩
    rw [List.mem_singleton.mp ha]
    exact path_artifactOf limits f.path body

/-- What the files asked for add to a retrieval. -/
theorem Passes.adds (h : Passes c repo limits before p s p' s') : p'.planned = p.planned ∧
    ∀ a ∈ p'.files, a ∈ p.files ∨ a.path ∈ before.map Candidate.path := by
  induction h with
  | none => exact ⟨rfl, fun a ha => Or.inl ha⟩
  | @file f before p p' s s' _ _ _ ih =>
      obtain ⟨hplanned, hfiles⟩ := after_adds limits p f (contents c repo f p.refText s).1
      refine ⟨ih.1.trans hplanned, fun a ha => ?_⟩
      rw [List.map_cons, List.mem_cons, ← or_assoc]
      exact (ih.2 a ha).imp_left (hfiles a)

end

end SourceAudit.Retrieval
