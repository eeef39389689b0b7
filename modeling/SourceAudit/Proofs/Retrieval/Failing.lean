import SourceAudit.Proofs.Remote.Calm
import SourceAudit.Proofs.Retrieval.Diversion
import SourceAudit.Proofs.Retrieval.Listings
import SourceAudit.Proofs.Retrieval.Turns

/-!
# SourceAudit.Proofs.Retrieval.Failing

Files that cannot be had. In a calm world a file whose replies all fail in one way is skipped for
that way of failing, unless the attempts at it come to a delay that has no number.

* `Fails` — how a reply fails, and for which reason its file is then skipped;
* `retry_fails` — what attempts come to that all fail;
* `through_of_calm` — in a calm session, files are dealt with in their turns;
* `inStep_past` — two sessions that are in step up to a file are in step after it, whatever the
  replies to it are;
* `retrieve_failing` — what becomes of a retrieval when all replies to one of its files fail.
-/

namespace SourceAudit.Retrieval

open Remote Remote.Session Remote.Client

/-! ## Replies that fail -/

/-- A reply to a request to an address fails in a way for which its file is skipped: access is
denied with a status of 4xx that is no limit, or the file is not to be had at all. -/
inductive Fails (u : Url) (reply : Reply) : SkipReason → Prop
  | refused {r : Response} (h : received u reply.outcome = .response r) (hleast : 400 ≤ r.status)
      (hmost : r.status < 500) (hfree : r.isRateLimited = some false) : Fails u reply .accessDenied
  | timedOut {name : String} (h : received u reply.outcome = .fault (.timeout name)) :
      Fails u reply .fetchFailed
  | networkFailed {name : String} (h : received u reply.outcome = .fault (.network name)) :
      Fails u reply .fetchFailed
  | serverFailed {r : Response} (h : received u reply.outcome = .response r)
      (hstatus : 500 ≤ r.status) : Fails u reply .fetchFailed

section

variable {c : Client} {repo : Repository} {limits : Limits} {path : String} {ref : Option String}
  {u : Url} {reason : SkipReason} {s s' : Session} {target : String} {rest : List Reply}

/-! ## Requests that fail -/

/-- An answer is a failure for which a file is skipped for the given reason. -/
def FailsWith {α : Type} (reason : SkipReason) (out : Except Stop α) : Prop :=
  ∃ e, out = .error (.failed e) ∧ skipReason? e = some reason ∧
    e.isTransient = decide (reason = .fetchFailed)

/-- A refused file is one to which access is denied. -/
theorem error_of_refused (path : String) (ref : Option String) {r : Response}
    (hleast : 400 ≤ r.status) (hmost : r.status < 500) (hfree : r.isRateLimited = some false)
    (now : Rat) :
    ∃ e, errorOf (.file path ref) r now = some e ∧ skipReason? e = some .accessDenied ∧
      e.isTransient = false := by
  simp only [errorOf, accepts, Bool.false_eq_true, if_false, Response.error?,
    if_neg (Nat.not_lt.mpr hleast), hfree, if_neg (Nat.not_le.mpr hmost)]
  split <;> exact ⟨_, rfl, rfl, rfl⟩

/-- A failure of the server is one to be tried again. -/
theorem error_of_serverFailed (path : String) (ref : Option String) {r : Response}
    (hstatus : 500 ≤ r.status) (now : Rat) :
    ∃ e, errorOf (.file path ref) r now = some e ∧ skipReason? e = some .fetchFailed ∧
      e.isTransient = true := by
  have hfree : r.isRateLimited = some false := by
    rw [Response.isRateLimited, if_neg (by omega), if_pos (by omega)]
  simp only [errorOf, accepts, Bool.false_eq_true, if_false, Response.error?,
    if_neg (show ¬ r.status < 400 by omega), hfree, if_pos hstatus,
    if_neg (show ¬ (r.status = 401 ∨ r.status = 403 ∨ r.status = 404 ∨ r.status = 422) by omega)]
  exact ⟨_, rfl, rfl, rfl⟩

theorem sendTo_fails (hs : s.Calm)
    (hreply : Fails u (s.world.script.answer (.ofList u.target)).1 reason) :
    FailsWith reason (c.sendTo u (.file path ref) s).1 := by
  cases hreply with
  | refused h hleast hmost hfree =>
      obtain ⟨e, herror, hfails⟩ := error_of_refused path ref hleast hmost hfree s.world.now
      exact ⟨e, by rw [sendTo_of_response hs h, herror], hfails⟩
  | serverFailed h hstatus =>
      obtain ⟨e, herror, hfails⟩ := error_of_serverFailed path ref hstatus s.world.now
      exact ⟨e, by rw [sendTo_of_response hs h, herror], hfails⟩
  | timedOut h =>
      unfold sendTo
      simp only [h]
      exact ⟨_, rfl, rfl, rfl⟩
  | networkFailed h =>
      unfold sendTo
      simp only [h]
      exact ⟨_, rfl, rfl, rfl⟩

/-- Every reply to a request to an address fails. -/
structure AllFail (u : Url) (reason : SkipReason) (s : Session) : Prop where
  some : s.world.script.replies (.ofList u.target) ≠ []
  fails : ∀ reply ∈ s.world.script.replies (.ofList u.target), Fails u reply reason

/-- Replies that all fail do so later as well. -/
theorem AllFail.after (h : AllFail u reason s) (hstill : Still (.ofList u.target) s s') :
    AllFail u reason s' :=
  ⟨hstill.left h.some, fun reply hreply => h.fails reply (hstill.subset hreply)⟩

/-- An attempt at such a file fails. -/
theorem send_fails (hu : c.base.bind ((Query.file path ref).address? · repo) = some u)
    (hs : s.Calm) (hfails : AllFail u reason s) :
    FailsWith reason (c.send repo (.file path ref) s).1 := by
  rw [send_of_address hs hu]
  refine sendTo_fails ⟨hs.script, hs.remaining, hs.timeless⟩ (hfails.fails _ ?_)
  rw [Script.answer_eq]
  exact (Script.take_sound hfails.some).1

/-- **What attempts come to that all fail**: their file is skipped, unless they come to a delay that
has no number. -/
theorem retry_fails (hu : c.base.bind ((Query.file path ref).address? · repo) = some u)
    (retries : Nat) {index : Nat} (hindex : index ≤ 1024) (hs : s.Calm)
    (hfails : AllFail u reason s) :
    ∃ e, (c.retry repo (.file path ref) retries index s).1 = .error (.failed e) ∧
      skipReason? e =
        if reason = .fetchFailed ∧ 1024 < index + retries then none else some reason := by
  induction retries generalizing index s with
  | zero =>
      obtain ⟨e, herror, hreason, -⟩ := send_fails hu hs hfails
      rw [retry_zero, if_neg (by omega)]
      exact ⟨e, herror, hreason⟩
  | succ retries ih =>
      obtain ⟨e, herror, hreason, htransient⟩ := send_fails hu hs hfails
      have hstill := (send_calm hs hu).still
      rw [retry_succ, herror, isTransient, htransient]
      by_cases hagain : reason = .fetchFailed
      · rw [if_pos (decide_eq_true hagain), delay?]
        by_cases hmore : index < 1024
        · rw [if_pos hmore]
          have hslept := hstill.wait (c.backoff.scale index)
          obtain ⟨e', herror', hreason'⟩ := ih hmore (hslept.calm hs) (hfails.after hslept)
          simp only [Timer.overrun_of_unlimited (hstill.limit.trans hs.timeless),
            Bool.false_eq_true, if_false]
          refine ⟨e', herror', ?_⟩
          rw [hreason', Nat.add_right_comm index 1 retries, Nat.add_assoc index retries 1]
        · rw [if_neg hmore, if_pos ⟨hagain, by omega⟩]
          exact ⟨_, rfl, rfl⟩
      · rw [if_neg (by simpa using hagain), if_neg (fun h => hagain h.1)]
        exact ⟨e, herror, hreason⟩

/-- **What becomes of a file whose replies all fail.** -/
theorem contents_fails {f : Candidate} (hbroken : f.broken = false) (hretries : 0 ≤ c.maxRetries)
    (hu : c.base.bind ((Query.file f.path ref).address? · repo) = some u) (hs : s.Calm)
    (hfails : AllFail u reason s) :
    ∃ e, (contents c repo f ref s).1 = .error (.failed e) ∧
      skipReason? e =
        if reason = .fetchFailed ∧ 1024 < c.maxRetries then none else some reason := by
  obtain ⟨e, herror, hreason⟩ := retry_fails (s := s.handOver) hu c.maxRetries.toNat
    (Nat.zero_le 1024) hs.handOver ⟨hfails.some, hfails.fails⟩
  refine ⟨e, ?_, ?_⟩
  · rw [contents, if_neg (by simp [hbroken]), file_eq, Client.get,
      if_neg (Int.not_lt.mpr hretries), herror]
    rfl
  · rw [hreason]
    congr 1
    rw [eq_iff_iff, and_congr_right_iff]
    omega

/-! ## Calm retrievals -/

theorem eq_error_of_map {α β : Type} {out : Except Stop α} {f : α → β} {stop : Stop}
    (h : out.map f = .error stop) : out = .error stop := by
  cases out with
  | ok a => simp [Except.map] at h
  | error e =>
      simp only [Except.map, Except.error.injEq] at h
      rw [h]

/-- In a calm session a file does not end the retrieval by time or limit. -/
theorem contents_calm (c : Client) (repo : Repository) (f : Candidate) (ref : Option String)
    (hs : s.Calm) :
    (contents c repo f ref s).1 ≠ .error .deadline ∧
      (∀ resetAt, (contents c repo f ref s).1 ≠ .error (.failed (.rateLimited resetAt))) ∧
      (contents c repo f ref s).2.Calm := by
  by_cases hask : Unaskable c repo ref s f
  · obtain ⟨cause, s', hcontents, halike⟩ := contents_of_unaskable hask
    rw [hcontents]
    refine ⟨by simp, by simp, ?_, halike.remaining.trans hs.remaining,
      halike.limit.trans hs.timeless⟩
    rw [halike.world]
    exact hs.script
  · rw [Unaskable, not_or] at hask
    cases hu : c.base.bind ((Query.file f.path ref).address? · repo) with
    | none => exact absurd (Or.inr (Or.inr ⟨exhausted_calm hs, hu⟩)) hask.2
    | some u =>
        obtain ⟨hinTime, hunlimited, hstill⟩ := get_calm hu hs.handOver
        rw [contents, if_neg hask.1, file_eq]
        exact ⟨fun h => hinTime (eq_error_of_map h), fun resetAt h => hunlimited resetAt
          (eq_error_of_map h), hstill.calm hs.handOver⟩

/-- It leaves the replies to other files as they are. -/
theorem contents_still {f : Candidate} (hbroken : f.broken = false)
    (hu : c.base.bind ((Query.file f.path ref).address? · repo) = some u) (hs : s.Calm) :
    Still (.ofList u.target) s (contents c repo f ref s).2 := by
  rw [contents, if_neg (by simp [hbroken]), file_eq]
  exact (get_calm hu hs.handOver).still.handOver

/-- Files that are dealt with leave a calm session calm. -/
theorem Through.calm {fs : List Candidate} {files : List Artifact} {skipped : List Skipped}
    (h : Through c repo limits ref fs s files skipped s') (hs : s.Calm) : s'.Calm := by
  induction h with
  | nil => exact hs
  | @kept f _ s _ _ _ _ _ hbody _ ih =>
      have hcalm := (contents_calm c repo f ref hs).2.2
      rw [hbody] at hcalm
      exact ih hcalm
  | @skipped f _ s _ _ _ _ _ _ hfailed _ _ _ ih =>
      have hcalm := (contents_calm c repo f ref hs).2.2
      rw [hfailed] at hcalm
      exact ih hcalm

/-- **In a calm session, files are dealt with in their turns**, unless the retrieval fails. -/
theorem through_of_calm {fs : List Candidate} {p : Progress} (hs : s.Calm)
    (ho : ∀ e, (retrieve c repo limits fs false p s).1 ≠ some (.failed e)) :
    ∃ files skipped s', Through c repo limits p.refText fs s files skipped s' := by
  induction fs generalizing p s with
  | nil => exact ⟨[], [], s, .nil s⟩
  | cons f fs ih =>
      obtain ⟨hinTime, hunlimited, hcalm⟩ := contents_calm c repo f p.refText hs
      rcases through_or_stops c repo limits p.refText f s with
        ⟨files, skipped, hdealt⟩ | hlate | ⟨e, hfailed, hnone⟩ | ⟨resetAt, hlimit⟩
      · rw [← List.singleton_append, retrieve_of_through hdealt] at ho
        obtain ⟨files', skipped', s', hrest⟩ := ih (p := p.add files skipped) hcalm ho
        exact ⟨_, _, s', hdealt.append hrest⟩
      · exact absurd hlate hinTime
      · exact absurd (retrieve_unusable (Prod.ext hfailed rfl) hnone fs) (ho e)
      · exact absurd hlimit (hunlimited resetAt)

/-! ## A file that fails -/

/-- A file that is dealt with can be asked for. -/
theorem askable_of_through {f : Candidate} {files : List Artifact} {skipped : List Skipped}
    (h : Through c repo limits ref [f] s files skipped s') :
    f.broken = false ∧ 0 ≤ c.maxRetries := by
  have hask : ¬ Unaskable c repo ref s f := by
    intro hask
    obtain ⟨cause, s₁, hcontents, -⟩ := contents_of_unaskable hask
    cases h with
    | kept hbody _ => simp [hbody] at hcontents
    | skipped hfailed hreason _ _ =>
        rw [hfailed] at hcontents
        obtain ⟨heq, -⟩ := Prod.mk.inj hcontents
        obtain rfl := Stop.failed.inj (Except.error.inj heq)
        simp [skipReason?] at hreason
  rw [Unaskable, not_or] at hask
  exact ⟨Bool.not_eq_true _ |>.mp hask.1, Int.not_lt.mp fun hlt => hask.2 (Or.inl hlt)⟩

/-- Each of them is kept or skipped. -/
theorem Through.paths {fs : List Candidate} {files : List Artifact} {skipped : List Skipped}
    (h : Through c repo limits ref fs s files skipped s') :
    (files.map Artifact.path ++ skipped.map Skipped.path).Perm (fs.map Candidate.path) := by
  have hstart : Accounts False [] Progress.start := ⟨.refl _, by simp [Progress.start]⟩
  simpa [Progress.add, Progress.start] using (h.accounts hstart).paths

/-- Files of other targets do not ask for a target. -/
theorem Through.asked_eq {fs : List Candidate} {files : List Artifact} {skipped : List Skipped}
    (h : Through c repo limits ref fs s files skipped s')
    (hother : ∀ g ∈ fs, ∀ v, c.base.bind ((Query.file g.path ref).address? · repo) = some v →
      String.ofList v.target ≠ target) : c.asked target s' = c.asked target s := by
  have hturn : ∀ f s, (∀ v, c.base.bind ((Query.file f.path ref).address? · repo) = some v →
      String.ofList v.target ≠ target) →
      c.asked target (contents c repo f ref s).2 = c.asked target s := by
    intro f s hf
    unfold contents
    split
    · rfl
    · rw [file_eq]
      exact asked_get_of_ne hf
  induction h with
  | nil => rfl
  | @kept f _ s _ _ _ _ _ hbody _ ih =>
      obtain ⟨hf, hfs⟩ := List.forall_mem_cons.mp hother
      have hfirst := hturn f s hf
      rw [hbody] at hfirst
      exact (ih hfs).trans hfirst
  | @skipped f _ s _ _ _ _ _ _ hfailed _ _ _ ih =>
      obtain ⟨hf, hfs⟩ := List.forall_mem_cons.mp hother
      have hfirst := hturn f s hf
      rw [hfailed] at hfirst
      exact (ih hfs).trans hfirst

/-- **Two sessions that are in step up to a file are in step after it**, if in both nothing changes
meanwhile but the replies to its target and the time, of which there is any amount. -/
theorem inStep_past {total : Nat} {s₁ s₁' : Session} (h : InStep c target total rest s s')
    (hs : s.timer.limit = none) (hstill : Still target s s₁) (hstill' : Still target s' s₁') :
    InStep c target (c.asked target s₁) (s₁'.world.script.replies target) s₁ s₁' where
  now := by rw [hstill'.now, hstill.now, h.now]
  remaining := by rw [hstill'.remaining, hstill.remaining, h.remaining]
  resetAt := by rw [hstill'.resetAt, hstill.resetAt, h.resetAt]
  others other hother := by
    rw [hstill'.others other hother, hstill.others other hother, h.others other hother]
  replies := by rw [Nat.sub_self, Script.firstReplies, List.nil_append]
  timer := Or.inr ⟨hstill.limit.trans hs, hstill'.limit.trans (h.timeless hs)⟩

/-- A session in step with a calm one is calm, if the replies that differ are. -/
theorem inStep_calm {total : Nat} (h : InStep c target total rest s s') (hs : s.Calm)
    (hreplies : s'.world.script.replies target = rest) (hrest : ∀ reply ∈ rest, reply.Calm) :
    s'.Calm := by
  refine ⟨fun other reply hreply => ?_, h.remaining.trans hs.remaining, h.timeless hs.timeless⟩
  by_cases hother : other = target
  · rw [hother, hreplies] at hreply
    exact hrest reply hreply
  · rw [h.others other hother] at hreply
    exact hs.script _ reply hreply

/-- Files dealt with leave no record under other paths. -/
theorem Through.filter {fs : List Candidate} {files : List Artifact} {skipped : List Skipped}
    (h : Through c repo limits ref fs s files skipped s') (keep : String → Bool) {b : Bool}
    (hall : ∀ f ∈ fs, keep f.path = b) :
    files.filter (fun a => keep a.path) = (if b then files else []) ∧
      skipped.filter (fun x => keep x.path) = if b then skipped else [] := by
  have hrecord : ∀ path ∈ files.map Artifact.path ++ skipped.map Skipped.path, keep path = b := by
    intro path hpath
    obtain ⟨f, hf, rfl⟩ := List.mem_map.mp (h.paths.mem_iff.mp hpath)
    exact hall f hf
  have hfiles : ∀ a ∈ files, keep a.path = b := fun a ha =>
    hrecord _ (List.mem_append_left _ (List.mem_map_of_mem ha))
  have hskipped : ∀ x ∈ skipped, keep x.path = b := fun x hx =>
    hrecord _ (List.mem_append_right _ (List.mem_map_of_mem hx))
  cases b with
  | true => exact ⟨List.filter_eq_self.mpr hfiles, List.filter_eq_self.mpr hskipped⟩
  | false =>
      refine ⟨List.filter_eq_nil_iff.mpr fun a ha => ?_, List.filter_eq_nil_iff.mpr fun x hx => ?_⟩
      · rw [hfiles a ha]
        decide
      · rw [hskipped x hx]
        decide

theorem path_ne_of_nodup {before after : List Candidate} {f g : Candidate}
    (hpaths : ((before ++ f :: after).map Candidate.path).Nodup) (hg : g ∈ before ++ after) :
    g.path ≠ f.path := by
  simp only [List.map_append, List.map_cons, List.nodup_append, List.nodup_cons] at hpaths
  rcases List.mem_append.mp hg with hg | hg
  · exact hpaths.2.2 _ (List.mem_map_of_mem hg) _ List.mem_cons_self
  · exact fun heq => hpaths.2.1.1 (heq ▸ List.mem_map_of_mem hg)

/-- Up to a file whose replies are diverted, two runs are in step, and from there on all replies to
it fail. -/
theorem Through.reaches {before : List Candidate} {files : List Artifact} {skipped : List Skipped}
    {s₁ : Session} (hbefore : Through c repo limits ref before s files skipped s₁) (hs : s.Calm)
    (hstep : InStep c (.ofList u.target) 0 rest s s')
    (hasked : c.asked (.ofList u.target) s₁ = 0) (hrest : rest ≠ [])
    (hfails : ∀ reply ∈ rest, reply.Calm ∧ Fails u reply reason) :
    ∃ s₁', Through c repo limits ref before s' files skipped s₁' ∧
      InStep c (.ofList u.target) 0 rest s₁ s₁' ∧ s₁'.Calm ∧ AllFail u reason s₁' := by
  obtain ⟨s₁', hbefore', hstep'⟩ := hbefore.agrees hrest hstep (Nat.le_of_eq hasked)
  have hreplies : s₁'.world.script.replies (.ofList u.target) = rest := by
    rw [hstep'.replies, Nat.zero_sub, Script.firstReplies, List.nil_append]
  refine ⟨s₁', hbefore', hstep', ?_, ?_⟩
  · exact inStep_calm hstep' (hbefore.calm hs) hreplies fun reply hreply => (hfails reply hreply).1
  · exact ⟨hreplies ▸ hrest, hreplies ▸ fun reply hreply => (hfails reply hreply).2⟩

/-- Of the records of some files, those of the files before and after one of them. -/
theorem filter_around {before after : List Candidate} {f : Candidate} {s₁ s₂ s₃ s₄ : Session}
    {files₁ files₂ files₃ : List Artifact} {skipped₁ skipped₂ skipped₃ : List Skipped}
    (hpaths : ((before ++ f :: after).map Candidate.path).Nodup)
    (hbefore : Through c repo limits ref before s₁ files₁ skipped₁ s₂)
    (hfile : Through c repo limits ref [f] s₂ files₂ skipped₂ s₃)
    (hafter : Through c repo limits ref after s₃ files₃ skipped₃ s₄) :
    (files₁ ++ (files₂ ++ files₃)).filter (fun a => a.path ≠ f.path) = files₁ ++ files₃ ∧
      (skipped₁ ++ (skipped₂ ++ skipped₃)).filter (fun x => x.path ≠ f.path) =
        skipped₁ ++ skipped₃ := by
  have hother : ∀ g ∈ before ++ after, decide (g.path ≠ f.path) = true := fun g hg =>
    decide_eq_true (path_ne_of_nodup hpaths hg)
  obtain ⟨hfiles₁, hskipped₁⟩ := hbefore.filter (fun path => decide (path ≠ f.path))
    fun g hg => hother g (List.mem_append_left _ hg)
  obtain ⟨hfiles₂, hskipped₂⟩ := hfile.filter (fun path => decide (path ≠ f.path)) (b := false)
    (by simp)
  obtain ⟨hfiles₃, hskipped₃⟩ := hafter.filter (fun path => decide (path ≠ f.path))
    fun g hg => hother g (List.mem_append_right _ hg)
  constructor
  · rw [List.filter_append, List.filter_append, hfiles₁, hfiles₂, hfiles₃]
    rfl
  · rw [List.filter_append, List.filter_append, hskipped₁, hskipped₂, hskipped₃]
    rfl

/-- **One file's failure does not touch the others.** Let some files be dealt with in their turns,
in a calm session, and let all replies to one of them fail instead. Then this file is skipped and
all else is as before, unless the attempts at it come to a delay that has no number; in this case
the retrieval fails. -/
theorem retrieve_failing {before after : List Candidate} {f : Candidate} {p : Progress}
    {files : List Artifact} {skipped : List Skipped} {s₁ : Session}
    (hthrough : Through c repo limits p.refText (before ++ f :: after) s files skipped s₁)
    (hpaths : ((before ++ f :: after).map Candidate.path).Nodup) (hs : s.Calm)
    (hu : c.base.bind ((Query.file f.path p.refText).address? · repo) = some u)
    (hother : ∀ g ∈ before ++ after, ∀ v,
      c.base.bind ((Query.file g.path p.refText).address? · repo) = some v →
        String.ofList v.target ≠ .ofList u.target)
    (hstep : InStep c (.ofList u.target) 0 rest s s') (hasked : c.asked (.ofList u.target) s = 0)
    (hrest : rest ≠ []) (hfails : ∀ reply ∈ rest, reply.Calm ∧ Fails u reply reason) :
    (reason = .fetchFailed ∧ 1024 < c.maxRetries →
        ∃ e, (retrieve c repo limits (before ++ f :: after) false p s').1 = some (.failed e)) ∧
      (¬ (reason = .fetchFailed ∧ 1024 < c.maxRetries) → ∃ skipped' s₁',
        retrieve c repo limits (before ++ f :: after) false p s' =
          (none, p.add (files.filter fun a => a.path ≠ f.path) skipped', s₁') ∧
        skipped'.Perm (⟨f.path, reason.name⟩ :: skipped.filter fun x => x.path ≠ f.path)) := by
  obtain ⟨files₁, files₂, skipped₁, skipped₂, s₂, rfl, rfl, hbefore, hlater⟩ := hthrough.split
  obtain ⟨files₀, files₃, skipped₀, skipped₃, s₃, rfl, rfl, hfile, hafter⟩ :=
    (show Through c repo limits p.refText ([f] ++ after) _ _ _ _ from hlater).split
  obtain ⟨hbroken, hretries⟩ := askable_of_through hfile
  obtain rfl := session_of_through hfile
  have hcalm := hbefore.calm hs
  have hasked₂ := hbefore.asked_eq fun g hg => hother g (List.mem_append_left _ hg)
  have hasked₁ := hafter.asked_eq fun g hg => hother g (List.mem_append_right _ hg)
  obtain ⟨s₂', hbefore', hstep₂, hcalm', hall⟩ := hbefore.reaches hs hstep (by omega) hrest hfails
  obtain ⟨e, herror, hreason⟩ := contents_fails hbroken hretries hu hcalm' hall
  refine ⟨fun hover => ?_, fun hover => ?_⟩
  · rw [if_pos hover] at hreason
    rw [retrieve_of_through hbefore']
    exact ⟨e, retrieve_unusable (p := p.add _ _) (Prod.ext herror rfl) hreason after⟩
  rw [if_neg hover] at hreason
  have hlimit : reason ≠ .rateLimited := by
    obtain ⟨reply, hreply⟩ := List.exists_mem_of_ne_nil _ hrest
    cases (hfails reply hreply).2 <;> simp
  -- After the file they are in step again, as nothing but its replies has changed.
  have hstill' := contents_still hbroken hu hcalm'
  have hstep₃ := inStep_past hstep₂ hcalm.timeless (contents_still hbroken hu hcalm) hstill'
  obtain ⟨s₁', hafter', -⟩ := hafter.agrees (hstill'.left hall.some) hstep₃ (by omega)
  have hwhole := hbefore'.append (.skipped (Prod.ext herror rfl) hreason hlimit hafter')
  obtain ⟨hfiles, hskipped⟩ := filter_around hpaths hbefore hfile hafter
  refine ⟨skipped₁ ++ ⟨f.path, reason.name⟩ :: skipped₃, s₁', ?_, ?_⟩
  · rw [retrieve_all_through hwhole, hfiles]
  · rw [hskipped]
    exact List.perm_middle

end

end SourceAudit.Retrieval
