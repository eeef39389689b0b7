import SourceAudit.Proofs.Remote.Requests
import SourceAudit.Retrieval.Fetch

/-!
# SourceAudit.Proofs.Retrieval.Asking

When a retrieval asks for the body of a file, and when it fails.

* `ofVersion_sends` — a listing asks for no body, be it made at once or by a walk;
* `retrieve_of_held` and `retrieve_of_not_held` — the chosen files are retrieved without asking for
  any of them exactly if none can be asked for, or if the limit of requests is known to be reached;
  then it fails if the first file, or any file, cannot be asked for;
* `refused_version_iff` — the retrieval of a version fails without asking for a body exactly if the
  version is *unretrievable*.
-/

namespace SourceAudit.Retrieval

open Remote Remote.Session Remote.Client

section

variable (c : Client) (repo : Repository) (limits : Limits)

/-! ## Listings -/

/-- A walk that comes to an end has asked for no body of a file. -/
theorem walk_sends (pending : List Listing.Pending) (l : Listing) (s : Session)
    (r : Except Stop Listing × Session)
    (h : Listing.walk c repo limits pending l s = some r) :
    Sends Query.lookup.accept s r.2 := by
  -- The induction is on how the walk came to its end: what holds of the walk below a step holds of
  -- the walk that makes the step.
  refine Listing.walk.partial_correctness c repo limits
    (fun _ _ s r => Sends Query.lookup.accept s r.2) ?_ pending l s r h
  intro walk ih pending l s r h
  cases pending with
  | nil =>
      obtain rfl := Option.some.inj h
      exact .refl s
  | cons p pending =>
      have htree := c.tree_sends repo p.version false s
      simp only at h
      split at h
      · obtain rfl := Option.some.inj h
        exact .refl s
      · split at h
        · next hout =>
          rw [hout] at htree
          obtain rfl := Option.some.inj h
          exact htree
        · next hout =>
          rw [hout] at htree
          split at h
          · exact htree.trans (ih _ _ _ _ h)
          · obtain rfl := Option.some.inj h
            exact htree
        · next hout =>
          rw [hout] at htree
          obtain rfl := Option.some.inj h
          exact htree

/-- A listing asks for no body of a file. -/
theorem ofVersion_sends (version : Json) (s : Session) :
    Sends Query.lookup.accept s (Listing.ofVersion c repo limits version s).2 := by
  have htree := c.tree_sends repo version true s
  unfold Listing.ofVersion
  split
  · next hout =>
    rw [hout] at htree
    exact htree
  · next hout =>
    rw [hout] at htree
    exact htree
  · next hout =>
    rw [hout] at htree
    split
    · split
      · exact htree
      · split
        · next hwalk => exact htree.trans (walk_sends c repo limits _ _ _ _ hwalk)
        · exact htree
    · split <;> exact htree
  · next hout =>
    rw [hout] at htree
    exact htree

end

/-! ## Files -/

/-- A file cannot be asked for: its path is broken, or a request for it cannot be made. -/
def Unaskable (c : Client) (repo : Repository) (ref : Option String) (s : Session) (f : Candidate) :
    Prop :=
  f.broken = true ∨ Unsendable c repo (.file f.path ref) s

section

variable {c : Client} {repo : Repository} {ref : Option String} {s s' : Session} {f : Candidate}

theorem unsendable_congr {q : Query} (h : Alike s s') :
    Unsendable c repo q s' ↔ Unsendable c repo q s := by
  rw [Unsendable, Unsendable, exhausted_congr h]

theorem unaskable_congr (h : Alike s s') :
    Unaskable c repo ref s' f ↔ Unaskable c repo ref s f := by
  rw [Unaskable, Unaskable, unsendable_congr h]

theorem held_congr (h : Alike s s') : Held s' ↔ Held s := by
  rw [Held, Held, exhausted_congr h]

/-- The contents of a file are asked for by requests for files. -/
theorem contents_sends (c : Client) (repo : Repository) (f : Candidate) (ref : Option String)
    (s : Session) :
    Sends (Query.file "" none).accept s (contents c repo f ref s).2 := by
  unfold contents
  split
  · exact .refl s
  · exact (alike_handOver s).sends.trans (c.file_sends repo f.path ref s.handOver)

/-- A worker that is alone is still alone when there is an answer for its file. -/
theorem alone_contents (c : Client) (repo : Repository) (f : Candidate) (ref : Option String)
    (h : s.timer.others = []) : (contents c repo f ref s).2.timer.others = [] := by
  unfold contents
  split
  · exact h
  · obtain ⟨elapsed, htimer⟩ := c.timer_get repo (.file f.path ref) s.handOver
    rw [session_file, htimer]
    exact (congrArg Timer.others (Timer.handOver_of_alone h)).trans h

/-- A file without an address is not asked for. -/
theorem contents_of_unaskable (h : Unaskable c repo ref s f) :
    ∃ cause s', contents c repo f ref s = (.error (.failed (.unusable cause)), s') ∧
      Alike s s' := by
  unfold contents
  by_cases hbroken : f.broken = true
  · rw [if_pos hbroken]
    exact ⟨.request, s, rfl, .refl s⟩
  · rw [if_neg hbroken]
    have hsend := (unsendable_congr (alike_handOver s)).mpr (h.resolve_left hbroken)
    obtain ⟨cause, s', hget, halike⟩ := get_of_unsendable hsend
    exact ⟨cause, s', by rw [file, hget], (alike_handOver s).trans halike⟩

/-- Nor is one at the limit. -/
theorem contents_of_held (h : ¬ Unaskable c repo ref s f) (hheld : Held s) :
    ∃ resetAt, contents c repo f ref s = (.error (.failed (.rateLimited resetAt)), s.handOver) := by
  rw [Unaskable, not_or] at h
  obtain ⟨hbroken, hsend⟩ := h
  obtain ⟨resetAt, hget⟩ : ∃ resetAt, c.get repo (.file f.path ref) s.handOver = _ :=
    get_of_held (fun hlt => hsend (Or.inl hlt)) ((held_congr (alike_handOver s)).mpr hheld)
  exact ⟨resetAt, by rw [contents, if_neg hbroken, file, hget]⟩

/-- Any other file is. -/
theorem contents_asks (h : ¬ Unaskable c repo ref s f) (hheld : ¬ Held s) :
    ¬ (contents c repo f ref s).2.NoFile := by
  rw [Unaskable, not_or] at h
  obtain ⟨x, hx, haccept⟩ := get_asks (mt (unsendable_congr (alike_handOver s)).mp h.2)
    (mt (held_congr (alike_handOver s)).mp hheld)
  rw [contents, if_neg h.1, session_file]
  exact fun hnone => hnone x hx haccept

/-! ## Retrieving the chosen files -/

variable (c repo) (limits : Limits)

/-- Once the limit is reached, no file is asked for: all are skipped. -/
theorem retrieve_skips (fs : List Candidate) (p : Progress) (s : Session) :
    retrieve c repo limits fs true p s =
      (none, { p with skipped := p.skipped ++ fs.map (⟨·.path, SkipReason.rateLimited.name⟩) },
        s) := by
  induction fs generalizing p with
  | nil => simp [retrieve]
  | cons f fs ih =>
      rw [retrieve, ih]
      simp [Progress.skip]

/-- Behind the limit all files are skipped. -/
theorem retrieve_limited (fs : List Candidate) (p : Progress) (s : Session) :
    ∃ p', retrieve c repo limits fs true p s = (none, p', s) :=
  ⟨_, retrieve_skips c repo limits fs p s⟩

/-- What is asked for the first file is asked. -/
theorem retrieve_cons_sends (f : Candidate) (fs : List Candidate) (p : Progress) (s : Session)
    (hrest : ∀ limited p s, Sends (Query.file "" none).accept s
      (retrieve c repo limits fs limited p s).2.2) :
    Sends (Query.file "" none).accept (contents c repo f p.refText s).2
      (retrieve c repo limits (f :: fs) false p s).2.2 := by
  unfold retrieve
  split
  · next hout =>
    rw [hout]
    exact hrest _ _ _
  · next hout =>
    rw [hout]
    split
    · exact (alike_lose _).sends
    · exact (alike_lose _).sends.trans (hrest _ _ _)
  · next hout =>
    rw [hout]
    split
    · exact hrest _ _ _
    · exact hrest _ _ _
    · exact hrest _ _ _

/-- A retrieval sends requests for files only. -/
theorem retrieve_sends (fs : List Candidate) (limited : Bool) (p : Progress) (s : Session) :
    Sends (Query.file "" none).accept s (retrieve c repo limits fs limited p s).2.2 := by
  induction fs generalizing limited p s with
  | nil => exact .refl s
  | cons f fs ih =>
      cases limited with
      | true => exact ih true _ s
      | false =>
          exact (contents_sends c repo f p.refText s).trans
            (retrieve_cons_sends c repo limits f fs p s ih)

/-- A file that cannot be asked for makes the retrieval fail, after the files that follow it. -/
theorem retrieve_of_unaskable {p : Progress} (h : Unaskable c repo p.refText s f)
    (fs : List Candidate) :
    ∃ e s', Alike s s' ∧ retrieve c repo limits (f :: fs) false p s =
      (some (.failed e), (retrieve c repo limits fs false p s').2) := by
  obtain ⟨cause, s', hcontents, halike⟩ := contents_of_unaskable h
  refine ⟨.unusable cause, s', halike, ?_⟩
  rw [retrieve, hcontents]
  rfl

theorem retrieve_of_rateLimited {p : Progress} {resetAt : Option Instant}
    (h : contents c repo f p.refText s = (.error (.failed (.rateLimited resetAt)), s'))
    (fs : List Candidate) :
    ∃ p', retrieve c repo limits (f :: fs) false p s = (none, p', s') := by
  rw [retrieve, h]
  exact retrieve_limited c repo limits fs _ s'

/-- With the limit known to be reached, no file is asked for, and the retrieval fails if the first
one cannot be asked for at all. -/
theorem retrieve_of_held (fs : List Candidate) {p : Progress} (hheld : Held s) :
    Alike s (retrieve c repo limits fs false p s).2.2 ∧
      ((∃ e, (retrieve c repo limits fs false p s).1 = some (.failed e)) ↔
        ∃ f rest, fs = f :: rest ∧ Unaskable c repo p.refText s f) := by
  induction fs generalizing s with
  | nil => exact ⟨.refl s, by simp [retrieve]⟩
  | cons f fs ih =>
      by_cases hf : Unaskable c repo p.refText s f
      · obtain ⟨e, s', halike, hout⟩ := retrieve_of_unaskable c repo limits hf fs
        rw [hout]
        exact ⟨halike.trans (ih ((held_congr halike).mpr hheld)).1,
          fun _ => ⟨f, fs, rfl, hf⟩, fun _ => ⟨e, rfl⟩⟩
      · obtain ⟨resetAt, hcontents⟩ := contents_of_held hf hheld
        obtain ⟨p', hout⟩ := retrieve_of_rateLimited c repo limits hcontents fs
        rw [hout]
        refine ⟨alike_handOver s, fun ⟨e, he⟩ => by simp at he, ?_⟩
        rintro ⟨g, rest, heq, hg⟩
        obtain ⟨rfl, _⟩ := List.cons.inj heq
        exact absurd hg hf

/-- Without such a limit, no file is asked for only if none can be, and then the retrieval fails if
there is one. -/
theorem retrieve_of_not_held (fs : List Candidate) {p : Progress} (hheld : ¬ Held s)
    (hs : s.NoFile) :
    ((retrieve c repo limits fs false p s).2.2.NoFile ↔
        ∀ f ∈ fs, Unaskable c repo p.refText s f) ∧
      ((∀ f ∈ fs, Unaskable c repo p.refText s f) →
        ((∃ e, (retrieve c repo limits fs false p s).1 = some (.failed e)) ↔ fs ≠ [])) := by
  induction fs generalizing s with
  | nil => exact ⟨by simpa [retrieve] using hs, by simp [retrieve]⟩
  | cons f fs ih =>
      by_cases hf : Unaskable c repo p.refText s f
      · obtain ⟨e, s', halike, hout⟩ := retrieve_of_unaskable c repo limits hf fs
        have hrest := ih (mt (held_congr halike).mp hheld) (halike.noFile.mpr hs)
        simp only [unaskable_congr halike] at hrest
        rw [hout]
        simp only [List.forall_mem_cons, hf, true_and]
        exact ⟨hrest.1, fun _ => by simp⟩
      · have hasks := contents_asks hf hheld
        have hlater := retrieve_cons_sends c repo limits f fs p s (retrieve_sends c repo limits fs)
        refine ⟨⟨fun hnone => ?_, fun hall => absurd (hall f List.mem_cons_self) hf⟩,
          fun hall => absurd (hall f List.mem_cons_self) hf⟩
        exact absurd (hlater.noFile_before hnone) hasks

/-- **Failing without asking for a file**: the first chosen file cannot be asked for and, unless the
limit of requests is known to be reached, neither can the others. -/
theorem retrieve_refused_iff (fs : List Candidate) {p : Progress} (hp : p.refText = ref)
    (hs : s.NoFile) :
    ((∃ e, (retrieve c repo limits fs false p s).1 = some (.failed e)) ∧
        (retrieve c repo limits fs false p s).2.2.NoFile) ↔
      ∃ f rest, fs = f :: rest ∧ Unaskable c repo ref s f ∧
        (Held s ∨ ∀ g ∈ rest, Unaskable c repo ref s g) := by
  subst hp
  by_cases hheld : Held s
  · obtain ⟨halike, hfails⟩ := retrieve_of_held c repo limits fs hheld
    rw [hfails]
    constructor
    · rintro ⟨⟨f, rest, hfs, hf⟩, _⟩
      exact ⟨f, rest, hfs, hf, Or.inl hheld⟩
    · rintro ⟨f, rest, hfs, hf, _⟩
      exact ⟨⟨f, rest, hfs, hf⟩, halike.noFile.mpr hs⟩
  · obtain ⟨hnone, hfails⟩ :=
      retrieve_of_not_held c repo limits fs hheld hs
    rw [hnone]
    constructor
    · rintro ⟨hfail, hall⟩
      obtain ⟨f, rest, rfl⟩ := List.exists_cons_of_ne_nil ((hfails hall).mp hfail)
      obtain ⟨hf, hrest⟩ := List.forall_mem_cons.mp hall
      exact ⟨f, rest, rfl, hf, Or.inr hrest⟩
    · rintro ⟨f, rest, rfl, hf, hrest⟩
      have hall := List.forall_mem_cons.mpr ⟨hf, hrest.resolve_left hheld⟩
      exact ⟨(hfails hall).mpr (List.cons_ne_nil f rest), hall⟩

end

/-! ## Retrieving a version -/

/-- A number of workers comes to nothing with the chosen files: there cannot be fewer workers than
none, or the first file cannot be asked for and, unless the limit of requests is known to be
reached, neither can the others. -/
def Hopeless (c : Client) (repo : Repository) (ref : String) (workers : Int) (fs : List Candidate)
    (s : Session) : Prop :=
  workers < 0 ∨ (0 < workers ∧ ∃ f rest, fs = f :: rest ∧ Unaskable c repo (some ref) s f ∧
    (Held s ∨ ∀ g ∈ rest, Unaskable c repo (some ref) s g))

/-- The retrieval of a version by a number of workers comes to nothing: it cannot be listed, or the
workers come to nothing with the files chosen from its listing. -/
def Unretrievable (c : Client) (repo : Repository) (limits : Limits) (workers : Int) (ref : String)
    (s : Session) : Prop :=
  match Listing.ofVersion c repo limits (.str ref) s with
  | (.error (.failed _), _) => True
  | (.error .deadline, _) => False
  | (.ok none, s') => Hopeless c repo ref workers [] s'
  | (.ok (some l), s') => Hopeless c repo ref workers
      (Plan.ofCandidates limits.maxFileSize limits.maxTotalBytes l.candidates).chosen s'

theorem refText_of_ref {p : Progress} {ref : String} (h : p.ref = some (.str ref)) :
    p.refText = some ref := by
  rw [Progress.refText, h]

/-- Workers fail without asking for a file exactly if they come to nothing. -/
theorem retrieveBy_refused_iff (c : Client) (repo : Repository) (limits : Limits) {ref : String}
    (workers : Int) (fs : List Candidate) {s : Session} (hs : s.NoFile) {p : Progress}
    (hp : p.ref = some (.str ref)) :
    ((∃ e, (retrieveBy c repo limits workers fs p s).1 = some (.failed e)) ∧
        (retrieveBy c repo limits workers fs p s).2.2.NoFile) ↔
      Hopeless c repo ref workers fs s := by
  unfold retrieveBy Hopeless
  by_cases hnegative : workers < 0
  · rw [if_pos hnegative]
    exact ⟨fun _ => Or.inl hnegative, fun _ => ⟨⟨_, rfl⟩, hs⟩⟩
  rw [if_neg hnegative]
  by_cases hidle : workers = 0 ∧ fs ≠ []
  · rw [if_pos hidle]
    simp [hidle.1]
  rw [if_neg hidle]
  have halike := alike_recruit s workers.toNat
  rw [retrieve_refused_iff c repo limits fs (refText_of_ref hp) (halike.noFile.mpr hs)]
  simp only [unaskable_congr halike, held_congr halike, hnegative, false_or]
  refine ⟨fun h => ⟨?_, h⟩, fun h => h.2⟩
  obtain ⟨f, rest, rfl, -⟩ := h
  have hsome : workers ≠ 0 := fun hzero => hidle ⟨hzero, List.cons_ne_nil f rest⟩
  omega

/-- **When a version is refused**: its retrieval fails without asking for a file exactly if it is
unretrievable. -/
theorem refused_version_iff (c : Client) (repo : Repository) (limits : Limits) (workers : Int)
    (ref : String) {s : Session} (hs : s.NoFile) {p : Progress} (hp : p.ref = some (.str ref)) :
    ((∃ e, (retrieveVersion c repo limits workers (.str ref) p s).1 = some (.failed e)) ∧
        (retrieveVersion c repo limits workers (.str ref) p s).2.2.NoFile) ↔
      Unretrievable c repo limits workers ref s := by
  have hlist := (ofVersion_sends c repo limits (.str ref) s).noFile (by decide) hs
  unfold retrieveVersion Unretrievable
  rcases hout : Listing.ofVersion c repo limits (.str ref) s with ⟨stop | listed, s'⟩
  · rw [hout] at hlist
    cases stop with
    | failed e => exact ⟨fun _ => trivial, fun _ => ⟨⟨e, rfl⟩, hlist⟩⟩
    | deadline => simp
  · rw [hout] at hlist
    cases listed with
    | none => exact retrieveBy_refused_iff c repo limits workers [] hlist hp
    | some l => exact retrieveBy_refused_iff c repo limits workers _ hlist hp

end SourceAudit.Retrieval
