import SourceAudit.Proofs.Retrieval.Uses
import SourceAudit.Proofs.Scan.Failures

/-!
# SourceAudit.Proofs.Scan.Sources

Which responses a scan takes its data from. They are replies to its queries whose status stands for
success, or leads astray: a reply that says that the answer is elsewhere passes for the answer.

* `ReadFrom` — the responses that the data of a retrieval are read from;
* `accepted_becomes_data` — where the data of a retrieval and of a report come from, and when all of
  the responses used are successes;
* `astray_becomes_data` — a report on a listing that is elsewhere.
-/

namespace SourceAudit

open Remote Remote.Session Remote.Client Retrieval

namespace Retrieval

/-- What a retrieval has come to is read from some responses: it makes the queries that they answer,
each of them is a reply of the world, and it is a success exactly if it does not lead astray. -/
structure ReadFrom (c : Client) (repo : Repository) (limits : Limits) (s : Session)
    (uses : List (Query × Response)) (p : Progress) (s' : Session) : Prop where
  made : Uses c repo s uses s'
  sourced : Sourced repo limits uses p
  arrived : ∀ use ∈ uses, c.Arrived repo s.world.script use.1 use.2
  success_iff : ∀ use ∈ uses, Succeeds use.1 use.2 ↔ ¬ Astray use.2
  successes : s.world.script.Direct → ∀ use ∈ uses, Succeeds use.1 use.2

/-- Uses in which all that is retrieved has its source are what the progress is read from. -/
theorem Uses.readFrom {c : Client} {repo : Repository} {limits : Limits} {s s' : Session}
    {uses : List (Query × Response)} {p : Progress} (h : Uses c repo s uses s')
    (hsourced : Sourced repo limits uses p) : ReadFrom c repo limits s uses p s' where
  made := h
  sourced := hsourced
  arrived use huse := (h.accepts use huse).1
  success_iff use huse := not_astray_iff (h.accepts use huse).2
  successes hdirect use huse :=
    (h.accepts use huse).2.resolve_right ((h.accepts use huse).1.direct hdirect)

end Retrieval

namespace Scanner

section

variable {s : Scanner} {repo : Repository} {token : Option String} {world : World} {r : Report}

/-- A report that is made because the time is over says that it is incomplete. -/
theorem truncated_of_deadline (hreport : (s.scan repo token world).1 = .ok r)
    (hlate : (s.retrieveInTime repo token (.start world)).1 = some .deadline) :
    r.truncated = true := by
  rcases hout : s.retrieveInTime repo token (.start world) with ⟨stop, p, session⟩
  rw [hout] at hlate
  obtain rfl : stop = _ := hlate
  rw [scan, hout] at hreport
  exact (report_eq hreport).2

/-- **Only responses that the client accepts become data.** Everything that a retrieval has come to,
in whatever session and with whatever workers, is read from responses to its queries; each of these
is a reply of the world, and it is a success exactly if it does not lead astray. So all of them are
successes where no reply does. A scan reports only if its first query for a listing is among those
answered, or because the time is over before; and the files that it searches are the bodies of such
responses. -/
theorem accepted_becomes_data (s : Scanner) (repo : Repository) (token : Option String)
    (world : World) :
    (∀ session workers, let run := fetch (s.client token) repo s.settings.limits session workers
      ∃ uses, ReadFrom (s.client token) repo s.settings.limits session uses run.2.1 run.2.2) ∧
    let run := fetch (s.client token) repo s.settings.limits (s.opening world)
      s.settings.fetchConcurrency
    let inTime := s.retrieveInTime repo token (.start world)
    ∃ uses, ReadFrom (s.client token) repo s.settings.limits (s.opening world) uses run.2.1
        run.2.2 ∧
      ∀ r, (s.scan repo token world).1 = .ok r →
        ((∃ version listing, (.tree version true, listing) ∈ uses) ∨
          inTime.1 = some .deadline ∧ inTime.2.1.considered = 0 ∧ r.truncated = true) ∧
        ∀ a ∈ inTime.2.1.files, ∃ body, (.file a.path inTime.2.1.refText, body) ∈ uses ∧
          a = artifactOf s.settings.limits a.path body.body := by
  refine ⟨fun session workers => ?_, ?_⟩
  · obtain ⟨uses, huses, hsourced, -⟩ :=
      fetch_uses (s.client token) repo s.settings.limits session workers
    exact ⟨uses, huses.readFrom hsourced⟩
  intro run inTime
  obtain ⟨uses, huses, hsourced, hlisted⟩ := fetch_uses (s.client token) repo s.settings.limits
    (s.opening world) s.settings.fetchConcurrency
  refine ⟨uses, huses.readFrom hsourced, fun r hreport => ?_⟩
  have hstop := (report_of_scan hreport).1
  have htruncated := truncated_of_deadline hreport
  by_cases htime : s.settings.scanDeadline.atMost 0 = true
  · have hnone : inTime = (some .deadline, .start, .start world) := if_pos htime
    rw [hnone]
    exact ⟨Or.inr ⟨rfl, rfl, htruncated (congrArg Prod.fst hnone)⟩, by simp [Progress.start]⟩
  · have hrun : inTime = run := if_neg htime
    constructor
    · rcases hlisted with hlisted | ⟨hsome, hnothing⟩
      · exact Or.inl hlisted
      have hlate : inTime.1 = some .deadline := by
        rcases hout : inTime.1 with _ | e | _
        · exact absurd ((congrArg Prod.fst hrun).symm.trans hout) hsome
        · exact absurd hout (hstop e)
        · rfl
      exact Or.inr ⟨hlate, hrun ▸ hnothing, htruncated hlate⟩
    · intro a ha
      rw [hrun] at ha ⊢
      exact (hsourced.files a ha).2

end

end Scanner

namespace Sample

/-- No reply of a success is astray. -/
theorem direct_success (text : String) :
    ∀ reply ∈ success text, ∀ r, reply.outcome = .response r → ¬ Astray r := by
  refine List.forall_mem_singleton.mpr fun r hr => ?_
  obtain rfl := Outcome.response.inj hr
  simp [Astray]

theorem direct_twoFiles : twoFiles.script.Direct := by
  refine Script.forall_replies fun entry hentry => ?_
  simp only [twoFiles, worldOf, List.mem_cons, List.not_mem_nil, or_false] at hentry
  rcases hentry with rfl | rfl | rfl <;> exact direct_success _

/-- All responses that the scan of the two files uses are successes, and a listing is among them. -/
theorem accepted_becomes_data_twoFiles : ∃ uses : List (Query × Response),
    (∀ use ∈ uses, (patient.client none).Arrived mainBranch twoFiles.script use.1 use.2) ∧
      (∀ use ∈ uses, Succeeds use.1 use.2) ∧
      ∃ version listing, (.tree version true, listing) ∈ uses := by
  have hrun : (patient.scan mainBranch none twoFiles).1.isOk = true ∧
      (patient.retrieveInTime mainBranch none (.start twoFiles)).1 = none := by
    decide +kernel
  obtain ⟨hok, hout⟩ := hrun
  obtain ⟨r, hreport⟩ := Scanner.exists_report hok
  obtain ⟨-, uses, hread, hscan⟩ :=
    Scanner.accepted_becomes_data patient mainBranch none twoFiles
  refine ⟨uses, hread.arrived, hread.successes direct_twoFiles, ?_⟩
  exact (hscan r hreport).1.resolve_right fun ⟨hlate, _⟩ => by simp [hout] at hlate

/-- A world in which the listing is elsewhere. -/
def movedWorld : World where
  now := 1700000000
  script := ⟨[("/repos/o/n/git/trees/main?recursive=1",
    [⟨.response ⟨301, ⟨[("location", "https://api.github.com/repositories/1/git/trees/main")]⟩,
      Text.bytesOf "\x7b\"message\":\"Moved Permanently\"\x7d"⟩, none⟩])]⟩

/-- **A listing that is elsewhere passes for one without files**: it is no success, and there is a
report, which is not due to the end of the time. -/
theorem astray_becomes_data : ∃ r listing session,
    (scanner.scan mainBranch none movedWorld).1 = .ok r ∧
      (scanner.client none).get mainBranch (.tree "main" true) (.start movedWorld) =
        (.ok listing, session) ∧
      ¬ Succeeds (.tree "main" true) listing ∧
      (scanner.retrieveInTime mainBranch none (.start movedWorld)).1 = none := by
  have hrun : (scanner.scan mainBranch none movedWorld).1.isOk = true ∧
      ((scanner.client none).get mainBranch (.tree "main" true) (.start movedWorld)).1.map
        Response.status = .ok 301 ∧
      (scanner.retrieveInTime mainBranch none (.start movedWorld)).1 = none := by
    decide +kernel
  obtain ⟨hok, hget, hnone⟩ := hrun
  obtain ⟨r, hreport⟩ := Scanner.exists_report hok
  rcases hanswer : (scanner.client none).get mainBranch (.tree "main" true) (.start movedWorld) with
    ⟨stop | listing, session⟩
  · rw [hanswer] at hget
    simp [Except.map] at hget
  rw [hanswer] at hget
  have hstatus : listing.status = 301 := Except.ok.inj hget
  refine ⟨r, listing, session, hreport, rfl, ?_, hnone⟩
  rintro (hsuccess | ⟨-, hconflict⟩) <;> omega

end Sample

end SourceAudit
