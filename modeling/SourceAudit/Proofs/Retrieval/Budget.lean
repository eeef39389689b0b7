import SourceAudit.Proofs.Retrieval.Uses
import SourceAudit.Proofs.Scan.Listed

/-!
# SourceAudit.Proofs.Retrieval.Budget

Which files a retrieval chooses, and how many bytes it keeps. The files are chosen by the sizes that
the listing states, so that these do not exceed the total; what is kept of a file is cut to the size
that one file may have, and to nothing else. Each candidate is chosen, or skipped for one reason;
and although the room for files shrinks from one candidate to the next, none that is skipped for
want of room would fit in at the end.

* `listedBytes_chosen_le` — the stated sizes of the files chosen stay within the total;
* `retrieve_took` — every file that is chosen has its turn, in which its body is kept or nothing is;
* `bytes_le_iff` — the bytes kept stay within the total exactly if the bodies exceed the sizes
  stated for them by no more, all in all, than the plan has left over;
* `Selection.Maximal` — a selection within the total to which no candidate can be added;
* `ofCandidates_selects` — a plan is made of a maximal selection.
-/

namespace SourceAudit.Retrieval

open Remote Listing

/-- The bytes of some files. -/
def contentBytes : List Artifact → Nat
  | [] => 0
  | a :: as => a.content.length + contentBytes as

/-- The bytes of some candidates by their listed sizes. -/
def listedBytes : List Candidate → Int
  | [] => 0
  | c :: cs => c.size + listedBytes cs

/-- What becomes of a chosen file: the file that is kept, if one is. -/
structure Turn where
  candidate : Candidate
  kept : Option Artifact

namespace Turn

/-- The bytes kept. -/
def bytes (t : Turn) : Nat := (t.kept.map (·.content.length)).getD 0

/-- The bytes kept beyond the listed size, negative if there are fewer. -/
def excess (t : Turn) : Int := t.bytes - t.candidate.size

end Turn

/-- The bytes that some files have beyond their listed sizes, all in all. -/
def totalExcess : List Turn → Int
  | [] => 0
  | t :: ts => t.excess + totalExcess ts

/-- What the files chosen leave of the total by their listed sizes. -/
def spareBytes (limits : Limits) (turns : List Turn) : Int :=
  limits.maxTotalBytes - listedBytes (turns.map Turn.candidate)

/-! ## Sums -/

/-- What is kept is what is listed and what goes beyond it. -/
theorem contentBytes_kept (turns : List Turn) :
    (contentBytes (turns.filterMap Turn.kept) : Int) =
      listedBytes (turns.map Turn.candidate) + totalExcess turns := by
  induction turns with
  | nil => rfl
  | cons t turns ih =>
      obtain ⟨candidate, kept⟩ := t
      cases kept with
      | none =>
          simp only [List.filterMap_cons, List.map_cons, listedBytes, totalExcess, Turn.excess,
            Turn.bytes, Option.map_none, Option.getD_none, ih]
          omega
      | some a =>
          simp only [List.filterMap_cons, List.map_cons, listedBytes, totalExcess, Turn.excess,
            Turn.bytes, contentBytes, Option.map_some, Option.getD_some, Int.natCast_add, ih]
          omega

/-- No excess in total if there is none in any turn. -/
theorem totalExcess_nonpos {turns : List Turn} (h : ∀ t ∈ turns, t.excess ≤ 0) :
    totalExcess turns ≤ 0 := by
  induction turns with
  | nil => exact Int.le_refl 0
  | cons t turns ih =>
      obtain ⟨hfirst, hrest⟩ := List.forall_mem_cons.mp h
      have := ih hrest
      simp only [totalExcess]
      omega

/-- **The stated sizes of the files chosen stay within the total.** -/
theorem listedBytes_chosen_le (maxFileSize : Int) {budget : Int} (h : 0 ≤ budget)
    (cs : List Candidate) :
    listedBytes (Plan.ofCandidates maxFileSize budget cs).chosen ≤ budget := by
  induction cs generalizing budget with
  | nil => exact h
  | cons c cs ih =>
      rw [Plan.ofCandidates]
      split
      · exact ih h
      · split
        · exact ih h
        · have hroom : 0 ≤ budget - c.size := by omega
          have hrest := ih hroom
          simp only [listedBytes]
          omega

/-! ## One file -/

/-- What is kept of a body is its first part, up to the size that a file may have. -/
theorem content_artifactOf {limits : Limits} (h : 0 ≤ limits.maxFileSize) (path : String)
    (body : List UInt8) :
    (artifactOf limits path body).content = body.take limits.maxFileSize.toNat := by
  unfold artifactOf
  split
  · simp [upTo, h]
  · next hfits => exact (List.take_of_length_le (Int.le_toNat h |>.mpr (Int.not_lt.mp hfits))).symm

/-! ## Files in their turns -/

/-- From one state of a retrieval to a later one some chosen files have their turns. -/
structure Took (c : Client) (repo : Repository) (limits : Limits) (fs : List Candidate)
    (p : Progress) (s : Session) (uses : List (Query × Response)) (turns : List Turn)
    (p' : Progress) (s' : Session) : Prop where
  answers : Uses c repo s uses s'
  candidates : turns.map Turn.candidate = fs
  files : p'.files = p.files ++ turns.filterMap Turn.kept
  bytes : p'.bytes = p.bytes + contentBytes (turns.filterMap Turn.kept)
  ref : p'.ref = p.ref
  /-- What is kept of a file is made of the response to its query. -/
  bodies : ∀ t ∈ turns, ∀ a, t.kept = some a → ∃ r,
    (.file t.candidate.path p.refText, r) ∈ uses ∧ a = artifactOf limits t.candidate.path r.body

section

variable {c : Client} {repo : Repository} {limits : Limits} {f : Candidate} {fs : List Candidate}
  {p p₁ p' : Progress} {s s₁ s' : Session} {uses uses₁ : List (Query × Response)}
  {turns : List Turn}

theorem refText_congr (h : p₁.ref = p.ref) : p₁.refText = p.refText := by
  simp [Progress.refText, h]

/-- Nothing is kept of files that are not asked for. -/
theorem Took.none (fs : List Candidate) (p : Progress) (s : Session) :
    Took c repo limits fs p s [] (fs.map fun f => ⟨f, .none⟩) p s where
  answers := .nil s
  candidates := by simp [Function.comp_def]
  files := by simp [List.filterMap_map]
  bytes := by simp [List.filterMap_map, contentBytes]
  ref := rfl
  bodies := by simp

/-- A file that is skipped is a turn that takes nothing. -/
theorem Took.skipped (hanswers : Uses c repo s uses₁ s₁) (hfiles : p₁.files = p.files)
    (hbytes : p₁.bytes = p.bytes) (href : p₁.ref = p.ref)
    (h : Took c repo limits fs p₁ s₁ uses turns p' s') :
    Took c repo limits (f :: fs) p s (uses₁ ++ uses) (⟨f, .none⟩ :: turns) p' s' where
  answers := hanswers.trans h.answers
  candidates := by rw [List.map_cons, h.candidates]
  files := by simp [h.files, hfiles]
  bytes := by simp [h.bytes, hbytes]
  ref := h.ref.trans href
  bodies t ht a ha := by
    rcases List.mem_cons.mp ht with rfl | ht
    · simp at ha
    · obtain ⟨r, hr, hbody⟩ := h.bodies t ht a ha
      rw [refText_congr href] at hr
      exact ⟨r, List.mem_append_right _ hr, hbody⟩

/-- A file that is kept is a turn that takes what is left of its body. -/
theorem Took.kept {r : Response} (hanswers : Uses c repo s uses₁ s₁)
    (hr : (.file f.path p.refText, r) ∈ uses₁)
    (h : Took c repo limits fs (p.keep (artifactOf limits f.path r.body)) s₁ uses turns p' s') :
    Took c repo limits (f :: fs) p s (uses₁ ++ uses)
      (⟨f, some (artifactOf limits f.path r.body)⟩ :: turns) p' s' where
  answers := hanswers.trans h.answers
  candidates := by rw [List.map_cons, h.candidates]
  files := by simp [h.files, Progress.keep]
  bytes := by simp [h.bytes, Progress.keep, contentBytes, Nat.add_assoc]
  ref := h.ref
  bodies t ht a ha := by
    rcases List.mem_cons.mp ht with rfl | ht
    · exact ⟨r, List.mem_append_left _ hr, (Option.some.inj ha).symm⟩
    · obtain ⟨r', hr', hbody⟩ := h.bodies t ht a ha
      exact ⟨r', List.mem_append_right _ hr', hbody⟩

/-- Nothing is taken while time passes. -/
theorem Took.pass (timer : Timer)
    (h : Took c repo limits fs p { s with timer := timer } uses turns p' s') :
    Took c repo limits fs p s uses turns p' s' :=
  ⟨.passed timer h.answers, h.candidates, h.files, h.bytes, h.ref, h.bodies⟩

variable (c repo limits)

/-- **Every file that is chosen has its turn**, in which its body is kept or nothing is. -/
theorem retrieve_took (fs : List Candidate) (limited : Bool) (p : Progress) (s : Session) :
    ∃ uses turns, Took c repo limits fs p s uses turns
      (retrieve c repo limits fs limited p s).2.1 (retrieve c repo limits fs limited p s).2.2 := by
  induction fs generalizing limited p s with
  | nil => exact ⟨[], [], by simpa [retrieve] using Took.none [] p s⟩
  | cons f fs ih =>
      -- The rest of the files has its turns after one that is left out.
      have hskip : ∀ limited p₁ s₁ uses₁, Uses c repo s uses₁ s₁ → p₁.files = p.files →
          p₁.bytes = p.bytes → p₁.ref = p.ref → ∃ uses turns,
          Took c repo limits (f :: fs) p s uses turns
            (retrieve c repo limits fs limited p₁ s₁).2.1
            (retrieve c repo limits fs limited p₁ s₁).2.2 := by
        intro limited p₁ s₁ uses₁ huses hfiles hbytes href
        obtain ⟨uses, turns, htook⟩ := ih limited p₁ s₁
        exact ⟨_, _, htook.skipped huses hfiles hbytes href⟩
      cases limited with
      | true =>
          rw [retrieve]
          exact hskip true _ s [] (.nil s) rfl rfl rfl
      | false =>
          obtain ⟨uses₁, huses₁, hbody⟩ := contents_uses c repo f p.refText s
          rw [retrieve]
          rcases hcontents : contents c repo f p.refText s with ⟨(e | _) | body, s₁⟩ <;>
            rw [hcontents] at huses₁ hbody
          · simp only
            cases hreason : skipReason? e with
            | none => exact hskip false p s₁ _ huses₁ rfl rfl rfl
            | some reason =>
                cases reason with
                | rateLimited => exact hskip true _ s₁ _ huses₁ rfl rfl rfl
                | _ => exact hskip false _ s₁ _ huses₁ rfl rfl rfl
          · have hlost : Uses c repo s _ s₁.lose := huses₁.pass _
            simp only
            split
            · exact ⟨_, _, (Took.none fs p s₁.lose).skipped hlost rfl rfl rfl⟩
            · exact hskip false p s₁.lose _ hlost rfl rfl rfl
          · obtain ⟨r, hr, rfl⟩ := hbody body rfl
            obtain ⟨uses, turns, htook⟩ := ih false (p.keep (artifactOf limits f.path r.body)) s₁
            exact ⟨_, _, htook.kept huses₁ hr⟩

/-- **Whatever the number of workers**, every file that is chosen has its turn. -/
theorem retrieveBy_took (workers : Int) (fs : List Candidate) (p : Progress) (s : Session) :
    ∃ uses turns, Took c repo limits fs p s uses turns
      (retrieveBy c repo limits workers fs p s).2.1
      (retrieveBy c repo limits workers fs p s).2.2 := by
  unfold retrieveBy
  split
  · exact ⟨_, _, .none fs p s⟩
  · split
    · exact ⟨_, _, .pass s.timer.lose (.none fs p s.lose)⟩
    · obtain ⟨uses, turns, htook⟩ :=
        retrieve_took c repo limits fs false p (s.recruit workers.toNat)
      exact ⟨uses, turns, htook.pass (s.timer.recruit workers.toNat)⟩

/-! ## Retrievals -/

variable {c repo limits}

/-- The account of the bytes of a retrieval: the files chosen from the responses to its queries have
their turns, and what is kept of each is made of the response to its query. -/
structure Ledger (limits : Limits) (uses : List (Query × Response)) (turns : List Turn)
    (p : Progress) : Prop where
  chosen : ∃ ds, (∀ d ∈ ds, Reads uses d) ∧ turns.map Turn.candidate =
    (Plan.ofCandidates limits.maxFileSize limits.maxTotalBytes
      ((offered ds).take limits.maxFiles.toNat)).chosen
  files : p.files = turns.filterMap Turn.kept
  bytes : p.bytes = contentBytes p.files
  bodies : ∀ t ∈ turns, ∀ a, t.kept = some a → ∃ r,
    (.file t.candidate.path p.refText, r) ∈ uses ∧ a = artifactOf limits t.candidate.path r.body

/-- Nothing is chosen before the listing is known. -/
theorem ledger_start (limits : Limits) (uses : List (Query × Response)) (ref : Option Json) :
    Ledger limits uses [] { Progress.start with ref := ref } where
  chosen := ⟨[], by simp, by simp [offered, Plan.ofCandidates]⟩
  files := rfl
  bytes := rfl
  bodies := by simp

/-- The turns of the files chosen from directories make an account. -/
theorem Took.ledger {ds : List Directory}
    (h : Took c repo limits fs p s uses₁ turns p' s')
    (hchosen : fs = (Plan.ofCandidates limits.maxFileSize limits.maxTotalBytes
      ((offered ds).take limits.maxFiles.toNat)).chosen)
    (hds : ∀ d ∈ ds, Reads uses d) (hfiles : p.files = []) (hbytes : p.bytes = 0) :
    Ledger limits (uses ++ uses₁) turns p' where
  chosen :=
    ⟨ds, fun d hd => (hds d hd).mono (List.subset_append_left _ _), h.candidates.trans hchosen⟩
  files := by rw [h.files, hfiles, List.nil_append]
  bytes := by rw [h.bytes, h.files, hfiles, hbytes, List.nil_append, Nat.zero_add]
  bodies t ht a ha := by
    obtain ⟨r, hr, hbody⟩ := h.bodies t ht a ha
    rw [← refText_congr h.ref] at hr
    exact ⟨r, List.mem_append_right _ hr, hbody⟩

/-- The retrieval of a version has a ledger: what was listed, and what was taken turn by turn. -/
theorem retrieveVersion_ledger (workers : Int) (version : Json) {s₀ : Session}
    (h : Uses c repo s₀ uses s) :
    let run := retrieveVersion c repo limits workers version
      { Progress.start with ref := some version } s
    ∃ uses' turns, Uses c repo s₀ uses' run.2.2 ∧ Ledger limits uses' turns run.2.1 := by
  obtain ⟨uses₁, huses₁, hlisted⟩ := ofVersion_uses c repo limits version s
  have hmore := h.trans huses₁
  unfold retrieveVersion
  rcases hlist : ofVersion c repo limits version s with ⟨stop | listed, s₁⟩ <;>
    rw [hlist] at hmore hlisted
  · exact ⟨_, [], hmore, ledger_start limits _ _⟩
  cases listed with
  | none =>
      obtain ⟨uses', turns, htook⟩ := retrieveBy_took c repo limits workers []
        { Progress.start with ref := some version } s₁
      have hnone : [] = (Plan.ofCandidates limits.maxFileSize limits.maxTotalBytes
          ((offered []).take limits.maxFiles.toNat)).chosen := by
        simp [offered, Plan.ofCandidates]
      exact ⟨_, turns, hmore.trans htook.answers, htook.ledger hnone (by simp) rfl rfl⟩
  | some l =>
      obtain ⟨-, hlists⟩ := hlisted (some l) rfl
      obtain ⟨ds, hds, rfl⟩ := hlists l rfl
      obtain ⟨uses', turns, htook⟩ := retrieveBy_took c repo limits workers
        (planOf limits (first limits.maxFiles.toNat ([] ++ offered ds))).chosen
        (.listed limits version (first limits.maxFiles.toNat ([] ++ offered ds))) s₁
      exact ⟨_, turns, hmore.trans htook.answers,
        htook.ledger rfl (fun d hd => (hds d hd).mono (List.subset_append_right uses uses₁))
          rfl rfl⟩

/-- **The account of the bytes of a retrieval**, whatever becomes of it. -/
theorem fetch_ledger (c : Client) (repo : Repository) (limits : Limits) (s : Session)
    (workers : Int) :
    ∃ uses turns, Uses c repo s uses (fetch c repo limits s workers).2.2 ∧
      Ledger limits uses turns (fetch c repo limits s workers).2.1 := by
  unfold fetch
  split
  · exact ⟨[], [], .nil s, ledger_start limits [] none⟩
  · split
    · exact retrieveVersion_ledger workers _ (.nil s)
    · obtain ⟨uses, huses, -⟩ := defaultBranch_uses c repo s
      rcases hlookup : c.defaultBranch repo s with ⟨stop | version, s₁⟩ <;> rw [hlookup] at huses
      · exact ⟨uses, [], huses, ledger_start limits uses none⟩
      · exact retrieveVersion_ledger workers version huses

/-- **How many bytes a retrieval keeps.** They are those of the files kept, each of which is the
first part of the body received for it, no longer than one file may be. They stay within the total
exactly if what the bodies have beyond their listed sizes is no more, all in all, than what the plan
has left over; so they do if no body is longer than listed. -/
theorem bytes_le_iff (c : Client) (repo : Repository) {limits : Limits} (s : Session)
    (workers : Int) (hsize : 0 ≤ limits.maxFileSize) (htotal : 0 ≤ limits.maxTotalBytes) :
    let p := (fetch c repo limits s workers).2.1
    p.bytes = contentBytes p.files ∧
      ∃ uses turns, Uses c repo s uses (fetch c repo limits s workers).2.2 ∧
        Ledger limits uses turns p ∧
        (∀ a ∈ p.files, a.content.length ≤ limits.maxFileSize ∧
          ∃ r, (.file a.path p.refText, r) ∈ uses ∧ a.content <+: r.body) ∧
        0 ≤ spareBytes limits turns ∧
        (p.bytes ≤ limits.maxTotalBytes ↔ totalExcess turns ≤ spareBytes limits turns) ∧
        ((∀ t ∈ turns, t.excess ≤ 0) → p.bytes ≤ limits.maxTotalBytes) := by
  intro p
  obtain ⟨uses, turns, huses, hledger⟩ := fetch_ledger c repo limits s workers
  have hspare : 0 ≤ spareBytes limits turns := by
    obtain ⟨ds, -, hchosen⟩ := hledger.chosen
    have := listedBytes_chosen_le limits.maxFileSize htotal
      ((offered ds).take limits.maxFiles.toNat)
    rw [spareBytes, hchosen]
    omega
  have hiff : p.bytes ≤ limits.maxTotalBytes ↔ totalExcess turns ≤ spareBytes limits turns := by
    rw [hledger.bytes, hledger.files, contentBytes_kept, spareBytes]
    omega
  refine ⟨hledger.bytes, uses, turns, huses, hledger, fun a ha => ?_, hspare, hiff, fun h => ?_⟩
  · rw [hledger.files] at ha
    obtain ⟨t, ht, hkept⟩ := List.mem_filterMap.mp ha
    obtain ⟨r, hr, rfl⟩ := hledger.bodies t ht a hkept
    rw [path_artifactOf, content_artifactOf hsize]
    refine ⟨?_, r, hr, List.take_prefix _ _⟩
    have := List.length_take_le limits.maxFileSize.toNat r.body
    omega
  · exact hiff.mpr (Int.le_trans (totalExcess_nonpos h) hspare)

end

end SourceAudit.Retrieval

namespace SourceAudit.Sample

open Remote Retrieval

/-- A retrieval may take five bytes, all in all. -/
def fiveBytes : Limits := { settings.limits with maxTotalBytes := 5 }

/-- A world with a link to a file of ten bytes, listed with the four bytes of the link itself. -/
def linkWorld : World where
  now := 1700000000
  script := ⟨[("/repos/o/n/git/trees/main?recursive=1",
      success ("\x7b\"tree\":[\x7b\"type\":\"blob\",\"mode\":\"120000\"," ++
        "\"path\":\"a.py\",\"size\":4\x7d]\x7d")),
    ("/repos/o/n/contents/a.py?ref=main", success "0123456789")]⟩

theorem fetch_linkWorld :
    (fetch (scanner.client none) mainBranch fiveBytes (.start linkWorld)).1 = none ∧
      (fetch (scanner.client none) mainBranch fiveBytes (.start linkWorld)).2.1.bytes = 10 := by
  decide +kernel

theorem bytes_le_iff_linkWorld :
    0 ≤ fiveBytes.maxFileSize ∧ 0 ≤ fiveBytes.maxTotalBytes ∧
      ∃ uses turns, Ledger fiveBytes uses turns
          (fetch (scanner.client none) mainBranch fiveBytes (.start linkWorld)).2.1 ∧
        spareBytes fiveBytes turns < totalExcess turns := by
  have hsize : 0 ≤ fiveBytes.maxFileSize := by decide
  have htotal : 0 ≤ fiveBytes.maxTotalBytes := by decide
  obtain ⟨-, uses, turns, -, hledger, -, -, hiff, -⟩ :=
    bytes_le_iff (scanner.client none) mainBranch (.start linkWorld) 1 hsize htotal
  refine ⟨hsize, htotal, uses, turns, hledger, Int.not_le.mp fun h => ?_⟩
  have hle := hiff.mpr h
  rw [fetch_linkWorld.2] at hle
  exact absurd hle (by decide)

/-- **More bytes than the total can be kept**: a link is chosen for its own size, and the whole body
of the file that it stands for is kept. -/
theorem total_exceeded :
    0 ≤ fiveBytes.maxFileSize ∧ 0 ≤ fiveBytes.maxTotalBytes ∧
      (fetch (scanner.client none) mainBranch fiveBytes (.start linkWorld)).1 = none ∧
      ¬ ((fetch (scanner.client none) mainBranch fiveBytes
        (.start linkWorld)).2.1.bytes ≤ fiveBytes.maxTotalBytes) := by
  refine ⟨by decide, by decide, fetch_linkWorld.1, ?_⟩
  rw [fetch_linkWorld.2]
  decide

end SourceAudit.Sample

namespace SourceAudit.Retrieval

/-- What becomes of some candidates, in order: each of them with the reason for which it is skipped,
if it is. -/
abbrev Selection := List (Candidate × Option SkipReason)

namespace Selection

/-- The candidates that are chosen. -/
def chosen : Selection → List Candidate
  | [] => []
  | (c, none) :: rest => c :: chosen rest
  | (_, some _) :: rest => chosen rest

/-- The candidates that are skipped. -/
def skipped : Selection → List Skipped
  | [] => []
  | (_, none) :: rest => skipped rest
  | (c, some reason) :: rest => ⟨c.path, reason.name⟩ :: skipped rest

/-- Is a candidate skipped for want of room? -/
def WantsRoom (sel : Selection) : Prop := ∃ x ∈ sel, x.2 = some .byteBudget

/-- Exactly the candidates that are too large by themselves are skipped for that, and others only
for want of room. Those that are chosen stay within the total, and none skipped for want of room
would fit in beside them. -/
structure Maximal (maxFileSize total : Int) (sel : Selection) : Prop where
  reasons : ∀ x ∈ sel, x.2 ∈ [none, some SkipReason.tooLarge, some SkipReason.byteBudget]
  large : ∀ x ∈ sel, x.2 = some .tooLarge ↔ maxFileSize < x.1.size
  within : listedBytes sel.chosen ≤ total
  maximal : ∀ x ∈ sel, x.2 = some .byteBudget → total < listedBytes sel.chosen + x.1.size

end Selection

section

variable {maxFileSize room : Int} {c : Candidate} {cs : List Candidate} {sel : Selection}

/-! ## One candidate -/

theorem listedBytes_nonneg (h : ∀ c ∈ cs, 0 ≤ c.size) : 0 ≤ listedBytes cs := by
  induction cs with
  | nil => exact Int.le_refl 0
  | cons c cs ih =>
      obtain ⟨hfirst, hrest⟩ := List.forall_mem_cons.mp h
      have := ih hrest
      simp only [listedBytes]
      omega

theorem mem_of_mem_chosen (h : c ∈ sel.chosen) : c ∈ sel.map Prod.fst := by
  induction sel with
  | nil => exact h
  | cons x rest ih =>
      obtain ⟨d, reason⟩ := x
      cases reason with
      | none =>
          rcases List.mem_cons.mp h with rfl | h
          · exact List.mem_cons_self
          · exact List.mem_cons_of_mem _ (ih h)
      | some reason => exact List.mem_cons_of_mem _ (ih h)

namespace Selection

/-- A selection stays maximal with one more file that is too large by itself. -/
theorem Maximal.tooLarge (h : Maximal maxFileSize room sel) (hc : maxFileSize < c.size) :
    Maximal maxFileSize room ((c, some .tooLarge) :: sel) where
  reasons := List.forall_mem_cons.mpr ⟨by simp, h.reasons⟩
  large := List.forall_mem_cons.mpr ⟨by simpa using hc, h.large⟩
  within := h.within
  maximal := List.forall_mem_cons.mpr ⟨by simp, h.maximal⟩

/-- What is too much for the room that is left is so for what is left in the end. -/
theorem Maximal.byteBudget (h : Maximal maxFileSize room sel) (hc : ¬ maxFileSize < c.size)
    (hroom : room < c.size) (hsizes : 0 ≤ listedBytes sel.chosen) :
    Maximal maxFileSize room ((c, some .byteBudget) :: sel) where
  reasons := List.forall_mem_cons.mpr ⟨by simp, h.reasons⟩
  large := List.forall_mem_cons.mpr ⟨by simpa using hc, h.large⟩
  within := h.within
  maximal := List.forall_mem_cons.mpr ⟨fun _ => by simp only [chosen]; omega, h.maximal⟩

/-- What is chosen takes its room from the candidates after it. -/
theorem Maximal.chosen (h : Maximal maxFileSize (room - c.size) sel)
    (hc : ¬ maxFileSize < c.size) : Maximal maxFileSize room ((c, none) :: sel) where
  reasons := List.forall_mem_cons.mpr ⟨by simp, h.reasons⟩
  large := List.forall_mem_cons.mpr ⟨by simpa using hc, h.large⟩
  within := by
    have := h.within
    simp only [Selection.chosen, listedBytes]
    omega
  maximal := by
    refine List.forall_mem_cons.mpr ⟨by simp, fun x hx hreason => ?_⟩
    have := h.maximal x hx hreason
    simp only [Selection.chosen, listedBytes]
    omega

end Selection

/-! ## All candidates -/

/-- **A plan is a maximal selection.** Let no candidate have a negative size, and let the total not
be negative. Then a plan deals with each candidate in order: it chooses the candidate, or skips it
as too large, which it does exactly if the candidate is larger than a file may be, or skips it for
want of room. The sizes of those chosen stay within the total, any other that is skipped for want of
room would go beyond it, and the plan says that it is incomplete exactly if there is such a one. -/
theorem ofCandidates_selects {total : Int} (maxFileSize : Int) (htotal : 0 ≤ total)
    (hsizes : ∀ c ∈ cs, 0 ≤ c.size) :
    ∃ sel : Selection, sel.map Prod.fst = cs ∧
      (Plan.ofCandidates maxFileSize total cs).chosen = sel.chosen ∧
      (Plan.ofCandidates maxFileSize total cs).skipped = sel.skipped ∧
      sel.Maximal maxFileSize total ∧
      ((Plan.ofCandidates maxFileSize total cs).truncated = true ↔ sel.WantsRoom) := by
  induction cs generalizing total with
  | nil =>
      have hmaximal : Selection.Maximal maxFileSize total [] :=
        ⟨by simp, by simp, htotal, by simp⟩
      exact ⟨[], rfl, rfl, rfl, hmaximal, by simp [Plan.ofCandidates, Selection.WantsRoom]⟩
  | cons c cs ih =>
      obtain ⟨hfirst, hrest⟩ := List.forall_mem_cons.mp hsizes
      rw [Plan.ofCandidates]
      by_cases hlarge : maxFileSize < c.size
      · obtain ⟨sel, hall, hchosen, hskipped, hmaximal, htruncated⟩ := ih htotal hrest
        rw [if_pos hlarge]
        refine ⟨(c, some .tooLarge) :: sel, by simp [hall], hchosen,
          by simp [hskipped, Selection.skipped], hmaximal.tooLarge hlarge, ?_⟩
        simpa [Selection.WantsRoom] using htruncated
      · rw [if_neg hlarge]
        by_cases hroom : total < c.size
        · obtain ⟨sel, hall, hchosen, hskipped, hmaximal, htruncated⟩ := ih htotal hrest
          have hnonneg : 0 ≤ listedBytes sel.chosen :=
            listedBytes_nonneg fun d hd => hrest d (hall ▸ mem_of_mem_chosen hd)
          rw [if_pos hroom]
          refine ⟨(c, some .byteBudget) :: sel, by simp [hall], hchosen,
            by simp [hskipped, Selection.skipped], hmaximal.byteBudget hlarge hroom hnonneg, ?_⟩
          simp [Selection.WantsRoom]
        · have hleft : 0 ≤ total - c.size := by omega
          obtain ⟨sel, hall, hchosen, hskipped, hmaximal, htruncated⟩ := ih hleft hrest
          rw [if_neg hroom]
          refine ⟨(c, none) :: sel, by simp [hall], by simp [hchosen, Selection.chosen], hskipped,
            hmaximal.chosen hlarge, ?_⟩
          simpa [Selection.WantsRoom] using htruncated

end

end SourceAudit.Retrieval

namespace SourceAudit.Sample

open Retrieval

/-- Four files. If a file may have 8 bytes and all of them 6, the second one is too large, and the
last one fits in although the one before it does not. -/
def lateFit : List Candidate :=
  [⟨"a.py", 3, false⟩, ⟨"b.py", 9, false⟩, ⟨"c.py", 4, false⟩, ⟨"d.py", 2, false⟩]

theorem ofCandidates_selects_lateFit : (∀ c ∈ lateFit, 0 ≤ c.size) ∧
    (Plan.ofCandidates 8 6 lateFit).chosen = [⟨"a.py", 3, false⟩, ⟨"d.py", 2, false⟩] ∧
    ∃ sel : Selection, sel.map Prod.fst = lateFit ∧
      (Plan.ofCandidates 8 6 lateFit).chosen = sel.chosen ∧
      (Plan.ofCandidates 8 6 lateFit).skipped = sel.skipped ∧ sel.Maximal 8 6 ∧
      ((Plan.ofCandidates 8 6 lateFit).truncated = true ↔ sel.WantsRoom) :=
  ⟨by decide, rfl, ofCandidates_selects 8 (by decide) (by decide)⟩

end SourceAudit.Sample
