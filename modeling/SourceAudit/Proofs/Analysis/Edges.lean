import SourceAudit.Proofs.Analysis.Tokens

/-!
# SourceAudit.Proofs.Analysis.Edges

What the built-in rules for whole words report in a line that is searched in windows. A word begins
where it begins in the line, for the text before a window counts; but it ends with the window at the
latest. So what a window cuts off a longer word may look like a token, and is reported.

* `token_take_iff` — the tokens of a part of a line, told by the words of the line;
* `exists_report_iff` — which columns are reported;
* `evaluate_at_edges` — they are those of tokens of the line exactly if no window shows a word as a
  token that is none.
-/

namespace SourceAudit

open Line Pattern Text

/-- A word of a line that a window shows as a token: the word begins in the window, and the part of
it that lies in the window is of the given kind. -/
structure ShownAsToken (texts : Texts) (line : List Char) (window run : Span) : Prop where
  isRun : WordRun line run
  start_le : window.start ≤ run.start
  start_lt : run.start < window.stop
  takes : texts (slice line run.start (min run.stop window.stop))

section

variable {texts : Texts} {line : List Char} {window : Span} {start : Nat}

theorem slice_take {n a b : Nat} (hb : b ≤ n) : slice (line.take n) a b = slice line a b := by
  rw [slice, slice, List.drop_take, List.take_take, Nat.min_eq_left (by omega)]

/-- **The tokens of a part of a line** are its words that are shown as tokens. -/
theorem token_take_iff :
    (∃ stop, Token texts (line.take window.stop) ⟨start, stop⟩ ∧ window.start ≤ start) ↔
      ∃ run, ShownAsToken texts line window run ∧ run.start = start := by
  constructor
  · rintro ⟨stop, ⟨hrun, htakes⟩, hle⟩
    obtain ⟨whole, hwhole, hlt, heq⟩ := wordRun_take_iff.mp hrun
    obtain ⟨rfl, rfl⟩ := Span.mk.inj heq
    rw [slice_take (Nat.min_le_right ..)] at htakes
    exact ⟨whole, ⟨hwhole, hle, hlt, htakes⟩, rfl⟩
  · rintro ⟨run, ⟨hrun, hle, hlt, htakes⟩, rfl⟩
    refine ⟨min run.stop window.stop, ⟨wordRun_take_iff.mpr ⟨run, hrun, hlt, rfl⟩, ?_⟩, hle⟩
    rw [slice_take (Nat.min_le_right ..)]
    exact htakes

end

namespace Engine

section

variable {e : Engine} {r : Rule} {form : TokenForm} {path : String} {lines : List (List Char)}
  {line : List Char} {windows : List Span} {sh : Shared} {fs : List Finding} {k column : Nat}

/-- **Which columns are reported**: those of the words that some window shows as a token. -/
theorem exists_report_iff (h : TokenRule r form) (hline : lines[k]? = some line)
    (hwindows : windows? line.length e.maxLineLength windowOverlap = some windows)
    (hfs : (e.evaluate r path lines sh).1 = .ok fs) :
    (∃ f ∈ fs, f.line = k + 1 ∧ f.column = column) ↔
      passesOver r line = false ∧ ∃ window ∈ windows, ∃ run,
        ShownAsToken form.Fits line window run ∧ column = byteColumn line run.start := by
  have hlists : ∀ window ∈ windows, ListsTokens form.Fits (line.take window.stop) window.start
      (r.pattern.findAll line window.start window.stop) := by
    intro window hw
    obtain ⟨hstart, hstop⟩ := stop_of_mem_windows hwindows hw
    exact h.findAll (by omega) (by omega)
  constructor
  · rintro ⟨f, hf, hnumber, rfl⟩
    obtain ⟨hit, hhit, hreports⟩ := exists_hit_of_mem hfs hf
    obtain ⟨j, line', windows', hj, hover, hwindows', hhit⟩ := mem_hits_iff.mp hhit
    obtain ⟨window, hw, -, m, hm, rfl⟩ := mem_lineHits hhit
    obtain rfl : j = k := Nat.succ.inj (hreports.line.symm.trans hnumber)
    obtain rfl := Option.some.inj (hline.symm.trans hj)
    obtain rfl := Option.some.inj (hwindows.symm.trans hwindows')
    obtain ⟨htoken, hle⟩ := ((hlists window hw).tokens ⟨m.start, m.stop⟩).mp ⟨m, hm, rfl, rfl⟩
    obtain ⟨run, hshown, hstart⟩ := token_take_iff.mp ⟨m.stop, htoken, hle⟩
    refine ⟨hover, window, hw, run, hshown, ?_⟩
    rw [hreports.column, h.reportedStart_eq ((hlists window hw).group m hm), hstart]
  · rintro ⟨hover, window, hw, run, hshown, rfl⟩
    obtain ⟨stop, htoken, hle⟩ := token_take_iff.mpr ⟨run, hshown, rfl⟩
    obtain ⟨m, hm, hstart, -⟩ := ((hlists window hw).tokens ⟨run.start, stop⟩).mpr ⟨htoken, hle⟩
    have hreported : reportedStart r m = run.start := by
      rw [h.reportedStart_eq ((hlists window hw).group m hm), hstart]
    have hne : window.start ≠ window.stop := by
      have := hshown.start_le
      have := hshown.start_lt
      omega
    have hfound : reportedStart r m ∈ [] ∨ ∃ hit ∈ lineHits r (k + 1) line windows [],
        reportedStart r hit.found = reportedStart r m := exists_hit_of_mem_findAll hw hne hm
    rcases hfound with hnil | ⟨hit, hhit, hsame⟩
    · simp at hnil
    · obtain ⟨_, -, -, _, -, rfl⟩ := mem_lineHits hhit
      obtain ⟨f, hf, hreports⟩ := exists_mem_of_hit hfs
        (mem_hits_iff.mpr ⟨k, line, windows, hline, hover, hwindows, hhit⟩)
      refine ⟨f, hf, hreports.line, ?_⟩
      rw [hreports.column, hsame, hreported]

/-- All reports are of tokens exactly if all words shown as tokens are tokens. -/
theorem forall_report_iff (h : TokenRule r form) (hline : lines[k]? = some line)
    (hwindows : windows? line.length e.maxLineLength windowOverlap = some windows)
    (hfs : (e.evaluate r path lines sh).1 = .ok fs) :
    (∀ f ∈ fs, f.line = k + 1 →
        ∃ run, Token form.Fits line run ∧ f.column = byteColumn line run.start) ↔
      (passesOver r line = false → ∀ window ∈ windows, ∀ run,
        ShownAsToken form.Fits line window run → form.Fits (slice line run.start run.stop)) := by
  constructor
  · intro htokens hover window hw run hshown
    obtain ⟨f, hf, hnumber, hcolumn⟩ :=
      (exists_report_iff h hline hwindows hfs).mpr ⟨hover, window, hw, run, hshown, rfl⟩
    obtain ⟨run', htoken, hcolumn'⟩ := htokens f hf hnumber
    have hrun := hshown.isRun
    have hrun' := htoken.isRun
    have hstart : run.start = run'.start := by
      have := hrun.proper
      have := hrun.stop_le
      have := hrun'.proper
      have := hrun'.stop_le
      exact byteColumn_inj (by omega) (by omega) (hcolumn.symm.trans hcolumn')
    obtain rfl := hrun.eq_of_start hrun' hstart
    exact htoken.takes
  · intro hwhole f hf hnumber
    obtain ⟨hover, window, hw, run, hshown, hcolumn⟩ :=
      (exists_report_iff h hline hwindows hfs).mp ⟨f, hf, hnumber, rfl⟩
    exact ⟨run, ⟨hshown.isRun, hwhole hover window hw run hshown⟩, hcolumn⟩

end

/-- **What windows report at their edges.** Let a rule be one of the built-in rules for whole words,
let the windows have at least one character, and let the time not end the evaluation of a file. Then
what it reports on a line are the columns of the words that some window shows as a token, which it
does if the part of the word up to the end of the window has the form of the rule's tokens; it
reports nothing if it passes over the line. So all that it reports are tokens of the line exactly if
no word is cut off by a window in such a way that it looks like a token without being one. -/
theorem evaluate_at_edges {e : Engine} {r : Rule} {form : TokenForm} {lines : List (List Char)}
    {sh : Shared} (hr : r ∈ builtinRules) (hform : (r.id, form) ∈ wordTokens)
    (hsize : 1 ≤ e.maxLineLength) (path : String)
    (htime : ∀ n, (e.evaluate r path lines sh).1 ≠ .error (.overrun n)) :
    ∃ fs, (e.evaluate r path lines sh).1 = .ok fs ∧ ∀ k line, lines[k]? = some line →
      ∃ windows, windows? line.length e.maxLineLength windowOverlap = some windows ∧
        (∀ column, (∃ f ∈ fs, f.line = k + 1 ∧ f.column = column) ↔
          passesOver r line = false ∧ ∃ window ∈ windows, ∃ run,
            ShownAsToken form.Fits line window run ∧ column = byteColumn line run.start) ∧
        ((∀ f ∈ fs, f.line = k + 1 →
            ∃ run, Token form.Fits line run ∧ f.column = byteColumn line run.start) ↔
          (passesOver r line = false → ∀ window ∈ windows, ∀ run,
            ShownAsToken form.Fits line window run →
              form.Fits (slice line run.start run.stop))) := by
  have h := tokenRule_of_builtin hr hform
  obtain ⟨fs, hfs⟩ := exists_ok_of_evaluate hsize htime
  refine ⟨fs, hfs, fun k line hline => ?_⟩
  have hsome : (windows? line.length e.maxLineLength windowOverlap).isSome :=
    windows?_isSome hsize line.length
  obtain ⟨windows, hwindows⟩ := Option.isSome_iff_exists.mp hsome
  exact ⟨windows, hwindows, fun column => exists_report_iff h hline hwindows hfs,
    forall_report_iff h hline hwindows hfs⟩

end Engine

namespace Sample

/-- The key lies in the first window as a whole, and is reported. -/
theorem evaluate_at_edges_key :
    ∃ r ∈ builtinRules, r.id = "aws-access-key-id" ∧
      ∃ fs, ((engine 9 30).evaluate r "app.js" [keyLine] ⟨[], []⟩).1 = .ok fs ∧
        ∃ f ∈ fs, f.line = 1 ∧ f.column = 3 := by
  obtain ⟨r, hr, hid, hsafe⟩ := exists_keyRule
  have hform : (r.id, keyForm) ∈ wordTokens := by
    rw [hid]
    exact List.mem_cons_self
  have htime := evaluate_ne_overrun 30 (by decide) r "app.js" [keyLine]
  obtain ⟨fs, hfs, hlines⟩ := Engine.evaluate_at_edges hr hform (by decide) "app.js" htime
  obtain ⟨windows, hwindows, hcolumns, -⟩ := hlines 0 keyLine rfl
  have hover : Engine.passesOver r keyLine = false := by
    rw [Engine.passesOver, hsafe _ (forall_of_all (by decide)), Bool.and_false]
  have hsplit : Line.windows? keyLine.length (engine 9 30).maxLineLength Line.windowOverlap =
      some [⟨0, 30⟩, ⟨15, 45⟩] := rfl
  have hwindow : (⟨0, 30⟩ : Span) ∈ windows := by
    obtain rfl := Option.some.inj (hwindows.symm.trans hsplit)
    exact List.mem_cons_self
  exact ⟨r, hr, hid, fs, hfs, (hcolumns 3).mpr ⟨hover, _, hwindow, ⟨2, 22⟩,
    ⟨token_keyLine.isRun, by decide, by decide, token_keyLine.takes⟩, rfl⟩⟩

/-- A word that begins like a key and goes on. -/
def cutLine : List Char := "k=AKIA0123456789ABCDEF0".toList

theorem wordRun_cutLine : WordRun cutLine ⟨2, 23⟩ := by
  have hword : ∀ i, isWordAt cutLine i = cutLine[i]?.any isAsciiWord :=
    isWordAt_of_ascii (forall_of_all (by decide))
  refine ⟨by decide, fun i hle hlt => ?_, .inr ((hword 1).trans (by decide)),
    (hword 23).trans (by decide)⟩
  have hall : ∀ i < 23, 2 ≤ i → cutLine[i]?.any isAsciiWord = true := by decide
  exact (hword i).trans (hall i hlt hle)

/-- What a window leaves of the word is reported as a key. -/
theorem cutKey_reported :
    ∃ r ∈ builtinRules, r.id = "aws-access-key-id" ∧
      ∃ fs, ((engine 9 22).evaluate r "app.js" [cutLine] ⟨[], []⟩).1 = .ok fs ∧
        ∃ f ∈ fs, f.line = 1 ∧
          ¬∃ run, Token keyForm.Fits cutLine run ∧ f.column = Line.byteColumn cutLine run.start := by
  obtain ⟨r, hr, hid, hsafe⟩ := exists_keyRule
  have hform : (r.id, keyForm) ∈ wordTokens := by
    rw [hid]
    exact List.mem_cons_self
  have hover : Engine.passesOver r cutLine = false := by
    rw [Engine.passesOver, hsafe _ (forall_of_all (by decide)), Bool.and_false]
  have hsplit : Line.windows? cutLine.length (engine 9 22).maxLineLength Line.windowOverlap =
      some [⟨0, 22⟩, ⟨11, 23⟩] := rfl
  obtain ⟨fs, hfs⟩ := Engine.exists_ok_of_evaluate (by decide)
    (evaluate_ne_overrun 22 (by decide) r "app.js" [cutLine])
  refine ⟨r, hr, hid, fs, hfs, ?_⟩
  by_contra hnone
  have htokens : ∀ f ∈ fs, f.line = 0 + 1 →
      ∃ run, Token keyForm.Fits cutLine run ∧ f.column = Line.byteColumn cutLine run.start :=
    fun f hf hnumber => by_contra fun hnot => hnone ⟨f, hf, hnumber, hnot⟩
  have hfits := (Engine.forall_report_iff (tokenRule_of_builtin hr hform) rfl hsplit hfs).mp
    htokens hover ⟨0, 22⟩ List.mem_cons_self ⟨2, 23⟩
    ⟨wordRun_cutLine, by decide, by decide, "AKIA", by decide, "0123456789ABCDEF".toList,
      by decide, by decide, by decide, forall_of_all (by decide)⟩
  -- The word as a whole is a character too long.
  obtain ⟨head, hhead, rest, htext, -, hmost, -⟩ := hfits
  have hlength := congrArg List.length htext
  rw [List.length_append] at hlength
  have hheads : ∀ head ∈ keyForm.heads, head.toList.length = 4 := by decide
  have hhead' := hheads head hhead
  have hslice : (slice cutLine 2 23).length = 21 := by decide
  have hlimit : keyForm.most = 16 := rfl
  simp only at hlength
  omega

end Sample

end SourceAudit
