import SourceAudit.Proofs.Analysis.Findings
import SourceAudit.Proofs.Analysis.SafeLines
import SourceAudit.Proofs.Line.Parts
import SourceAudit.Proofs.Pattern.Forms
import SourceAudit.Proofs.Text.Cutting

/-!
# SourceAudit.Proofs.Analysis.Tokens

The built-in rules that look for whole words. `wordTokens` tells what their tokens look like,
without a pattern; the patterns as they are read are checked against it once, and everything else
follows from what a search for words finds.

* `tokenRule_of_builtin` — the patterns of these rules find the tokens of their forms;
* `evaluate_finds_tokens` — in a line that is searched as a whole, each run of word characters that
  is a token is reported once, from the left, and nothing else is.
-/

namespace SourceAudit

open Line Pattern Text

/-- The forms of the tokens of some built-in rules, by the ids of the rules. -/
def wordTokens : List (String × TokenForm) :=
  [("aws-access-key-id", ⟨["AKIA", "ASIA"], [('0', '9'), ('A', 'Z')], 16, 16⟩),
    ("github-token", ⟨["ghp_", "gho_", "ghu_", "ghs_", "ghr_"],
      [('A', 'Z'), ('a', 'z'), ('0', '9'), ('_', '_')], 36, 255⟩),
    ("github-fine-grained-token",
      ⟨["github_pat_"], [('A', 'Z'), ('a', 'z'), ('0', '9'), ('_', '_')], 82, 82⟩),
    ("twilio-api-key", ⟨["SK"], [('a', 'f'), ('0', '9')], 32, 32⟩)]

/-- A rule that reports the tokens of a form, which are whole words. -/
structure TokenRule (r : Rule) (form : TokenForm) : Prop where
  isSecret : r.isSecret = true
  group : r.secretGroup = 1
  words : ∃ token, r.pattern.Words token ∧ ∀ t, token.Takes t ↔ form.Fits t
  long : form.isLongWord = true

/-- The patterns of the rules as they are read. -/
theorem wordTokens_checked : ∀ entry ∈ wordTokens, ∀ d ∈ builtinDrafts, d.id = entry.1 →
    (d.rule?.any fun r =>
      r.isSecret && r.secretGroup == 1 && r.pattern.isWordPattern entry.2) = true := by
  decide +kernel

/-- **The patterns find the tokens of their forms.** -/
theorem tokenRule_of_builtin {r : Rule} {form : TokenForm} (hr : r ∈ builtinRules)
    (hform : (r.id, form) ∈ wordTokens) : TokenRule r form := by
  obtain ⟨d, hd, hrule⟩ := exists_draft_of_mem_builtinRules hr
  have hchecked := wordTokens_checked _ hform d hd (RuleDraft.id_of_rule? hrule).symm
  rw [hrule, Option.any_some] at hchecked
  simp only [Bool.and_eq_true, beq_iff_eq] at hchecked
  obtain ⟨⟨hsecret, hgroup⟩, hpattern⟩ := hchecked
  obtain ⟨token, hwords, htakes, hlong⟩ := words_of_isWordPattern hpattern
  exact ⟨hsecret, hgroup, ⟨token, hwords, htakes⟩, hlong⟩

namespace TokenRule

variable {r : Rule} {form : TokenForm} {line : List Char} {start stop : Nat} {m : Match}

/-- A search finds the tokens of the part of the line that it searches. -/
theorem findAll (h : TokenRule r form) (hle : start ≤ stop) (hstop : stop ≤ line.length) :
    ListsTokens form.Fits (line.take stop) start (r.pattern.findAll line start stop) := by
  obtain ⟨token, hwords, htakes⟩ := h.words
  have hfits : token.Takes = form.Fits := funext fun t => propext (htakes t)
  rw [← hfits]
  exact hwords.findAll hle hstop

theorem reportedGroup_eq (h : TokenRule r form) : Engine.reportedGroup r = 1 := by
  rw [Engine.reportedGroup, if_pos h.isSecret, h.group]

/-- The group around a token is what is reported. -/
theorem reportedStart_eq (h : TokenRule r form) (hm : m.span? 1 = some (m.start, m.stop)) :
    Engine.reportedStart r m = m.start := by
  rw [Engine.reportedStart, h.reportedGroup_eq, hm]

theorem reportedText_eq (h : TokenRule r form) (hm : m.span? 1 = some (m.start, m.stop)) :
    Engine.reportedText r line m = slice line m.start m.stop := by
  rw [Engine.reportedText, h.reportedGroup_eq, hm]

end TokenRule

/-- A finding of a rule for secrets shows a token: it has the column of the token, and its snippet
ends with eight asterisks and the last four characters of the token. -/
structure Finding.ShowsToken (f : Finding) (line : List Char) (run : Span) : Prop where
  column : f.column = 1 + (encode (line.take run.start)).length
  snippet : List.replicate 8 '*' ++ slice line (run.stop - 4) run.stop <:+ f.snippet.toList

namespace Engine

section

variable {e : Engine} {r : Rule} {form : TokenForm} {path : String} {line : List Char} {f : Finding}
  {hit : Hit}

/-- The finding of a hit of such a rule shows the token that is hit. -/
theorem Tells.showsToken (htells : Tells r path f hit) (h : TokenRule r form)
    (hgroup : hit.found.span? 1 = some (hit.found.start, hit.found.stop))
    (htoken : Token form.Fits hit.line ⟨hit.found.start, hit.found.stop⟩) :
    f.ShowsToken hit.line ⟨hit.found.start, hit.found.stop⟩ := by
  obtain ⟨secrets, rfl⟩ := htells
  have hstart := h.reportedStart_eq hgroup
  have hlong : ¬ hit.found.stop - hit.found.start ≤ 8 := by
    have hfits := htoken.takes.long h.long
    rw [length_slice] at hfits
    simp only at hfits
    omega
  refine ⟨?_, ?_⟩
  · rw [findingOf, hstart, byteColumn, Nat.add_comm]
  · have hmask := redact_slice (s := ⟨hit.found.start, hit.found.stop⟩) htoken.isRun.stop_le
    simp only [Part.text, if_neg hlong] at hmask
    simp only [findingOf, if_pos h.isSecret, String.toList_ofList, secretSnippet,
      h.reportedText_eq hgroup, hmask]
    exact List.suffix_append ..

/-- The hits in a line that is searched as a whole are its tokens. -/
theorem lineHits_whole (h : TokenRule r form) (number : Nat) (line : List Char) :
    ∃ ms, lineHits r number line [⟨0, line.length⟩] [] =
        ms.map (fun m => ⟨number, line, ⟨0, line.length⟩, m⟩) ∧
      ListsTokens form.Fits line 0 ms := by
  have hlists := h.findAll (Nat.zero_le _) (Nat.le_refl line.length)
  rw [List.take_length] at hlists
  have hproper : ∀ m ∈ r.pattern.findAll line 0 line.length,
      m.start < m.stop ∧ m.stop ≤ line.length := by
    intro m hm
    obtain ⟨htoken, -⟩ := (hlists.tokens ⟨m.start, m.stop⟩).mp ⟨m, hm, rfl, rfl⟩
    exact ⟨htoken.isRun.proper, htoken.isRun.stop_le⟩
  refine ⟨_, ?_, hlists⟩
  unfold lineHits lineHits
  simp only
  by_cases hempty : 0 = line.length
  · have hnone : r.pattern.findAll line 0 line.length = [] := by
      refine List.eq_nil_iff_forall_not_mem.mpr fun m hm => ?_
      have := hproper m hm
      omega
    rw [if_pos hempty, hnone, List.map_nil]
  · rw [if_neg hempty, List.append_nil]
    refine windowHits_eq_map number line _ ?_ fun m _ => List.not_mem_nil
    rw [List.Nodup, List.pairwise_map]
    refine hlists.ordered.imp_of_mem fun hm hm' hlt => ?_
    rw [h.reportedStart_eq (hlists.group _ hm), h.reportedStart_eq (hlists.group _ hm')]
    have := hproper _ hm
    omega

/-- What such a rule reports on a line that is searched as a whole: its tokens, from the left. -/
theorem exists_tokens_of_evaluate (h : TokenRule r form) {lines : List (List Char)} {sh : Shared}
    {fs : List Finding} (hfs : (e.evaluate r path lines sh).1 = .ok fs) {k : Nat}
    (hline : lines[k]? = some line) (hlength : (line.length : Int) ≤ e.maxLineLength)
    (hover : passesOver r line = false) :
    ∃ tokens : List Span, tokens.Pairwise (fun s t => s.stop < t.start) ∧
      (∀ run, run ∈ tokens ↔ Token form.Fits line run) ∧
      List.Forall₂ (fun f run => f.ShowsToken line run) (fs.filter (·.line = k + 1)) tokens := by
  obtain ⟨ms, hhits, hlists⟩ := lineHits_whole h (k + 1) line
  have hall : List.Forall₂ (Tells r path) (fs.filter (·.line = k + 1))
      (ms.map fun m => ⟨k + 1, line, ⟨0, line.length⟩, m⟩) := by
    rw [← hhits, ← filter_hits hline hover (windows?_eq_of_le hlength _)]
    refine List.rel_filter (fun f hit htells => ?_) (tells_of_evaluate hfs)
    obtain ⟨secrets, rfl⟩ := htells
    rfl
  rw [List.forall₂_map_right_iff] at hall
  refine ⟨ms.map fun m => ⟨m.start, m.stop⟩, ?_, fun run => ?_, ?_⟩
  · exact List.pairwise_map.mpr hlists.ordered
  · have htokens := hlists.tokens run
    simp only [Nat.zero_le, and_true] at htokens
    rw [← htokens, List.mem_map]
    exact exists_congr fun m => and_congr_right fun _ => by rw [Span.mk.injEq]
  · have htoken : ∀ m ∈ ms, m.span? 1 = some (m.start, m.stop) ∧
        Token form.Fits line ⟨m.start, m.stop⟩ := fun m hm =>
      ⟨hlists.group m hm, ((hlists.tokens ⟨m.start, m.stop⟩).mp ⟨m, hm, rfl, rfl⟩).1⟩
    rw [List.forall₂_map_right_iff]
    refine ((List.forall₂_and_left ms _).mpr ⟨htoken, hall.flip⟩).flip.imp ?_
    rintro f m ⟨⟨hgroup, htoken⟩, htells⟩
    exact Tells.showsToken htells h hgroup htoken

end

/-- **Whole words are found exactly.** Let a rule be one of the built-in rules for whole words, and
let neither its time nor a line whose windows stand still end its evaluation of a file. Then it
reports every line that is not too long and is not passed over as safe as follows: one finding for
each longest run of word characters that has, as a whole, the form of the rule's tokens; the
findings from the left to the right, and no others; each at the column of its run, and with the
last four characters of the run behind eight asterisks. -/
theorem evaluate_finds_tokens {e : Engine} {r : Rule} {form : TokenForm} {lines : List (List Char)}
    {sh : Shared} (hr : r ∈ builtinRules) (hform : (r.id, form) ∈ wordTokens) (path : String)
    (hmoves : ∀ line ∈ lines, (windows? line.length e.maxLineLength windowOverlap).isSome)
    (htime : ∀ n, (e.evaluate r path lines sh).1 ≠ .error (.overrun n)) :
    ∃ fs, (e.evaluate r path lines sh).1 = .ok fs ∧ ∀ k line, lines[k]? = some line →
      (line.length : Int) ≤ e.maxLineLength → r.isSafeLine line = false →
      ∃ tokens : List Span, tokens.Pairwise (fun s t => s.stop < t.start) ∧
        (∀ run, run ∈ tokens ↔ Token form.Fits line run) ∧
        List.Forall₂ (fun f run => f.ShowsToken line run) (fs.filter (·.line = k + 1)) tokens := by
  have h := tokenRule_of_builtin hr hform
  obtain ⟨fs, hfs⟩ := exists_ok_of_moving hmoves htime
  refine ⟨fs, hfs, fun k line hline hlength hsafe => ?_⟩
  have hover : passesOver r line = false := by rw [passesOver, hsafe, Bool.and_false]
  exact exists_tokens_of_evaluate h hfs hline hlength hover

end Engine

namespace Sample

/-- A line with a key, and with the characters of a key in a longer word. -/
def keyLine : List Char := "k=AKIA0123456789ABCDEF; xAKIA0123456789ABCDEF".toList

/-- The first rule is one for whole words. -/
theorem exists_keyRule : ∃ r ∈ builtinRules, r.id = "aws-access-key-id" ∧
    ∀ line : List Char, (∀ c ∈ line, c ∉ RuleDraft.safeHeads) → r.isSafeLine line = false := by
  have hdraft : ∃ d ∈ builtinDrafts, d.id = "aws-access-key-id" := ⟨_, List.mem_cons_self, rfl⟩
  obtain ⟨d, hd, hid⟩ := hdraft
  obtain ⟨r, hr, -⟩ := RuleDraft.readable_builtin d hd
  exact ⟨r, List.mem_filterMap.mpr ⟨d, hd, hr⟩, (RuleDraft.id_of_rule? hr).trans hid,
    fun line hline => not_isSafeLine hr hline⟩

/-- With a clock that stands still the time does not end. -/
theorem evaluate_ne_overrun (maxLineLength : Int) (h : 1 ≤ maxLineLength) (r : Rule) (path : String)
    (lines : List (List Char)) (n : Nat) :
    ((engine 9 maxLineLength).evaluate r path lines ⟨[], []⟩).1 ≠ .error (.overrun n) := by
  rw [Engine.evaluate_eq_ok h (Engine.sound_nil _ _) List.not_mem_nil
    (by simp only [engine]; decide +kernel) path]
  simp

/-- In a line of ASCII characters word characters are told without looking them up. -/
theorem isWordAt_of_ascii {text : List Char} (h : ∀ c ∈ text, c.toNat < 128) (i : Nat) :
    isWordAt text i = text[i]?.any isAsciiWord := by
  rw [isWordAt]
  cases hc : text[i]? with
  | none => rw [Option.any_none, Option.any_none]
  | some c =>
      rw [Option.any_some, Option.any_some, isWordCode_ascii (h c (List.mem_of_getElem? hc)),
        Char.ofNat_toNat]

/-- The form of the keys. -/
def keyForm : TokenForm := ⟨["AKIA", "ASIA"], [('0', '9'), ('A', 'Z')], 16, 16⟩

theorem token_keyLine : Token keyForm.Fits keyLine ⟨2, 22⟩ := by
  have hword : ∀ i, isWordAt keyLine i = keyLine[i]?.any isAsciiWord :=
    isWordAt_of_ascii (forall_of_all (by decide))
  refine ⟨⟨by decide, fun i hle hlt => ?_, ?_, ?_⟩, "AKIA", by decide, "0123456789ABCDEF".toList, ?_⟩
  · have hall : ∀ i < 22, 2 ≤ i → keyLine[i]?.any isAsciiWord = true := by decide
    exact (hword i).trans (hall i hlt hle)
  · exact .inr ((hword 1).trans (by decide))
  · exact (hword 22).trans (by decide)
  · exact ⟨by decide, by decide, by decide, forall_of_all (by decide)⟩

/-- The key is reported where it stands, and nothing of the longer word. -/
theorem evaluate_finds_tokens_key :
    ∃ r ∈ builtinRules, r.id = "aws-access-key-id" ∧
      ∃ fs, ((engine 9 4000).evaluate r "app.js" [keyLine] ⟨[], []⟩).1 = .ok fs ∧
        ∃ tokens : List Span, (∀ run, run ∈ tokens ↔ Token keyForm.Fits keyLine run) ∧
          List.Forall₂ (fun f run => f.ShowsToken keyLine run) (fs.filter (·.line = 1)) tokens ∧
            ⟨2, 22⟩ ∈ tokens := by
  obtain ⟨r, hr, hid, hsafe⟩ := exists_keyRule
  have hform : (r.id, keyForm) ∈ wordTokens := by
    rw [hid]
    exact List.mem_cons_self
  have htime := evaluate_ne_overrun 4000 (by decide) r "app.js" [keyLine]
  obtain ⟨fs, hfs, hlines⟩ :=
    Engine.evaluate_finds_tokens hr hform "app.js" (by decide) htime
  obtain ⟨tokens, -, htokens, hshows⟩ :=
    hlines 0 keyLine rfl (by decide) (hsafe _ (forall_of_all (by decide)))
  exact ⟨r, hr, hid, fs, hfs, tokens, htokens, hshows, (htokens _).mpr token_keyLine⟩

end Sample

end SourceAudit
