import SourceAudit.Proofs.Analysis.Evaluation
import SourceAudit.Proofs.Analysis.Secrets

/-!
# SourceAudit.Proofs.Analysis.Concealment

What a snippet shows of the secrets of its line: nothing, as long as the line is searched as a
whole, and something at times when it is searched in windows and only the secrets near a window are
masked.

* `findingOf_congr` — two lines that differ only within secrets, and not on the ends of long ones,
  have the same snippet for a match;
* `snippet_redacted` — the secrets of a line cover all that the secret rules of the registry match
  in it, and the snippets of its findings depend on nothing within them but those ends;
* `finding_conceals_iff` — the exact condition under which a snippet conceals the secrets of its
  line;
* `conceals_of_whole` — the snippets of lines that are searched as a whole always do;
* `mark_reveals` — those of longer lines do not.

The secrets come from a cache that all rules share, so `snippet_redacted` is about every cache that
evaluations on the same lines can leave. For longer lines two searches differ: one of the whole line
says what is secret, one around the window says what is masked. A secret that reaches far beyond the
window may be found by the first and not by the second, which sees too little of it.
-/

namespace SourceAudit

open Number Line SourceAudit.Span

namespace Engine

/-- The caches that evaluations of rules on some lines leave, one after the other. -/
inductive Reached (e : Engine) (lines : List (List Char)) : SecretCache → Prop
  | empty : Reached e lines []
  | evaluate {cache : SecretCache} (h : Reached e lines cache) (r : Rule) (path : String)
      (clock : Clock) : Reached e lines (e.evaluate r path lines ⟨clock, cache⟩).2.cache

/-- A cache that is reached holds, for each line in it, the spans that the engine finds there. -/
theorem Reached.sound {e : Engine} {lines : List (List Char)} {cache : SecretCache}
    (h : e.Reached lines cache) : e.Sound (lineOf lines) cache := by
  induction h with
  | empty => exact sound_nil e _
  | evaluate _ r path clock ih =>
      obtain ⟨_, _, hev⟩ := evaluate_evaluated e r path lines ⟨clock, _⟩ ih
      exact hev.sound

/-- A finding is that of a hit. -/
theorem exists_hit_of_evaluate {e : Engine} {r : Rule} {path : String} {lines : List (List Char)}
    {sh : Shared} {fs : List Finding} {f : Finding} (hcache : e.Reached lines sh.cache)
    (hfs : (e.evaluate r path lines sh).1 = .ok fs) (hf : f ∈ fs) :
    ∃ h ∈ e.hits r lines, f = e.findingAt r path h := by
  obtain ⟨_, _, hev⟩ := evaluate_evaluated e r path lines sh hcache.sound
  rw [hev.found fs hfs] at hf
  obtain ⟨h, hh, rfl⟩ := List.mem_map.mp hf
  exact ⟨h, hh, rfl⟩

/-- The secrets around a line that is searched as a whole are those in it. -/
theorem windowSecrets_whole (e : Engine) (line : List Char) :
    e.windowSecrets line ⟨0, line.length⟩ = e.secretSpans line 0 line.length := by
  rw [windowSecrets, Nat.zero_sub, Nat.min_eq_left (Nat.le_add_right ..)]

/-- The snippet of a match may depend on the character at a position: it is no part of a secret, or
one of the last four of a long secret or, for a secret rule, of the match itself. -/
def Open (r : Rule) (m : Match) (secrets : List Span) (i : Nat) : Prop :=
  ¬ Covered secrets i ∨ InTail secrets i ∨ (r.isSecret = true ∧ (reported r m).Tail i)

/-- **Lines that agree on what is open have the same snippets.** -/
theorem findingOf_congr {r : Rule} {m : Match} {line line' : List Char} {secrets : List Span}
    (hA : Apart secrets) (hn : ∀ s ∈ secrets, s.stop ≤ line.length)
    (hm : (reported r m).stop ≤ line.length) (hlen : line'.length = line.length)
    (hagree : ∀ i, Open r m secrets i → SameAt line line' i) (path : String) (number : Nat)
    (window : Span) :
    (findingOf r path number line' window secrets m).snippet =
      (findingOf r path number line window secrets m).snippet := by
  unfold findingOf
  simp only
  split
  · next hsecret =>
    rw [← start_reported, ← slice_reported, ← slice_reported]
    refine congrArg String.ofList (secretSnippet_congr hA hn hlen hm (fun i hi => hagree i ?_) _)
    exact hi.imp_right (Or.imp_right fun htail => ⟨hsecret, htail⟩)
  · exact congrArg String.ofList
      (snippet_congr hA hn hlen (fun i hi => hagree i (hi.imp_right Or.inl)) _ _)

/-- A finding of a rule in a line that is searched as a whole has its snippet redacted. -/
structure Redacted (e : Engine) (r : Rule) (path : String) (line : List Char) (f : Finding) :
    Prop where
  /-- The secrets of the line cover every value that a secret rule of the registry matches in it,
  whatever files that rule is for and whatever lines it passes over. -/
  covers : ∀ q ∈ e.registry.secretRules, ∀ m ∈ q.pattern.findAll line 0 line.length, ∀ a b i,
    m.span? q.secretGroup = some (a, b) → a ≤ i ∧ i < b →
      Covered (e.secretSpans line 0 line.length) i
  /-- They are the whole line if one of these searches takes too long. -/
  whole : e.Stalls → e.secretSpans line 0 line.length = [⟨0, line.length⟩]
  /-- What the line has within them, but for the ends of long ones, has no effect on the snippet. -/
  blind : ∃ m ∈ r.pattern.findAll line 0 line.length,
    f = findingOf r path f.line line ⟨0, line.length⟩ (e.secretSpans line 0 line.length) m ∧
    ∀ line' : List Char, line'.length = line.length →
      (∀ i, Open r m (e.secretSpans line 0 line.length) i → SameAt line line' i) →
      (findingOf r path f.line line' ⟨0, line.length⟩ (e.secretSpans line 0 line.length)
        m).snippet = f.snippet

/-- **No secret stands open in a snippet** of a line that is searched as a whole, whichever rule
reports it and whatever is in the cache. -/
theorem snippet_redacted {e : Engine} {r : Rule} {path : String} {lines : List (List Char)}
    {sh : Shared} {fs : List Finding} {f : Finding} {line : List Char}
    (hcache : e.Reached lines sh.cache) (hfs : (e.evaluate r path lines sh).1 = .ok fs)
    (hf : f ∈ fs) (hline : lineOf lines f.line = some line)
    (hlen : (line.length : Int) ≤ e.maxLineLength) : e.Redacted r path line f := by
  refine ⟨fun q hq m hm a b i hspan hi => covered_secretSpans hq hm hspan hi,
    secretSpans_eq_whole, ?_⟩
  obtain ⟨h, hh, rfl⟩ := exists_hit_of_evaluate hcache hfs hf
  have hocc := occurs_of_mem_hits hh
  obtain rfl : h.line = line := Option.some.inj (hocc.line.symm.trans hline)
  have hwindow : h.window = ⟨0, h.line.length⟩ := hocc.whole hlen
  have hfound := hocc.found
  have hpos := hocc.start_lt
  rw [hwindow] at hfound hpos
  have hfinding : e.findingAt r path h = findingOf r path h.number h.line ⟨0, h.line.length⟩
      (e.secretSpans h.line 0 h.line.length) h.found := by
    rw [findingAt, hwindow, windowSecrets_whole]
  refine ⟨h.found, hfound, hfinding, fun line' hlen' hagree => ?_⟩
  rw [hfinding]
  exact findingOf_congr (apart_secretSpans hpos) (stop_le_of_mem_secretSpans (Nat.le_refl _))
    hocc.stop_reported_le hlen' hagree path _ _

end Engine

namespace Sample

/-- A token after its name. -/
def shortLine : List Char := "key: abcdefghijkl".toList

theorem snippet_redacted_shortLine :
    let found : Hit := ⟨1, shortLine, ⟨0, 17⟩, ⟨5, 17, #[]⟩⟩
    ((engine 9 4000).findingAt (token 9) ".env" found).snippet = "key: ********ijkl" ∧
      (engine 9 4000).Redacted (token 9) ".env" shortLine
        ((engine 9 4000).findingAt (token 9) ".env" found) := by
  have hfs : ((engine 9 4000).evaluate (token 9) ".env" [shortLine] ⟨[], []⟩).1 =
      .ok (((engine 9 4000).hits (token 9) [shortLine]).map
        ((engine 9 4000).findingAt (token 9) ".env")) :=
    Engine.evaluate_eq_ok (by decide) (Engine.sound_nil _ _) (by decide) (by decide +kernel) _
  refine ⟨by decide +kernel, Engine.snippet_redacted .empty hfs ?_ rfl (by decide)⟩
  exact List.mem_map_of_mem (by decide +kernel)

end Sample

open Text

namespace Engine

/-! ## Concealing -/

/-- The character at a position of a line is not to be seen: it is part of the secrets of the whole
line, and not one of the last four of a long one or of a long value among them. -/
def Forbidden (e : Engine) (line : List Char) (i : Nat) : Prop :=
  Covered (e.secretSpans line 0 line.length) i ∧
    ¬ InTail (e.secretSpans line 0 line.length) i ∧ ¬ InTail (e.secretValues line 0 line.length) i

/-- The snippet of a hit shows nothing that is not to be seen. -/
def Conceals (e : Engine) (r : Rule) (h : Hit) : Prop :=
  ∀ i, e.Shows r h i → ¬ e.Forbidden h.line i

/-- The part of the line from which the snippet of a hit is taken; with a secret rule, what precedes
the secret in it. -/
def excerptRange (e : Engine) (r : Rule) (h : Hit) : Span :=
  if r.isSecret then contextRange (reported r h.found).start h.window
  else snippetRange h.line (reportedStart r h.found) h.window (e.windowSecrets h.line h.window)

/-- A position is lost with the blanks at the ends of the snippet of a hit: nothing else stands
before it or, unless a masked secret follows, after it. -/
def Trimmed (e : Engine) (r : Rule) (h : Hit) (i : Nat) : Prop :=
  (∀ j, j ≤ i → ¬ Solid h.line (e.windowSecrets h.line h.window) (e.excerptRange r h) j) ∨
    (r.isSecret = false ∧
      ∀ j, i ≤ j → ¬ Solid h.line (e.windowSecrets h.line h.window) (e.excerptRange r h) j)

/-- What conceals the secrets of the whole line in the snippet of a hit, for which only the secrets
around its window are masked. -/
structure Shielded (e : Engine) (r : Rule) (h : Hit) : Prop where
  /-- The secrets around the window cover what is forbidden in the excerpt. -/
  covered : ∀ i, e.Forbidden h.line i →
    (e.excerptRange r h).start ≤ i → i < (e.excerptRange r h).stop →
      Covered (e.windowSecrets h.line h.window) i ∨ e.Trimmed r h i
  /-- Where one of them ends in the middle of a secret of the whole line, its end is no less
  forbidden. -/
  ends : ∀ s ∈ e.windowSecrets h.line h.window, Meets s (e.excerptRange r h) →
    ∀ i, s.Tail i → e.Forbidden h.line i → e.Trimmed r h i
  /-- And so it is with the secret that is reported. -/
  own : r.isSecret = true → ∀ i, (reported r h.found).Tail i → ¬ e.Forbidden h.line i

section

variable {e : Engine} {r : Rule} {lineAt : Nat → Option (List Char)} {h : Hit} {i : Nat}

/-- A forbidden position is within its line. -/
theorem lt_length_of_forbidden {line : List Char} (hi : e.Forbidden line i) : i < line.length := by
  obtain ⟨s, hs, _, hlt⟩ := hi.1
  exact Nat.lt_of_lt_of_le hlt (stop_le_of_mem_secretSpans (Nat.le_refl _) s hs)

/-- What is not trimmed off a snippet: something that stays stands before it, and after it too
unless the rule is for secrets. -/
theorem not_trimmed_iff :
    ¬ e.Trimmed r h i ↔
      (∃ j, j ≤ i ∧ Solid h.line (e.windowSecrets h.line h.window) (e.excerptRange r h) j) ∧
        (r.isSecret = false →
          ∃ j, i ≤ j ∧ Solid h.line (e.windowSecrets h.line h.window) (e.excerptRange r h) j) := by
  simp only [Trimmed, not_or, not_and, Classical.not_forall, Classical.not_not, exists_prop]

/-- What a snippet shows: what the masked excerpt exposes and trimming leaves, and the end of a
secret that is reported. -/
theorem shows_iff (hh : e.Occurs r lineAt h) :
    e.Shows r h i ↔
      (Exposed h.line.length (e.windowSecrets h.line h.window) (e.excerptRange r h) i ∧
        ¬ e.Trimmed r h i) ∨ (r.isSecret = true ∧ (reported r h.found).Tail i) := by
  have hA := hh.apart_windowSecrets
  have hn := stop_le_of_mem_windowSecrets e h.line h.window
  rw [not_trimmed_iff]
  unfold Shows cells excerptRange
  simp only
  cases hr : r.isSecret with
  | true =>
      simp only [if_true, kept_mem_secretCells hA hn hh.stop_reported_le, Bool.true_eq_false,
        false_implies, and_true, true_and]
  | false =>
      simp only [Bool.false_eq_true, if_false, kept_mem_snippetCells hA hn, true_implies,
        false_and, or_false]

/-- **The exact condition** under which a snippet shows nothing that is not to be seen. -/
theorem conceals_iff_shielded (hh : e.Occurs r lineAt h) :
    e.Conceals r h ↔ e.Shielded r h := by
  constructor
  · intro hc
    refine ⟨fun i hi hlow hhigh => ?_, fun s hs hmeets i htail hi => ?_, fun hr i htail => ?_⟩
    · -- an uncovered position of the excerpt is exposed, so it must be trimmed
      refine Classical.or_iff_not_imp_left.mpr fun hout => Classical.not_not.mp fun htrim => ?_
      have hexp : Exposed h.line.length (e.windowSecrets h.line h.window) (e.excerptRange r h) i :=
        Or.inl ⟨hlow, hhigh, lt_length_of_forbidden hi, hout⟩
      exact hc i ((shows_iff hh).mpr (Or.inl ⟨hexp, htrim⟩)) hi
    · refine Classical.not_not.mp fun htrim => ?_
      have hexp : Exposed h.line.length (e.windowSecrets h.line h.window) (e.excerptRange r h) i :=
        Or.inr ⟨s, hs, hmeets, htail⟩
      exact hc i ((shows_iff hh).mpr (Or.inl ⟨hexp, htrim⟩)) hi
    · exact hc i ((shows_iff hh).mpr (Or.inr ⟨hr, htail⟩))
  · intro hs i hshows hi
    rcases (shows_iff hh).mp hshows with ⟨hexp, htrim⟩ | ⟨hr, htail⟩
    · rcases hexp with ⟨hlow, hhigh, _, hout⟩ | ⟨s, hmem, hmeets, htail⟩
      · exact (hs.covered i hi hlow hhigh).elim hout htrim
      · exact htrim (hs.ends s hmem hmeets i htail hi)
    · exact hs.own hr i htail hi

/-- **What is searched as a whole is concealed.** On a line that is not too long, a rule of the
registry has no snippet that shows what is not to be seen. -/
theorem conceals_of_whole (hh : e.Occurs r lineAt h) (hr : r ∈ e.registry.rules)
    (hlen : (h.line.length : Int) ≤ e.maxLineLength) : e.Conceals r h := by
  have hsecrets : e.windowSecrets h.line h.window = e.secretSpans h.line 0 h.line.length := by
    rw [hh.whole hlen, windowSecrets_whole]
  rw [conceals_iff_shielded hh]
  refine ⟨fun i hi _ _ => Or.inl ?_, fun s hs _ i htail hi => ?_, fun hsecret i htail hi => ?_⟩
  · rw [hsecrets]
    exact hi.1
  · rw [hsecrets] at hs
    exact absurd ⟨s, hs, htail⟩ hi.2.1
  · have hfound := hh.found
    rw [hh.whole hlen] at hfound
    refine hi.2.2 ⟨reported r h.found, mem_secretValues.mpr ⟨r, ?_, h.found, hfound, ?_, ?_⟩, htail⟩
    · exact List.mem_filter.mpr ⟨hr, hsecret⟩
    · exact span?_reported hsecret (Nat.lt_of_le_of_lt htail.covers.1 htail.covers.2)
    · exact Nat.lt_of_le_of_lt htail.covers.1 htail.covers.2

end

/-- A finding comes from a hit, and its snippet is made of characters of the line of the hit. -/
structure ComesFrom (e : Engine) (r : Rule) (path : String) (lines : List (List Char)) (f : Finding)
    (h : Hit) : Prop where
  mem : h ∈ e.hits r lines
  finding : f = e.findingAt r path h
  line : lineOf lines f.line = some h.line
  snippet : ∃ lead trail, (lead = [] ∨ lead = ellipsis) ∧ (trail = [] ∨ trail = ellipsis) ∧
    f.snippet = String.ofList (lead ++ render h.line (e.cells r h) ++ trail)

/-- **When the snippet of a finding conceals.** The snippet of a finding shows nothing of its line
that is not to be seen exactly if the line is shielded there. -/
theorem finding_conceals_iff {e : Engine} {r : Rule} {path : String} {lines : List (List Char)}
    {sh : Shared} {fs : List Finding} {f : Finding} (hcache : e.Reached lines sh.cache)
    (hfs : (e.evaluate r path lines sh).1 = .ok fs) (hf : f ∈ fs) :
    ∃ h, e.ComesFrom r path lines f h ∧ (e.Conceals r h ↔ e.Shielded r h) := by
  obtain ⟨h, hh, rfl⟩ := exists_hit_of_evaluate hcache hfs hf
  have hocc := occurs_of_mem_hits hh
  exact ⟨h, ⟨hh, rfl, hocc.line, snippet_findingAt e r path h⟩, conceals_iff_shielded hocc⟩

end Engine

/-! ## A secret that is too long -/

namespace Sample

open Engine

/-- A token of three hundred letters. -/
def longLine : List Char := 'z' :: List.replicate 299 'a'

theorem length_longLine : longLine.length = 300 := by
  rw [longLine, List.length_cons, List.length_replicate]

theorem lowercase_longLine :
    ∀ c ∈ longLine, (Pattern.CharSet.range 97 122).contains c.toNat = true := by
  intro c hc
  rcases List.mem_cons.mp hc with rfl | hc
  · decide
  · obtain rfl := List.eq_of_mem_replicate hc
    decide

theorem not_stalls_engine (least : Nat) (maxLineLength : Int) :
    ¬ (engine least maxLineLength).Stalls := by
  rintro ⟨r, _, hr⟩
  simp [engine] at hr

section

variable {least : Nat} {maxLineLength : Int} {line : List Char}

/-- The values that the engine of the example finds are the tokens of its one secret rule. -/
theorem secretValues_engine (start stop : Nat) :
    (engine least maxLineLength).secretValues line start stop =
      ((token least).pattern.findAll line start stop).filterMap fun m =>
        (m.span? 0).bind fun (a, b) => if a < b then some ⟨a, b⟩ else none := by
  rw [secretValues, show (engine least maxLineLength).registry.secretRules = [token least] from rfl,
    List.flatMap_singleton]
  rfl

/-- A part of a line that is shorter than a token has no secrets. -/
theorem secretValues_of_lt {start stop : Nat} (h : stop - start < least) :
    (engine least maxLineLength).secretValues line start stop = [] := by
  rw [secretValues_engine]
  show List.filterMap _ ((Pattern.runs _ _ least).findAll line start stop) = []
  rw [Pattern.findAll_runs_of_lt h]
  rfl

/-- A line that is a token is a secret as a whole. -/
theorem secretValues_of_forall (hlen : least ≤ line.length) (hpos : 0 < least)
    (h : ∀ c ∈ line, (Pattern.CharSet.range 97 122).contains c.toNat = true) :
    (engine least maxLineLength).secretValues line 0 line.length = [⟨0, line.length⟩] := by
  have hne : 0 < line.length := Nat.lt_of_lt_of_le hpos hlen
  rw [secretValues_engine]
  show List.filterMap _ ((Pattern.runs _ _ least).findAll line 0 line.length) = _
  rw [Pattern.findAll_runs_of_forall hlen hpos h]
  simp [Match.span?, hne]

end

/-- What the rule for the letter `z` finds in the first ten letters. -/
def firstHit : Hit := ⟨1, longLine, ⟨0, 10⟩, ⟨0, 1, #[]⟩⟩

/-- Around the first window there are too few letters for a token. -/
theorem windowSecrets_firstHit :
    (engine 300 10).windowSecrets firstHit.line firstHit.window = [] := by
  rw [windowSecrets, secretSpans_eq_merge (not_stalls_engine 300 10), secretValues_of_lt, merge_nil]
  rw [show firstHit.line.length = 300 from length_longLine]
  decide

theorem firstHit_mem_hits : firstHit ∈ (engine 300 10).hits mark [longLine] := by
  have hfound : mark.pattern.findAll longLine 0 10 = [⟨0, 1, #[]⟩] := by decide +kernel
  have hwindows : ∃ ws, windows? longLine.length (engine 300 10).maxLineLength windowOverlap =
      some (⟨0, 10⟩ :: ws) := by
    rw [length_longLine]
    exact ⟨_, rfl⟩
  obtain ⟨ws, hws⟩ := hwindows
  have hpasses : passesOver mark longLine = false := rfl
  unfold hits hitsFrom
  simp only [hpasses, hws, Bool.false_eq_true, if_false]
  unfold lineHits
  simp only [hfound, windowHits]
  exact List.mem_append_left _ (List.mem_append_left _ List.mem_cons_self)

theorem evaluate_longLine :
    ((engine 300 10).evaluate mark "app.js" [longLine] ⟨[], []⟩).1 =
      .ok (((engine 300 10).hits mark [longLine]).map ((engine 300 10).findingAt mark "app.js")) :=
  evaluate_eq_ok (by decide) (sound_nil _ _) (by decide) (by decide +kernel) _

theorem finding_conceals_iff_firstHit :
    ∃ h, (engine 300 10).ComesFrom mark "app.js" [longLine]
        ((engine 300 10).findingAt mark "app.js" firstHit) h ∧
      ((engine 300 10).Conceals mark h ↔ (engine 300 10).Shielded mark h) :=
  finding_conceals_iff .empty evaluate_longLine (List.mem_map_of_mem firstHit_mem_hits)

/-- **A secret can be too long to be seen**: around a window of ten characters there is too little
of the token for its rule, so that the snippet shows its start. -/
theorem mark_reveals :
    ∃ fs, ((engine 300 10).evaluate mark "app.js" [longLine] ⟨[], []⟩).1 = .ok fs ∧
      (engine 300 10).findingAt mark "app.js" firstHit ∈ fs ∧
      (engine 300 10).maxLineLength < firstHit.line.length ∧ ¬ (engine 300 10).Stalls ∧
      ((engine 300 10).findingAt mark "app.js" firstHit).snippet = "zaaaaaaaaa" ∧
      ¬ (engine 300 10).Conceals mark firstHit := by
  have hvalues : (engine 300 10).secretValues longLine 0 longLine.length =
      [⟨0, longLine.length⟩] :=
    secretValues_of_forall (Nat.le_of_eq length_longLine.symm) (by decide) lowercase_longLine
  have hsecrets : (engine 300 10).secretSpans longLine 0 longLine.length =
      [⟨0, longLine.length⟩] := by
    rw [secretSpans_eq_merge (not_stalls_engine 300 10), hvalues, merge_singleton]
  refine ⟨_, evaluate_longLine, List.mem_map_of_mem firstHit_mem_hits, ?_,
    not_stalls_engine 300 10, ?_, fun hconceals => ?_⟩
  · rw [show firstHit.line.length = 300 from length_longLine]
    decide
  · rw [findingAt, windowSecrets_firstHit]
    decide +kernel
  · have hshows : (engine 300 10).Shows mark firstHit 0 := by
      unfold Shows cells
      rw [windowSecrets_firstHit]
      decide +kernel
    refine hconceals 0 hshows ?_
    unfold Forbidden
    rw [show firstHit.line = longLine from rfl, hsecrets, hvalues, length_longLine]
    decide

end Sample

end SourceAudit
