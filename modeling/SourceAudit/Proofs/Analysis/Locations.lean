import Mathlib.Data.List.Nodup
import SourceAudit.Proofs.Analysis.Evaluation
import SourceAudit.Proofs.Analysis.Findings
import SourceAudit.Proofs.Analysis.Secrets
import SourceAudit.Proofs.Line.Columns

/-!
# SourceAudit.Proofs.Analysis.Locations

Where the findings in a file point. Lines are searched as texts, without the carriage returns at
their ends and part by part; line and column of a finding lead back to the bytes. A match may be
seen again in a window that shares characters with the one before, and then with another end or
another group; what is kept of the matches reported so far in a line are the places at which they
were reported, and at none of these is there another report.

* `one_le_number_of_mem_hits` — lines are counted from one;
* `findings_locate` — in a well-formed file, the bytes of the line before the column of a finding
  are those of the searched text before the match;
* `windowHits_fresh` — the hits in a window are at new places, each at its own;
* `pairwise_hits`, `pairwise_analyze` — hits, and the findings in a file, follow each other;
* `analyze_reports_once` — no two findings have one rule, one path, one line and one column.
-/

namespace SourceAudit

open Line Text

namespace Engine

/-- A finding of a file is that of a hit, by a rule that is for the file. -/
structure FoundBy (e : Engine) (file : SourceFile) (f : Finding) (r : Rule) (h : Hit) : Prop where
  applicable : r ∈ e.registry.applicable file.path
  hit : h ∈ e.hits r (split file.content)
  finding : f = e.findingAt r file.path h

section

variable {e : Engine} {file : SourceFile} {f g : Finding} {r r' : Rule} {h h' : Hit}

theorem one_le_number_of_mem_hits {lines : List (List Char)} (hh : h ∈ e.hits r lines) :
    1 ≤ h.number := by
  obtain ⟨k, _, _, -, -, -, hline⟩ := mem_hits_iff.mp hh
  rw [number_of_mem_lineHits hline]
  omega

/-- A hit is reported within its line. -/
theorem Occurs.start_le {lineAt : Nat → Option (List Char)} (hh : e.Occurs r lineAt h) :
    reportedStart r h.found ≤ h.line.length := by
  have hstop := hh.stop_reported_le
  have hfound := r.pattern.findAll_within h.line h.window.start h.window.stop h.found hh.found
  rw [← start_reported]
  have hle : (reported r h.found).start ≤ (reported r h.found).stop := by
    unfold reported
    split
    · next hspan => exact (hfound.span? hspan).1
    · exact Nat.le_refl _
  omega

theorem FoundBy.start_le (hf : e.FoundBy file f r h) :
    reportedStart r h.found ≤ h.line.length :=
  (occurs_of_mem_hits hf.hit).start_le

/-- The line of a finding is the one that was searched. -/
theorem FoundBy.line_eq (hf : e.FoundBy file f r h) :
    (split file.content)[f.line - 1]? = some h.line := by
  have hline := (occurs_of_mem_hits hf.hit).line
  rw [hf.finding]
  exact hline

end

/-- **The place of a finding in the bytes of a file.** Let the content of a file be well-formed.
Then every finding is that of a match of a rule. Whatever match it is of, its line is the number of
a piece of the content between line feeds, the column lies within that piece, and the bytes before
it are well-formed and those of the searched line before the start that is reported. Findings on one
line are in the order of these starts. -/
theorem findings_locate {e : Engine} {file : SourceFile} {clock : Clock} {o : Outcome}
    {text : List Char} (hvalid : decode? file.content = some text)
    (h : (e.analyze file clock).1 = some o) :
    (∀ f ∈ o.findings, ∃ r hit, e.FoundBy file f r hit) ∧
    (∀ f ∈ o.findings, ∀ r hit, e.FoundBy file f r hit →
      let start := reportedStart r hit.found
      start ≤ hit.line.length ∧
      1 ≤ f.line ∧ f.line ≤ (piecesBetween 0x0A file.content).length ∧
      ∃ raw, (piecesBetween 0x0A file.content)[f.line - 1]? = some raw ∧ ofBytes raw = hit.line ∧
        1 ≤ f.column ∧ f.column - 1 ≤ raw.length ∧
        decode? (raw.take (f.column - 1)) = some (hit.line.take start)) ∧
    ∀ f ∈ o.findings, ∀ g ∈ o.findings, f.line = g.line →
      ∀ r hit r' hit', e.FoundBy file f r hit → e.FoundBy file g r' hit' →
        (f.column < g.column ↔ reportedStart r hit.found < reportedStart r' hit'.found) := by
  refine ⟨fun f hf => ?_, fun f hf r hit hfound => ?_, fun f hf g hg hline r hit r' hit' hfound
    hfound' => ?_⟩
  · obtain ⟨r, hr, hit, hhit, rfl⟩ := exists_hit_of_analyze h hf
    exact ⟨r, hit, hr, hhit, rfl⟩
  · obtain ⟨raw, hraw, hsearched, hcolumn⟩ := split_of_decode? hvalid hfound.line_eq
    obtain ⟨hle, hbefore⟩ := hcolumn (reportedStart r hit.found)
    have hnumber : 1 ≤ f.line := by
      rw [hfound.finding]
      exact one_le_number_of_mem_hits hfound.hit
    obtain ⟨hlength, -⟩ := List.getElem?_eq_some_iff.mp hraw
    have hcol : f.column = byteColumn hit.line (reportedStart r hit.found) := by
      rw [hfound.finding]
      rfl
    refine ⟨hfound.start_le, hnumber, by omega, raw, hraw, hsearched, ?_, hcol ▸ hle,
      hcol ▸ hbefore⟩
    rw [hcol, byteColumn]
    omega
  · have hsame : hit.line = hit'.line := by
      have hfirst := hfound.line_eq
      rw [hline, hfound'.line_eq] at hfirst
      exact (Option.some.inj hfirst).symm
    have hle := hfound'.start_le
    rw [hfound.finding, hfound'.finding]
    change byteColumn hit.line _ < byteColumn hit'.line _ ↔ _
    rw [hsame]
    exact byteColumn_lt_iff hle

end Engine

namespace Sample

/-- Two lines, the second one with a character of two bytes before the letter that is looked for. -/
def accented : SourceFile := ⟨"a.js", encode "é\nüz\r".toList⟩

/-- The finding is in the third byte of its line, after the two of one character. -/
theorem findings_locate_accented :
    ∃ o, ((engine 9 4000).analyze accented []).1 = some o ∧
      o.findings.map (fun f => (f.line, f.column)) = [(2, 3)] ∧
      ∀ f ∈ o.findings, ∃ r hit raw, (engine 9 4000).FoundBy accented f r hit ∧
        (piecesBetween 0x0A accented.content)[f.line - 1]? = some raw ∧ f.column - 1 ≤ raw.length ∧
        decode? (raw.take (f.column - 1)) =
          some (hit.line.take (Engine.reportedStart r hit.found)) := by
  have hout : (((engine 9 4000).analyze accented []).1.map fun o =>
      o.findings.map fun f => (f.line, f.column)) = some [(2, 3)] := by decide +kernel
  obtain ⟨o, ho, hplaces⟩ := Option.map_eq_some_iff.mp hout
  obtain ⟨hfound, hlocate, -⟩ := Engine.findings_locate (decode?_encode "é\nüz\r".toList) ho
  refine ⟨o, ho, hplaces, fun f hf => ?_⟩
  obtain ⟨r, hit, hby⟩ := hfound f hf
  obtain ⟨-, -, -, raw, hraw, -, -, hle, hbefore⟩ := hlocate f hf r hit hby
  exact ⟨r, hit, raw, hby, hraw, hle, hbefore⟩

end Sample

open Number

/-- Another place in the same file: a line further down, or another column of the line. -/
def Finding.Before (f g : Finding) : Prop :=
  f.line < g.line ∨ f.line = g.line ∧ f.column ≠ g.column

/-- Findings in the order of their rules, and those of one rule in the order of their lines. -/
def Finding.InOrder (ids : List String) (f g : Finding) : Prop :=
  ids.idxOf f.ruleId < ids.idxOf g.ruleId ∨ f.ruleId = g.ruleId ∧ f.Before g

theorem Finding.InOrder.cons {ids : List String} {id : String} {f g : Finding}
    (h : f.InOrder ids g) (hf : f.ruleId ≠ id) (hg : g.ruleId ≠ id) : f.InOrder (id :: ids) g := by
  refine h.imp_left fun hlt => ?_
  rw [List.idxOf_cons_ne _ hf.symm, List.idxOf_cons_ne _ hg.symm]
  exact Nat.succ_lt_succ hlt

namespace Engine

/-! ## Hits at places of their own -/

section

variable {e : Engine} {r : Rule} {number : Nat} {line : List Char} {seen : List Nat} {h : Hit}

/-- The hits stand at different places, and at none of those that are in `seen`. -/
structure Fresh (r : Rule) (seen : List Nat) (hits : List Hit) : Prop where
  apart : hits.Pairwise fun h h' => reportedStart r h.found ≠ reportedStart r h'.found
  unseen : ∀ h ∈ hits, reportedStart r h.found ∉ seen

theorem windowHits_fresh (window : Span) (ms : List Match) (seen : List Nat) :
    Fresh r seen (windowHits r number line window ms seen).1 := by
  induction ms generalizing seen with
  | nil => exact ⟨.nil, by simp [windowHits]⟩
  | cons m ms ih =>
      unfold windowHits
      simp only
      split
      · exact ih seen
      · next hnew =>
        rw [List.contains_iff_mem] at hnew
        obtain ⟨hapart, hunseen⟩ := ih (reportedStart r m :: seen)
        refine ⟨List.pairwise_cons.mpr ⟨fun h hh heq => ?_, hapart⟩, ?_⟩
        · exact hunseen h hh (heq ▸ List.mem_cons_self)
        · exact List.forall_mem_cons.mpr
            ⟨hnew, fun h hh hold => hunseen h hh (List.mem_cons_of_mem _ hold)⟩

/-- After a window the places of its hits have been reported. -/
theorem reportedStart_mem_of_hit {window : Span} {ms : List Match}
    (hh : h ∈ (windowHits r number line window ms seen).1) :
    reportedStart r h.found ∈ (windowHits r number line window ms seen).2 := by
  obtain ⟨m, hm, rfl⟩ := mem_windowHits hh
  exact reportedStart_mem_windowHits hm

/-- **The hits in the windows of a line** are at places of their own. -/
theorem lineHits_fresh (windows : List Span) (seen : List Nat) :
    Fresh r seen (lineHits r number line windows seen) := by
  induction windows generalizing seen with
  | nil => exact ⟨.nil, by simp [lineHits]⟩
  | cons window windows ih =>
      unfold lineHits
      split
      · exact ih seen
      · have hwindow : Fresh r seen (windowHits r number line window
            (r.pattern.findAll line window.start window.stop) seen).1 := windowHits_fresh _ _ seen
        obtain ⟨hapart, hunseen⟩ := hwindow
        obtain ⟨hapart', hunseen'⟩ := ih
          (windowHits r number line window (r.pattern.findAll line window.start window.stop) seen).2
        refine ⟨List.pairwise_append.mpr ⟨hapart, hapart', fun h hh h' hh' heq => ?_⟩,
          List.forall_mem_append.mpr ⟨hunseen, fun h hh hold => ?_⟩⟩
        · exact hunseen' h' hh' (heq ▸ reportedStart_mem_of_hit hh)
        · exact hunseen' h hh (seen_subset_windowHits window _ seen hold)

/-- A hit is further down than another, or elsewhere in its line. -/
def HitBefore (r : Rule) (h h' : Hit) : Prop :=
  h.number < h'.number ∨
    h.number = h'.number ∧ reportedStart r h.found ≠ reportedStart r h'.found

theorem number_le_of_mem_hitsFrom {lines : List (List Char)} (hh : h ∈ e.hitsFrom r number lines) :
    number ≤ h.number := by
  obtain ⟨k, _, _, -, -, -, hline⟩ := mem_hitsFrom_iff.mp hh
  rw [number_of_mem_lineHits hline]
  exact Nat.le_add_right number k

theorem pairwise_hitsFrom (number : Nat) (lines : List (List Char)) :
    (e.hitsFrom r number lines).Pairwise (HitBefore r) := by
  induction lines generalizing number with
  | nil => exact .nil
  | cons line lines ih =>
      unfold hitsFrom
      refine List.pairwise_append.mpr ⟨?_, ih (number + 1), fun h hh h' hh' => .inl ?_⟩
      · split
        · exact .nil
        · split
          · exact .nil
          · next windows _ =>
            refine (lineHits_fresh windows []).apart.imp_of_mem fun hh hh' hne => .inr ⟨?_, hne⟩
            rw [number_of_mem_lineHits hh, number_of_mem_lineHits hh']
      · have hlater := number_le_of_mem_hitsFrom hh'
        split at hh
        · simp at hh
        · split at hh
          · simp at hh
          · rw [number_of_mem_lineHits hh]
            omega

/-- **The hits of a file follow each other down the lines.** -/
theorem pairwise_hits (e : Engine) (r : Rule) (lines : List (List Char)) :
    (e.hits r lines).Pairwise (HitBefore r) :=
  pairwise_hitsFrom 1 lines

/-! ## Findings at places of their own -/

variable {path : String} {lines : List (List Char)} {f : Finding} {part : Outcome}

/-- Different places of a line have different columns. -/
theorem before_of_hitBefore {h' : Hit} {lineAt : Nat → Option (List Char)}
    (hh : e.Occurs r lineAt h) (hh' : e.Occurs r lineAt h') (hbefore : HitBefore r h h') :
    (e.findingAt r path h).Before (e.findingAt r path h') := by
  rcases hbefore with hlt | ⟨hnumber, hstart⟩
  · exact .inl hlt
  · refine .inr ⟨hnumber, fun hcolumn => hstart ?_⟩
    have hline : h.line = h'.line := by
      have hfirst := hh.line
      rw [hnumber, hh'.line] at hfirst
      exact (Option.some.inj hfirst).symm
    change byteColumn h.line _ = byteColumn h'.line _ at hcolumn
    rw [hline] at hcolumn
    exact byteColumn_inj (hline ▸ hh.start_le) hh'.start_le hcolumn

/-- **What one rule contributes** has the id of the rule and goes down the lines. -/
theorem Contributes.before {clock : Clock} (h : e.Contributes path lines clock r part) :
    (∀ f ∈ part.findings, f.ruleId = r.id) ∧ part.findings.Pairwise Finding.Before := by
  cases h with
  | inapplicable => exact ⟨by simp, .nil⟩
  | overrun => exact ⟨by simp, .nil⟩
  | findings fs happ alone =>
      obtain ⟨_, -, hev⟩ := evaluate_evaluated e.unlimited r path lines ⟨[], []⟩
        (sound_nil e.unlimited _)
      obtain rfl := hev.found fs (alone [])
      refine ⟨?_, ?_⟩
      · rw [List.forall_mem_map]
        exact fun _ _ => rfl
      · rw [List.pairwise_map]
        exact (pairwise_hits e.unlimited r lines).imp_of_mem fun hh hh' hbefore =>
          before_of_hitBefore (occurs_of_mem_hits hh) (occurs_of_mem_hits hh') hbefore

/-- What distinct rules contribute one after the other. -/
theorem inOrder_of_contributes {clock : Clock} {rules : List Rule} {parts : List Outcome}
    (h : List.Forall₂ (e.Contributes path lines clock) rules parts)
    (hdistinct : (rules.map Rule.id).Nodup) :
    (∀ f ∈ parts.flatMap (·.findings), f.ruleId ∈ rules.map Rule.id) ∧
      (parts.flatMap (·.findings)).Pairwise (Finding.InOrder (rules.map Rule.id)) := by
  induction h with
  | nil => exact ⟨by simp, .nil⟩
  | @cons r part rules parts hpart _ ih =>
      rw [List.map_cons, List.nodup_cons] at hdistinct
      obtain ⟨hids, hpairwise⟩ := ih hdistinct.2
      obtain ⟨hid, hbefore⟩ := hpart.before
      have hother : ∀ f ∈ parts.flatMap (·.findings), f.ruleId ≠ r.id := fun f hf heq =>
        hdistinct.1 (heq ▸ hids f hf)
      rw [List.flatMap_cons, List.map_cons]
      refine ⟨fun f hf => ?_, List.pairwise_append.mpr ⟨?_, ?_, fun f hf g hg => .inl ?_⟩⟩
      · rcases List.mem_append.mp hf with hf | hf
        · exact hid f hf ▸ List.mem_cons_self
        · exact List.mem_cons_of_mem _ (hids f hf)
      · exact hbefore.imp_of_mem fun hf hg hfg => .inr ⟨(hid _ hf).trans (hid _ hg).symm, hfg⟩
      · exact hpairwise.imp_of_mem fun hf hg hfg => hfg.cons (hother _ hf) (hother _ hg)
      · rw [hid f hf, List.idxOf_cons_self, List.idxOf_cons_ne _ (hother g hg).symm]
        exact Nat.succ_pos _

end

/-- **The findings in a file follow each other**, rule by rule and down the lines. -/
theorem pairwise_analyze {e : Engine} (hsize : 1 ≤ e.maxLineLength) (file : SourceFile)
    (clock : Clock) :
    ∃ o, (e.analyze file clock).1 = some o ∧
      (∀ f ∈ o.findings, f.ruleId ∈ e.registry.rules.map Rule.id) ∧
      o.findings.Pairwise (Finding.InOrder (e.registry.rules.map Rule.id)) := by
  obtain ⟨parts, hparts, hout⟩ := evaluateAll_contributes hsize file.path (split file.content)
    clock e.registry.rules ⟨clock, []⟩ (sound_nil e _) (List.Subset.refl _)
  exact ⟨_, hout, inOrder_of_contributes hparts e.registry.distinct⟩

/-- Findings that follow each other are at places of their own. -/
theorem nodup_places {ids : List String} {fs : List Finding}
    (h : fs.Pairwise (Finding.InOrder ids)) :
    (fs.map fun f => (f.ruleId, f.line, f.column)).Nodup := by
  rw [List.Nodup, List.pairwise_map]
  refine h.imp fun {f g} hfg heq => ?_
  obtain ⟨hid, hline, hcolumn⟩ : f.ruleId = g.ruleId ∧ f.line = g.line ∧ f.column = g.column := by
    simpa using heq
  rcases hfg with hlt | ⟨-, hlt | ⟨-, hne⟩⟩
  · rw [hid] at hlt
    exact Nat.lt_irrefl _ hlt
  · omega
  · exact hne hcolumn

/-- The findings in files at different paths are at places of their own. -/
theorem nodup_places_of_files {e : Engine} (hsize : 1 ≤ e.maxLineLength)
    (runs : List (SourceFile × Clock)) (hpaths : (runs.map (·.1.path)).Nodup) :
    ∃ outs : List Outcome, (runs.map fun run => (e.analyze run.1 run.2).1) = outs.map some ∧
      (∀ f ∈ outs.flatMap (·.findings), f.path ∈ runs.map (·.1.path)) ∧
      ((outs.flatMap (·.findings)).map fun f => (f.ruleId, f.path, f.line, f.column)).Nodup := by
  induction runs with
  | nil => exact ⟨[], rfl, by simp, .nil⟩
  | cons run runs ih =>
      rw [List.map_cons, List.nodup_cons] at hpaths
      obtain ⟨outs, houts, hin, hnodup⟩ := ih hpaths.2
      obtain ⟨o, ho, -, hpairwise⟩ := pairwise_analyze hsize run.1 run.2
      have hpath : ∀ f ∈ o.findings, f.path = run.1.path := fun f hf => path_of_analyze ho hf
      refine ⟨o :: outs, by rw [List.map_cons, List.map_cons, ho, houts], fun f hf => ?_, ?_⟩
      · rw [List.flatMap_cons] at hf
        rcases List.mem_append.mp hf with hf | hf
        · exact hpath f hf ▸ List.mem_cons_self
        · exact List.mem_cons_of_mem _ (hin f hf)
      · rw [List.flatMap_cons, List.map_append, List.nodup_append]
        refine ⟨?_, hnodup, ?_⟩
        · refine List.Nodup.of_map (fun place => (place.1, place.2.2)) ?_
          rw [List.map_map]
          exact nodup_places hpairwise
        · rw [List.forall_mem_map]
          intro f hf place hplace heq
          obtain ⟨g, hg, rfl⟩ := List.mem_map.mp hplace
          have hsame : f.path = g.path := congrArg (·.2.1) heq
          exact hpaths.1 (hpath f hf ▸ hsame ▸ hin g hg)

/-- **Every position is reported once.** The analysis of a file, in windows of at least one
character and whatever the clock shows, returns findings of which no two have one rule, one line and
one column; those of each rule go down the lines, and the rules come in the order of the registry.
So the findings in any files at different paths are pairwise distinct in rule, path, line and
column. -/
theorem analyze_reports_once (e : Engine) (hsize : 1 ≤ e.maxLineLength) :
    (∀ file clock, ∃ o, (e.analyze file clock).1 = some o ∧
      (o.findings.map fun f => (f.ruleId, f.line, f.column)).Nodup ∧
      (∀ id, ((o.findings.filter (·.ruleId = id)).map (·.line)).Pairwise (· ≤ ·)) ∧
      (∀ f ∈ o.findings, f.ruleId ∈ e.registry.rules.map Rule.id) ∧
      (o.findings.map fun f => (e.registry.rules.map Rule.id).idxOf f.ruleId).Pairwise (· ≤ ·)) ∧
    ∀ runs : List (SourceFile × Clock), (runs.map (·.1.path)).Nodup →
      ∃ outs : List Outcome, (runs.map fun run => (e.analyze run.1 run.2).1) = outs.map some ∧
        ((outs.flatMap (·.findings)).map fun f => (f.ruleId, f.path, f.line, f.column)).Nodup := by
  refine ⟨fun file clock => ?_, fun runs hpaths => ?_⟩
  · obtain ⟨o, ho, hids, hpairwise⟩ := pairwise_analyze hsize file clock
    refine ⟨o, ho, nodup_places hpairwise, fun id => ?_, hids, ?_⟩
    · rw [List.pairwise_map]
      refine (hpairwise.filter _).imp_of_mem fun {f g} hf hg hfg => ?_
      have hrule : f.ruleId = g.ruleId := by
        rw [of_decide_eq_true (List.mem_filter.mp hf).2,
          of_decide_eq_true (List.mem_filter.mp hg).2]
      rcases hfg with hlt | ⟨-, hlt | ⟨heq, -⟩⟩
      · rw [hrule] at hlt
        exact absurd hlt (Nat.lt_irrefl _)
      · exact Nat.le_of_lt hlt
      · exact Nat.le_of_eq heq
    · rw [List.pairwise_map]
      refine hpairwise.imp fun {f g} hfg => ?_
      rcases hfg with hlt | ⟨heq, -⟩
      · exact Nat.le_of_lt hlt
      · rw [heq]
  · obtain ⟨outs, houts, -, hnodup⟩ := nodup_places_of_files hsize runs hpaths
    exact ⟨outs, houts, hnodup⟩

end Engine

namespace Sample

/-- A line of six letters, searched four at a time: `z` stands where two windows overlap. -/
def shared : SourceFile := ⟨".env", "abzcdz".toUTF8.toList⟩

/-- The letter in the middle is seen in two windows and reported once, while the word there is
reported again from where the second window starts. -/
theorem analyze_reports_once_shared :
    (∃ o, ((engine 2 4).analyze shared []).1 = some o ∧
      o.findings.map (fun f => (f.ruleId, f.line, f.column)) =
        [("token", 1, 1), ("token", 1, 3), ("mark", 1, 3), ("mark", 1, 6)] ∧
      (o.findings.map fun f => (f.ruleId, f.line, f.column)).Nodup) ∧
    ∃ outs : List Engine.Outcome,
      [((engine 2 4).analyze shared []).1, ((engine 2 4).analyze accented [3]).1] =
        outs.map some ∧
      ((outs.flatMap (·.findings)).map fun f => (f.ruleId, f.path, f.line, f.column)).Nodup := by
  have hout : (((engine 2 4).analyze shared []).1.map fun o =>
      o.findings.map fun f => (f.ruleId, f.line, f.column)) =
        some [("token", 1, 1), ("token", 1, 3), ("mark", 1, 3), ("mark", 1, 6)] := by
    decide +kernel
  obtain ⟨hfile, hfiles⟩ := Engine.analyze_reports_once (engine 2 4) (by decide)
  refine ⟨?_, hfiles [(shared, []), (accented, [3])] (by decide)⟩
  obtain ⟨o, ho, hnodup, -⟩ := hfile shared []
  rw [ho] at hout
  exact ⟨o, ho, Option.some.inj hout, hnodup⟩

end Sample

end SourceAudit
