import SourceAudit.Analysis
import SourceAudit.Proofs.Line.Window
import SourceAudit.Proofs.Pattern.Runs

/-!
# SourceAudit.Proofs.Analysis.Hits

What a rule finds in a file, told without a clock and without a cache. A *hit* is a match that the
rule reports, with the line and the window in which it stands; `Engine.hits` lists the hits of a
rule in the lines of a file, and `Engine.findingAt` is the finding of a hit, masked with the secrets
searched for at that place.

* `windowFindings_of_sound` — the findings in a window are those of its hits, whatever is in the
  cache, as long as each entry of it holds what would be searched for at its place;
* `occurs_of_mem_hits` — where the hits of a rule stand.
-/

namespace SourceAudit

open Number Line

/-- A match that is reported, and where it stands. -/
structure Hit where
  number : Nat
  line : List Char
  window : Span
  found : Match
deriving DecidableEq

namespace Engine

/-! ## Hits -/

/-- The hits among the matches in a window, and the places reported after them. -/
def windowHits (r : Rule) (number : Nat) (line : List Char) (window : Span) :
    List Match → (seen : List Nat) → List Hit × List Nat
  | [], seen => ([], seen)
  | m :: ms, seen =>
    if seen.contains (reportedStart r m) then windowHits r number line window ms seen
    else
      let (hits, seen) := windowHits r number line window ms (reportedStart r m :: seen)
      (⟨number, line, window, m⟩ :: hits, seen)

/-- The hits in the windows of a line. -/
def lineHits (r : Rule) (number : Nat) (line : List Char) : List Span → (seen : List Nat) → List Hit
  | [], _ => []
  | window :: windows, seen =>
    if window.start = window.stop then lineHits r number line windows seen
    else
      let (hits, seen) := windowHits r number line window
        (r.pattern.findAll line window.start window.stop) seen
      hits ++ lineHits r number line windows seen

/-- Is the line one that a rule passes over? -/
def passesOver (r : Rule) (line : List Char) : Bool :=
  r.isSecret && !line.isEmpty && r.isSafeLine line

/-- The hits in the lines of a file, counted from `number`. -/
def hitsFrom (e : Engine) (r : Rule) : (number : Nat) → List (List Char) → List Hit
  | _, [] => []
  | number, line :: lines =>
    let here := if passesOver r line then [] else
      match windows? line.length e.maxLineLength windowOverlap with
      | none => []
      | some windows => lineHits r number line windows []
    here ++ hitsFrom e r (number + 1) lines

/-- The hits of a rule in the lines of a file. -/
def hits (e : Engine) (r : Rule) (lines : List (List Char)) : List Hit := e.hitsFrom r 1 lines

/-- The finding of a hit. -/
def findingAt (e : Engine) (r : Rule) (path : String) (h : Hit) : Finding :=
  findingOf r path h.number h.line h.window (e.windowSecrets h.line h.window) h.found

/-! ## Sound caches -/

/-- The window that starts at a position of a line. -/
def windowAt (e : Engine) (line : List Char) (start : Nat) : Span :=
  ⟨start, min (start + e.maxLineLength.toNat) line.length⟩

/-- The line with a number, where lines are counted from one. -/
def lineOf (lines : List (List Char)) (number : Nat) : Option (List Char) := lines[number - 1]?

/-- Lines that are numbered from `number` on. -/
def Numbered (lineAt : Nat → Option (List Char)) (number : Nat) (lines : List (List Char)) : Prop :=
  ∀ k line, lines[k]? = some line → lineAt (number + k) = some line

/-- The lines of a text are numbered from one. -/
theorem numbered_lineOf (lines : List (List Char)) : Numbered (lineOf lines) 1 lines := by
  intro k line hk
  rw [lineOf, Nat.add_sub_cancel_left]
  exact hk

namespace Numbered

variable {lineAt : Nat → Option (List Char)} {number : Nat} {line : List Char}
  {lines : List (List Char)}

theorem head (h : Numbered lineAt number (line :: lines)) : lineAt number = some line :=
  h 0 line rfl

theorem tail (h : Numbered lineAt number (line :: lines)) : Numbered lineAt (number + 1) lines := by
  intro k l hl
  rw [Nat.add_assoc, Nat.add_comm 1 k]
  exact h (k + 1) l hl

end Numbered

/-- Every entry of the cache holds the secrets around its window. -/
def Sound (e : Engine) (lineAt : Nat → Option (List Char)) (cache : SecretCache) : Prop :=
  ∀ number start secrets, ((number, start), secrets) ∈ cache →
    ∃ line, lineAt number = some line ∧ secrets = e.windowSecrets line (e.windowAt line start)

section

variable {e : Engine} {lineAt : Nat → Option (List Char)} {number : Nat} {line : List Char}
  {window : Span}

/-- An empty cache says nothing wrong. -/
theorem sound_nil (e : Engine) (lineAt : Nat → Option (List Char)) : e.Sound lineAt [] := by
  intro number start secrets h
  simp at h

/-- A window is known from its start. -/
theorem eq_windowAt_of_mem_windows {windows : List Span}
    (h : windows? line.length e.maxLineLength windowOverlap = some windows)
    (hw : window ∈ windows) : window = e.windowAt line window.start := by
  obtain ⟨start, stop⟩ := window
  have hstop := (stop_of_mem_windows h hw).2
  exact congrArg (Span.mk start) hstop

/-- A sound cache gives the secrets around a window, and remains sound. -/
theorem cachedSecrets_of_sound {cache : SecretCache} (h : e.Sound lineAt cache)
    (hl : lineAt number = some line) (hw : window = e.windowAt line window.start) :
    (e.cachedSecrets number line window cache).1 = e.windowSecrets line window ∧
      e.Sound lineAt (e.cachedSecrets number line window cache).2 := by
  unfold cachedSecrets
  split
  · next key secrets hfind =>
    obtain ⟨n, start⟩ := key
    have hkey := List.find?_some hfind
    simp only [decide_eq_true_eq, Prod.mk.injEq] at hkey
    obtain ⟨rfl, rfl⟩ := hkey
    obtain ⟨line', hl', hs⟩ := h _ _ _ (List.mem_of_find?_eq_some hfind)
    obtain rfl := Option.some.inj (hl.symm.trans hl')
    rw [← hw] at hs
    exact ⟨hs, h⟩
  · refine ⟨rfl, fun n start secrets hmem => ?_⟩
    rcases List.mem_cons.mp hmem with heq | hmem
    · simp only [Prod.mk.injEq] at heq
      obtain ⟨⟨rfl, rfl⟩, rfl⟩ := heq
      exact ⟨line, hl, by rw [← hw]⟩
    · exact h n start secrets hmem

/-- With a sound cache the findings in a window are those of its hits. -/
theorem windowFindings_of_sound (r : Rule) (path : String) (hl : lineAt number = some line)
    (hw : window = e.windowAt line window.start) (ms : List Match) (seen : List Nat)
    {cache : SecretCache} (h : e.Sound lineAt cache) :
    (e.windowFindings r path number line window ms seen cache).1 =
        (windowHits r number line window ms seen).1.map (e.findingAt r path) ∧
      (e.windowFindings r path number line window ms seen cache).2.1 =
        (windowHits r number line window ms seen).2 ∧
      e.Sound lineAt (e.windowFindings r path number line window ms seen cache).2.2 := by
  induction ms generalizing seen cache with
  | nil => exact ⟨rfl, rfl, h⟩
  | cons m ms ih =>
      unfold windowFindings windowHits
      simp only
      split
      · exact ih seen h
      · obtain ⟨hsecrets, hsound⟩ := cachedSecrets_of_sound h hl hw
        obtain ⟨hfindings, hseen, hcache⟩ := ih (reportedStart r m :: seen) hsound
        refine ⟨?_, hseen, hcache⟩
        simp only [List.map_cons, hfindings, hsecrets]
        rfl

end

/-! ## Where hits stand -/

/-- A hit stands in a window of a line that has its number, and is a match of the rule there. -/
structure Occurs (e : Engine) (r : Rule) (lineAt : Nat → Option (List Char)) (h : Hit) :
    Prop where
  line : lineAt h.number = some h.line
  start_lt : h.window.start < h.window.stop
  stop_le : h.window.stop ≤ h.line.length
  found : h.found ∈ r.pattern.findAll h.line h.window.start h.window.stop
  /-- A line that is not too long is searched as a whole. -/
  whole : (h.line.length : Int) ≤ e.maxLineLength → h.window = ⟨0, h.line.length⟩

section

variable {e : Engine} {r : Rule} {lineAt : Nat → Option (List Char)} {number : Nat}
  {line : List Char} {h : Hit}

/-- The hits of a window are matches in it. -/
theorem mem_windowHits {window : Span} {ms : List Match} {seen : List Nat}
    (hh : h ∈ (windowHits r number line window ms seen).1) :
    ∃ m ∈ ms, h = ⟨number, line, window, m⟩ := by
  induction ms generalizing seen with
  | nil => simp [windowHits] at hh
  | cons m ms ih =>
      unfold windowHits at hh
      simp only at hh
      split at hh
      · obtain ⟨m', hm', rfl⟩ := ih hh
        exact ⟨m', List.mem_cons_of_mem m hm', rfl⟩
      · rcases List.mem_cons.mp hh with rfl | hh
        · exact ⟨m, List.mem_cons_self, rfl⟩
        · obtain ⟨m', hm', rfl⟩ := ih hh
          exact ⟨m', List.mem_cons_of_mem m hm', rfl⟩

/-- The hits of a line are matches in its windows. -/
theorem mem_lineHits {windows : List Span} {seen : List Nat}
    (hh : h ∈ lineHits r number line windows seen) :
    ∃ window ∈ windows, window.start ≠ window.stop ∧
      ∃ m ∈ r.pattern.findAll line window.start window.stop, h = ⟨number, line, window, m⟩ := by
  induction windows generalizing seen with
  | nil => simp [lineHits] at hh
  | cons window windows ih =>
      unfold lineHits at hh
      simp only at hh
      split at hh
      · obtain ⟨w, hw, hrest⟩ := ih hh
        exact ⟨w, List.mem_cons_of_mem window hw, hrest⟩
      · next hne =>
        rcases List.mem_append.mp hh with hh | hh
        · exact ⟨window, List.mem_cons_self, hne, mem_windowHits hh⟩
        · obtain ⟨w, hw, hrest⟩ := ih hh
          exact ⟨w, List.mem_cons_of_mem window hw, hrest⟩

theorem occurs_of_mem_lineHits {windows : List Span} {seen : List Nat}
    (hline : lineAt number = some line)
    (hwindows : windows? line.length e.maxLineLength windowOverlap = some windows)
    (hh : h ∈ lineHits r number line windows seen) : e.Occurs r lineAt h := by
  obtain ⟨window, hw, hne, m, hm, rfl⟩ := mem_lineHits hh
  obtain ⟨hstart, hstop⟩ := stop_of_mem_windows hwindows hw
  refine ⟨hline, ?_, ?_, hm, fun hlen => ?_⟩
  · simp only
    omega
  · simp only
    omega
  · rw [windows?_eq_of_le hlen] at hwindows
    obtain rfl := Option.some.inj hwindows
    exact List.mem_singleton.mp hw

theorem occurs_of_mem_hitsFrom {lines : List (List Char)}
    (hlines : Numbered lineAt number lines)
    (hh : h ∈ e.hitsFrom r number lines) : e.Occurs r lineAt h := by
  induction lines generalizing number with
  | nil => simp [hitsFrom] at hh
  | cons line lines ih =>
      unfold hitsFrom at hh
      rcases List.mem_append.mp hh with hh | hh
      · split at hh
        · simp at hh
        · split at hh
          · simp at hh
          · next windows hwindows => exact occurs_of_mem_lineHits hlines.head hwindows hh
      · exact ih hlines.tail hh

/-- Whatever is hit occurs in one of the lines. -/
theorem occurs_of_mem_hits {lines : List (List Char)} (hh : h ∈ e.hits r lines) :
    e.Occurs r (lineOf lines) h :=
  occurs_of_mem_hitsFrom (numbered_lineOf lines) hh

end

end Engine

/-! ## A small registry -/

namespace Sample

/-- A rule for secrets: `least` lowercase letters or more. -/
def token (least : Nat) : Rule where
  id := "token"
  category := .secret
  severity := .high
  title := "Token"
  pattern := .runs ("[a-z]\x7b" ++ toString least ++ ",\x7d") (.range 97 122) least
  appliesTo := ["*.env"]
  exclude := []
  description := ""
  recommendation := ""
  secretGroup := 0
  safeLines := []

/-- A rule for something else: the letter `z`. -/
def mark : Rule where
  id := "mark"
  category := .insecureCall
  severity := .low
  title := "Mark"
  pattern := ⟨"z", .one (.anyOf [122]), 0, false, false, .forward, false, false, false,
    some (.anyOf [122])⟩
  appliesTo := ["*"]
  exclude := []
  description := ""
  recommendation := ""
  secretGroup := 0
  safeLines := []

/-- The engine with these two rules. -/
def engine (least : Nat) (maxLineLength : Int) : Engine where
  registry :=
    { rules := [token least, mark]
      distinct := (by decide : ["token", "mark"].Nodup)
      groups := List.forall_mem_cons.mpr
        ⟨Nat.zero_le _, List.forall_mem_singleton.mpr (Nat.zero_le _)⟩ }
  timeBudget := .finite 1
  maxLineLength := maxLineLength
  stalled := []

end Sample

end SourceAudit
