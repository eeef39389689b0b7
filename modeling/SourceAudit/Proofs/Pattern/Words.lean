import SourceAudit.Proofs.Pattern.Language

/-!
# SourceAudit.Proofs.Pattern.Words

Patterns for whole words: an edge of a word, a group with a textual pattern for nothing but word
characters, and an edge again. A search with such a pattern needs no account of its choices. What
stands between two edges is a longest run of word characters, so there is one way at most at each
place, and the matches are the runs that the textual pattern takes.

* `WordRun` — a longest run of word characters;
* `wordRun_take_iff` — the runs of a part of a text that ends before it does;
* `Words.findAll` — a search finds the runs that the pattern takes, in order, and nothing else.
-/

namespace SourceAudit.Pattern

open Line

/-! ## Runs of word characters -/

/-- Does a word character stand at a position? -/
def isWordAt (text : List Char) (i : Nat) : Bool :=
  text[i]?.any fun c => Subject.isWordCode false c.toNat

/-- A longest run of word characters. -/
structure WordRun (text : List Char) (run : Span) : Prop where
  proper : run.start < run.stop
  word : ∀ i, run.start ≤ i → i < run.stop → isWordAt text i = true
  first : run.start = 0 ∨ isWordAt text (run.start - 1) = false
  last : isWordAt text run.stop = false

section

variable {text : List Char} {run run' : Span}

theorem lt_length_of_isWordAt {i : Nat} (h : isWordAt text i = true) : i < text.length := by
  by_contra hle
  rw [isWordAt, List.getElem?_eq_none (Nat.not_lt.mp hle)] at h
  simp at h

theorem WordRun.stop_le (h : WordRun text run) : run.stop ≤ text.length := by
  have hproper := h.proper
  have hlast := lt_length_of_isWordAt (h.word (run.stop - 1) (by omega) (by omega))
  omega

/-- Something stands between two runs. -/
theorem WordRun.stop_lt (h : WordRun text run) (h' : WordRun text run')
    (hlt : run.start < run'.start) : run.stop < run'.start := by
  by_contra hle
  by_cases htouch : run'.start = run.stop
  · have hword := h'.word run'.start (Nat.le_refl _) h'.proper
    rw [htouch, h.last] at hword
    exact Bool.false_ne_true hword
  · have hword := h.word (run'.start - 1) (by omega) (by omega)
    rcases h'.first with hzero | hfirst
    · omega
    · rw [hfirst] at hword
      exact Bool.false_ne_true hword

/-- A run is known by its start. -/
theorem WordRun.eq_of_start (h : WordRun text run) (h' : WordRun text run')
    (hstart : run.start = run'.start) : run = run' := by
  obtain ⟨start, stop⟩ := run
  obtain ⟨start', stop'⟩ := run'
  simp only at hstart
  subst hstart
  have hle : ¬ stop < stop' := fun hlt => by
    have hword := h'.word stop (Nat.le_of_lt h.proper) hlt
    rw [h.last] at hword
    exact Bool.false_ne_true hword
  have hge : ¬ stop' < stop := fun hlt => by
    have hword := h.word stop' (Nat.le_of_lt h'.proper) hlt
    rw [h'.last] at hword
    exact Bool.false_ne_true hword
  rw [Nat.le_antisymm (Nat.not_lt.mp hge) (Nat.not_lt.mp hle)]

/-! ## The runs of a part of a text -/

/-- A text that is cut short has the same word characters before the cut, and none after it. -/
theorem isWordAt_take (text : List Char) (n i : Nat) :
    isWordAt (text.take n) i = (decide (i < n) && isWordAt text i) := by
  rw [isWordAt, List.getElem?_take]
  by_cases hlt : i < n
  · simp [hlt, isWordAt]
  · simp [hlt]

/-- Word characters end somewhere. -/
theorem exists_first_not_isWordAt (text : List Char) (pos : Nat) :
    ∃ stop, pos ≤ stop ∧ isWordAt text stop = false ∧
      ∀ i, pos ≤ i → i < stop → isWordAt text i = true := by
  have hsome : ∃ stop, pos ≤ stop ∧ isWordAt text stop = false := by
    refine ⟨max pos text.length, Nat.le_max_left .., ?_⟩
    rw [isWordAt, List.getElem?_eq_none (Nat.le_max_right ..), Option.any_none]
  refine ⟨Nat.find hsome, (Nat.find_spec hsome).1, (Nat.find_spec hsome).2, fun i hle hlt => ?_⟩
  have hnot := Nat.find_min hsome hlt
  rw [not_and, Bool.not_eq_false] at hnot
  exact hnot hle

/-- **The runs of a part** are those of the text that begin in it, cut off at its end. -/
theorem wordRun_take_iff {n : Nat} :
    WordRun (text.take n) run ↔
      ∃ whole, WordRun text whole ∧ whole.start < n ∧ run = ⟨whole.start, min whole.stop n⟩ := by
  constructor
  · intro h
    have hproper := h.proper
    have hword : ∀ i, run.start ≤ i → i < run.stop → i < n ∧ isWordAt text i = true := by
      intro i hle hlt
      have := h.word i hle hlt
      rw [isWordAt_take, Bool.and_eq_true, decide_eq_true_eq] at this
      exact this
    have hinside := (hword (run.stop - 1) (by omega) (by omega)).1
    obtain ⟨stop, hle, hlast, hrest⟩ := exists_first_not_isWordAt text run.stop
    refine ⟨⟨run.start, stop⟩, ⟨?_, fun i hi hlt => ?_, ?_, hlast⟩, ?_, ?_⟩
    · exact Nat.lt_of_lt_of_le hproper hle
    · by_cases hpart : i < run.stop
      · exact (hword i hi hpart).2
      · exact hrest i (Nat.not_lt.mp hpart) hlt
    · refine h.first.imp_right fun hfirst => ?_
      rw [isWordAt_take, decide_eq_true (by omega), Bool.true_and] at hfirst
      exact hfirst
    · simp only
      omega
    · -- The run goes on in the text only if the part ends with it.
      have hend : run.stop = min stop n := by
        have hnot := h.last
        rw [isWordAt_take, Bool.and_eq_false_iff, decide_eq_false_iff_not] at hnot
        by_cases hmore : run.stop < n
        · have hstop : ¬ run.stop < stop := fun hlt => by
            have hsome := hrest run.stop (Nat.le_refl _) hlt
            rw [hnot.resolve_left (not_not_intro hmore)] at hsome
            exact Bool.false_ne_true hsome
          omega
        · omega
      rw [← hend]
  · rintro ⟨whole, h, hlt, rfl⟩
    have hproper := h.proper
    refine ⟨by simp only; omega, fun i hle hi => ?_, h.first.imp_right fun hfirst => ?_, ?_⟩
    · simp only at hle hi
      rw [isWordAt_take, decide_eq_true (by omega), h.word i hle (by omega), Bool.and_self]
    · rw [isWordAt_take, hfirst, Bool.and_false]
    · rw [isWordAt_take]
      by_cases hcut : whole.stop < n
      · simp only [Nat.min_eq_left (Nat.le_of_lt hcut), h.last, Bool.and_false]
      · simp only [Nat.min_eq_right (Nat.not_lt.mp hcut), Nat.lt_irrefl, decide_false,
          Bool.false_and]

end

/-! ## Tokens -/

/-- Texts of word characters, none of which is empty. -/
structure AreWords (texts : Texts) : Prop where
  nonempty : ∀ t, texts t → t ≠ []
  word : ∀ t, texts t → ∀ c ∈ t, Subject.isWordCode false c.toNat = true

/-- A longest run of word characters that is, as a whole, a text of a kind. -/
structure Token (texts : Texts) (text : List Char) (run : Span) : Prop where
  isRun : WordRun text run
  takes : texts (slice text run.start run.stop)

/-- The pattern of a word: an edge, a group with the word, and an edge. -/
def Node.word (token : Node) : Node :=
  .cat (.assertion (.wordEdge false)) (.cat (.group 1 token) (.assertion (.wordEdge false)))

/-- Does a word begin or end at a position? -/
def isEdge (text : List Char) (pos : Nat) : Bool :=
  (decide (0 < pos) && isWordAt text (pos - 1)) != isWordAt text pos

/-- What a search for words comes to where it finds one. -/
def tokenState (run : Span) : State :=
  State.close { State.initial 1 run.start with pos := run.stop } 1 run.start

section

variable {q : Search} {f : Frame} {text : List Char} {texts : Texts} {token : Node}

/-- A text of word characters between two edges is a run of them. -/
theorem standsAt_between_edges_iff (htexts : AreWords texts) {a b : Nat} :
    (isEdge text a = true ∧ StandsAt texts text a b ∧ isEdge text b = true) ↔
      Token texts text ⟨a, b⟩ := by
  constructor
  · rintro ⟨hfirst, hstands, hlast⟩
    have hlt := hstands.lt htexts.nonempty
    have hword : ∀ i, a ≤ i → i < b → isWordAt text i = true := by
      intro i hle hi
      have hinside : i < text.length := Nat.lt_of_lt_of_le hi hstands.stop_le
      have hget : text[i]? = some text[i] := List.getElem?_eq_getElem hinside
      rw [isWordAt, hget, Option.any_some]
      exact htexts.word _ hstands.text _ (mem_slice_iff.mpr ⟨i, hle, hi, hget⟩)
    unfold isEdge at hfirst hlast
    refine ⟨⟨hlt, hword, ?_, ?_⟩, hstands.text⟩
    · rw [hword a (Nat.le_refl a) hlt] at hfirst
      by_cases hzero : a = 0
      · exact .inl hzero
      · rw [decide_eq_true (Nat.pos_of_ne_zero hzero)] at hfirst
        exact .inr (by simpa using hfirst)
    · rw [hword (b - 1) (by omega) (by omega), decide_eq_true (by omega)] at hlast
      simpa using hlast
  · intro h
    have hproper : a < b := h.isRun.proper
    refine ⟨?_, ⟨Nat.le_of_lt hproper, h.isRun.stop_le, h.takes⟩, ?_⟩
    · have hword := h.isRun.word a (Nat.le_refl a) hproper
      rw [isEdge, hword]
      rcases h.isRun.first with hzero | hfirst
      · simp only at hzero
        simp [hzero]
      · simp only at hfirst
        simp [hfirst]
    · have hword := h.isRun.word (b - 1) (by simp only; omega) (by simp only; omega)
      have hlast : isWordAt text b = false := h.isRun.last
      rw [isEdge, hword, hlast, decide_eq_true (by omega)]
      rfl

/-- A word edge holds at the edges of the text that is read. -/
theorem Reads.holds_wordEdge (h : Reads q f text) (anchor pos : Nat) :
    (Assertion.wordEdge false).holds q.subject anchor pos = isEdge text pos := by
  have hat : ∀ i, (q.subject.after? i).any (Subject.isWordCode false) = isWordAt text i := by
    intro i
    rw [h.subject, isWordAt, Option.any_map]
  have hbefore : q.subject.wordBefore false pos =
      (decide (0 < pos) && isWordAt text (pos - 1)) := by
    rw [Subject.wordBefore, Subject.before?, ← hat]
    by_cases hzero : pos = 0
    · simp [hzero]
    · simp [hzero, Nat.pos_of_ne_zero hzero, Subject.after?]
  have hafter : q.subject.wordAfter false pos = isWordAt text pos := hat pos
  rw [Assertion.holds, hbefore, hafter, isEdge]

/-- The ways of a pattern for words at a place: the run that begins there, if it is a token. -/
theorem Reads.mem_ways_word_iff (h : Reads q f text) (htextual : token.isTextual = true)
    (hwords : AreWords token.Takes) {pos : Nat} (hpos : pos ≤ text.length) {st : State} :
    st ∈ (Node.word token).ways q f (.initial 1 pos) ↔
      ∃ b, Token token.Takes text ⟨pos, b⟩ ∧ st = tokenState ⟨pos, b⟩ := by
  have hedge : ∀ st st' : State, st' ∈ (Node.assertion (.wordEdge false)).ways q f st ↔
      isEdge text st.pos = true ∧ st' = st := by
    intro st st'
    rw [Node.ways, h.holds_wordEdge]
    by_cases hst : isEdge text st.pos = true
    · simp [hst]
    · simp [hst]
  simp only [Node.word, Node.ways_cat, Node.ways_group, List.mem_flatMap, List.mem_map, hedge,
    ← standsAt_between_edges_iff hwords]
  constructor
  · rintro ⟨_, ⟨hfirst, rfl⟩, _, ⟨mid, hmid, rfl⟩, hlast, rfl⟩
    obtain ⟨b, hb, rfl⟩ := (h.mem_ways_iff htextual hpos).mp hmid
    exact ⟨b, ⟨hfirst, hb, hlast⟩, rfl⟩
  · rintro ⟨b, ⟨hfirst, hb, hlast⟩, rfl⟩
    exact ⟨_, ⟨hfirst, rfl⟩, _, ⟨_, (h.mem_ways_iff htextual hpos).mpr ⟨b, hb, rfl⟩, rfl⟩, hlast,
      rfl⟩

/-! ## Searching for tokens -/

/-- What is found at a place or from there on: the first token, if there is one. -/
def FirstToken (texts : Texts) (text : List Char) (pos : Nat) : Option State → Prop
  | none => ∀ run, Token texts text run → run.start < pos
  | some st => ∃ run, Token texts text run ∧ pos ≤ run.start ∧ st = tokenState run ∧
      ∀ run', Token texts text run' → run'.start < pos ∨ run.start ≤ run'.start

/-- A token begins with one of the first characters of its pattern. -/
theorem Reads.mayStart_of_token (h : Reads q f text) {run : Span}
    (htoken : Token token.Takes text run) :
    mayStart (Node.word token).lead? q.subject run.start = true := by
  by_cases hempty : token.mayBeEmpty = true
  · simp [Node.lead?, Node.word, Node.mayBeEmpty, hempty, mayStart]
  · have hfirsts : (Node.word token).lead? = some (.union .nothing token.firsts) := by
      simp [Node.lead?, Node.word, Node.mayBeEmpty, Node.firsts, hempty]
    have hproper := htoken.isRun.proper
    have hlt : run.start < text.length := Nat.lt_of_lt_of_le hproper htoken.isRun.stop_le
    have hslice : slice text run.start run.stop =
        text[run.start] :: slice text (run.start + 1) run.stop := by
      have hone : slice text run.start (run.start + 1) = [text[run.start]] := by
        rw [slice, Nat.add_sub_cancel_left, List.drop_eq_getElem_cons hlt]
        rfl
      rw [← slice_append_slice (Nat.le_succ _) hproper, hone]
      rfl
    have hcontains : token.firsts.contains text[run.start].toNat = true :=
      Node.Takes.first (hslice ▸ htoken.takes)
    rw [hfirsts, mayStart, h.subject, List.getElem?_eq_getElem hlt]
    simp [CharSet.contains, hcontains]

section

variable (hlongest : q.longest = false) (hadvance : q.mustAdvance = false)
  (hroot : q.root = .word token) (htextual : token.isTextual = true)
  (hwords : AreWords token.Takes) (hcost : q.root.cost 1 ≤ Search.stepLimit)

include hlongest hadvance hroot htextual hwords hcost

/-- At a place the token that begins there is found. -/
theorem Reads.matchAt_word (h : Reads q f text) {pos : Nat} (hpos : pos ≤ text.length) :
    ∃ found, (if mayStart q.root.lead? q.subject pos then q.matchAt f 1 pos else (none, none)) =
        (found, none) ∧
      match found with
      | none => ∀ run, Token token.Takes text run → run.start ≠ pos
      | some st => ∃ run, Token token.Takes text run ∧ run.start = pos ∧ st = tokenState run := by
  have hdirect : q.root.isDirect = true := by
    simp [hroot, Node.word, Node.isDirect, Node.isDirect_of_isTextual htextual]
  have hways : ∀ st, st ∈ q.root.ways q f (.initial 1 pos) ↔
      ∃ b, Token token.Takes text ⟨pos, b⟩ ∧ st = tokenState ⟨pos, b⟩ := fun st => by
    rw [hroot, h.mem_ways_word_iff htextual hwords hpos]
  by_cases hstart : mayStart q.root.lead? q.subject pos = true
  · refine ⟨_, by rw [if_pos hstart, matchAt_direct hlongest hadvance hdirect hcost h.onward], ?_⟩
    cases hhead : (q.root.ways q f (.initial 1 pos)).head? with
    | none =>
        rintro ⟨start, stop⟩ htoken rfl
        have hmem := (hways _).mpr ⟨stop, htoken, rfl⟩
        rw [List.head?_eq_none_iff.mp hhead] at hmem
        simp at hmem
    | some st =>
        obtain ⟨b, htoken, rfl⟩ := (hways st).mp (List.mem_of_head? hhead)
        exact ⟨_, htoken, rfl, rfl⟩
  · refine ⟨none, by rw [if_neg hstart], ?_⟩
    rintro run htoken rfl
    rw [hroot] at hstart
    exact hstart (h.mayStart_of_token htoken)

/-- A search goes on to the first token. -/
theorem Reads.firstFrom_word (h : Reads q f text) {room pos : Nat} (hpos : pos ≤ text.length)
    (hroom : text.length < pos + room) :
    FirstToken token.Takes text pos (firstFrom q f 1 q.root.lead? room pos) := by
  induction room generalizing pos with
  | zero => omega
  | succ room ih =>
      obtain ⟨found, hfound, hhere⟩ :=
        h.matchAt_word hlongest hadvance hroot htextual hwords hcost hpos
      unfold firstFrom
      rw [hfound]
      cases found with
      | some st =>
          obtain ⟨run, htoken, rfl, rfl⟩ := hhere
          exact ⟨run, htoken, Nat.le_refl _, rfl, fun run' _ => Nat.lt_or_ge ..⟩
      | none =>
          have hnext : nextPlace? f.direction f.low f.high pos none =
              if pos + 1 ≤ text.length then some (pos + 1) else none := by
            simp [nextPlace?, h.onward.direction, h.high]
          simp only [hnext]
          by_cases hend : pos + 1 ≤ text.length
          · rw [if_pos hend]
            -- No token begins here, so that the first one is found from the next place.
            have hrest := ih hend (by omega)
            simp only
            cases hres : firstFrom q f 1 q.root.lead? room (pos + 1) with
            | none =>
                rw [hres] at hrest
                intro run htoken
                have hlt := hrest run htoken
                have hne := hhere run htoken
                omega
            | some st =>
                rw [hres] at hrest
                obtain ⟨run, htoken, hle, hst, hfirst⟩ := hrest
                refine ⟨run, htoken, by omega, hst, fun run' htoken' => ?_⟩
                have hlt := hfirst run' htoken'
                have hne := hhere run' htoken'
                omega
          · rw [if_neg hend]
            intro run htoken
            have hproper := htoken.isRun.proper
            have hstop := htoken.isRun.stop_le
            have hne := hhere run htoken
            omega

end

end

/-! ## All tokens of a part of a line -/

/-- Matches that are the tokens of a text from a position on, in order, each with the token as its
first group. -/
structure ListsTokens (texts : Texts) (text : List Char) (low : Nat) (ms : List Match) : Prop where
  ordered : ms.Pairwise fun m m' => m.stop < m'.start
  tokens : ∀ run : Span,
    (∃ m ∈ ms, m.start = run.start ∧ m.stop = run.stop) ↔ Token texts text run ∧ low ≤ run.start
  group : ∀ m ∈ ms, m.span? 1 = some (m.start, m.stop)

/-- A pattern for whole words. -/
structure Words (p : Pattern) (token : Node) : Prop where
  root : p.root = .word token
  groups : p.groups = 1
  lead : p.lead = p.root.lead?
  direction : p.direction = .forward
  longest : p.longest = false
  textual : token.isTextual = true
  areWords : AreWords token.Takes
  cost_le : (Node.word token).cost 1 ≤ Search.stepLimit

section

variable {p : Pattern} {token : Node} {texts : Texts} {line text : List Char} {pos stop : Nat}
  {run : Span} {ms : List Match}

/-- A pattern for texts tolerates no errors. -/
theorem Node.not_isTolerant_of_isTextual {n : Node} (h : n.isTextual = true) :
    n.isTolerant = false := by
  induction n with
  | cat l r ihl ihr =>
      obtain ⟨hl, hr⟩ := Bool.and_eq_true_iff.mp h
      rw [isTolerant, ihl hl, ihr hr, Bool.or_self]
  | alt l r ihl ihr =>
      obtain ⟨hl, hr⟩ := Bool.and_eq_true_iff.mp h
      rw [isTolerant, ihl hl, ihr hr, Bool.or_self]
  | loop bounds fewest body ih =>
      cases body with
      | one s => rfl
      | _ => simp [isTextual] at h
  | _ => first | rfl | simp [isTextual] at h

/-- A search in a line up to a stop reads what is before that. -/
theorem reads_ofLine (hstop : stop ≤ line.length) {q : Search} (low : Nat)
    (hq : q.subject = .ofLine line stop) :
    Reads q ⟨.forward, low, stop, false⟩ (line.take stop) where
  onward := ⟨rfl, rfl⟩
  subject i := by rw [hq, Subject.after?_ofLine]
  high := by rw [List.length_take, Nat.min_eq_left hstop]

/-- **The search for a token finds the first of the text**, from a position on. -/
theorem Words.search (h : p.Words token) (hstop : stop ≤ line.length) (low : Nat)
    (hpos : pos ≤ stop) :
    FirstToken token.Takes (line.take stop) pos
      (p.search ⟨.ofLine line stop, low, stop, pos, false⟩) := by
  have hexact : p.root.isTolerant = false := by
    simp [h.root, Node.word, Node.isTolerant, Node.not_isTolerant_of_isTextual h.textual]
  have hlength : (line.take stop).length = stop := by rw [List.length_take, Nat.min_eq_left hstop]
  unfold Pattern.search Pattern.firstMatch
  simp only [hexact, Bool.false_and, Bool.false_eq_true, if_false, Option.map_id_fun', id, h.lead,
    h.direction, h.groups, h.longest]
  refine (reads_ofLine hstop low rfl).firstFrom_word rfl rfl h.root h.textual h.areWords ?_
    (by omega) ?_
  · simp only
    rw [h.root]
    exact h.cost_le
  · rw [Subject.size_ofLine]
    omega

theorem FirstToken.listsTokens_nil (h : FirstToken texts text pos none) :
    ListsTokens texts text pos [] where
  ordered := .nil
  tokens run := by
    simp only [List.not_mem_nil, false_and, exists_false, false_iff]
    rintro ⟨htoken, hle⟩
    have := h run htoken
    omega
  group m hm := by simp at hm

/-- The match of a token. -/
theorem FirstToken.listsTokens_cons {captures : Captures} {run : Span}
    (hcaptures : captures.span? 1 = some (run.start, run.stop)) (htoken : Token texts text run)
    (hpos : pos ≤ run.start)
    (hfirst : ∀ run', Token texts text run' → run'.start < pos ∨ run.start ≤ run'.start)
    (hrest : ListsTokens texts text run.stop ms) :
    ListsTokens texts text pos (⟨run.start, run.stop, captures⟩ :: ms) where
  ordered := by
    refine List.pairwise_cons.mpr ⟨fun m hm => ?_, hrest.ordered⟩
    obtain ⟨htoken', hle⟩ := (hrest.tokens ⟨m.start, m.stop⟩).mp ⟨m, hm, rfl, rfl⟩
    exact htoken.isRun.stop_lt htoken'.isRun (Nat.lt_of_lt_of_le htoken.isRun.proper hle)
  tokens run' := by
    simp only [List.mem_cons, exists_eq_or_imp, hrest.tokens]
    constructor
    · rintro (⟨hstart, hstop⟩ | ⟨htoken', hle⟩)
      · obtain ⟨start', stop'⟩ := run'
        simp only at hstart hstop
        subst hstart hstop
        exact ⟨htoken, hpos⟩
      · have hproper := htoken.isRun.proper
        exact ⟨htoken', by omega⟩
    · rintro ⟨htoken', hle⟩
      by_cases hsame : run.start = run'.start
      · obtain rfl := htoken.isRun.eq_of_start htoken'.isRun hsame
        exact .inl ⟨rfl, rfl⟩
      · have hlater := (hfirst run' htoken').resolve_left (Nat.not_lt.mpr hle)
        have hgap := htoken.isRun.stop_lt htoken'.isRun (by omega)
        exact .inr ⟨htoken', Nat.le_of_lt hgap⟩
  group m hm := by
    rcases List.mem_cons.mp hm with rfl | hm
    · exact hcaptures
    · exact hrest.group m hm

/-- Going on from a position, the search lists the tokens from there. -/
theorem Words.matchesFrom (h : p.Words token) (hstop : stop ≤ line.length) (low : Nat)
    {fuel : Nat} (hpos : pos ≤ stop) (hfuel : stop < pos + fuel) :
    ListsTokens token.Takes (line.take stop) pos
      (p.matchesFrom fuel ⟨.ofLine line stop, low, stop, pos, false⟩) := by
  induction fuel generalizing pos with
  | zero => omega
  | succ fuel ih =>
      have hsearch := h.search hstop low hpos
      unfold Pattern.matchesFrom
      cases hfound : p.search ⟨.ofLine line stop, low, stop, pos, false⟩ with
      | none =>
          rw [hfound] at hsearch
          exact hsearch.listsTokens_nil
      | some st =>
          rw [hfound] at hsearch
          obtain ⟨run, htoken, hle, rfl, hfirst⟩ := hsearch
          have hproper := htoken.isRun.proper
          have hend : run.stop ≤ stop := by
            have := htoken.isRun.stop_le
            rw [List.length_take] at this
            omega
          have hmoved : (run.start == run.stop) = false := beq_eq_false_iff_ne.mpr (by omega)
          have hmin : min run.start run.stop = run.start := Nat.min_eq_left (by omega)
          have hmax : max run.start run.stop = run.stop := Nat.max_eq_right (by omega)
          simp only [tokenState, State.close, State.initial, hmoved, hmin, hmax]
          refine FirstToken.listsTokens_cons ?_ htoken hle hfirst (ih hend (by omega))
          simp [Captures.span?]

/-- **A search for words finds the tokens of the part that is searched**, from its start on, in
order, and nothing else. The text before that part counts for where a word begins, while a word
ends with the part at the latest. -/
theorem Words.findAll (h : p.Words token) {start : Nat} (hle : start ≤ stop)
    (hstop : stop ≤ line.length) :
    ListsTokens token.Takes (line.take stop) start (p.findAll line start stop) := by
  unfold Pattern.findAll
  simp only [h.direction, Nat.min_eq_left hstop, Nat.min_eq_left (Nat.le_trans hle hstop),
    Nat.max_eq_right hle]
  exact h.matchesFrom hstop start hle (by omega)

end

end SourceAudit.Pattern
