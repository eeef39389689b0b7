import SourceAudit.Pattern.Node

/-!
# SourceAudit.Pattern.Machine

Matching a pattern at one place of a text, by a machine that takes one small step after another. The
machine holds the tasks still to be done, and the choices to which it can come back: other ways to
go on, the latest first. A task that fails makes it take up the latest choice. The ways are tried in
order of preference, so the first one that ends is the match.

A repetition without an upper bound ends after an iteration that has changed nothing, so that it
cannot go on forever.
-/

namespace SourceAudit.Pattern

open Text

/-- What holds for a part of a pattern wherever it is met. -/
structure Frame where
  direction : Direction
  /-- No character before this position is consumed. -/
  low : Nat
  /-- No character from this position on is consumed. -/
  high : Nat
  /-- Are errors tolerated? -/
  tolerant : Bool
deriving DecidableEq, Repr

/-- The next character within a frame, and the position beyond it. -/
def Frame.next? (f : Frame) (s : Subject) (pos : Nat) : Option (Nat × Nat) :=
  match f.direction with
  | .forward => if pos < f.high then (s.after? pos).map (·, pos + 1) else none
  | .backward => if f.low < pos then (s.before? pos).map (·, pos - 1) else none

/-- The position after going back by some characters. -/
def Frame.goBack (f : Frame) (pos count : Nat) : Nat :=
  match f.direction with
  | .forward => pos - count
  | .backward => pos + count

/-- The spans matched so far: that of group `n` at index `n - 1`. -/
abbrev Captures := Array (Option (Nat × Nat))

/-- The span of a group. -/
def Captures.span? (caps : Captures) (number : Nat) : Option (Nat × Nat) :=
  if number = 0 then none else (caps[number - 1]?).join

/-- What a way has come to. -/
structure State where
  pos : Nat
  /-- Where the match starts. -/
  start : Nat
  captures : Captures
  /-- The errors within the innermost tolerance. -/
  errors : Errors
  /-- The innermost tolerance. -/
  tolerance : Option Tolerance
  /-- The number of choices that no `prune` may drop. -/
  floor : Nat
deriving DecidableEq, Repr

/-- Something still to be done. -/
inductive Task
  | node (n : Node) (f : Frame)
  /-- A group that started at `start` ends. -/
  | close (number start : Nat)
  /-- An iteration of a repetition ends, `count` having ended before; it started at `mark`. -/
  | again (bounds : Bounds) (fewest : Bool) (body : Node) (f : Frame) (count : Nat) (mark : State)
  /-- All choices but the oldest `height` are dropped, and `floor` counts again. -/
  | commit (height floor : Nat)
  /-- As `commit`, and back to a position. -/
  | comeBack (height floor pos : Nat)
  /-- All choices but the oldest `height` are dropped, and it goes on from a state. -/
  | undo (height : Nat) (st : State)
  /-- All choices but the oldest `height` are dropped, and the latest of them is taken up. -/
  | refuse (height : Nat)
  /-- A part with errors ends; what counts outside of it counts again. -/
  | settle (outer : Errors) (tolerance : Option Tolerance) (f : Frame)
  /-- A called group ends, and the spans from before the call count again. -/
  | giveBack (captures : Captures)

/-- Another way to go on. -/
inductive Choice
  | retry (tasks : List Task) (st : State)
  /-- A repetition of one character may have up to `count` iterations less. -/
  | shorten (tasks : List Task) (st : State) (f : Frame) (count : Nat)
  /-- A repetition of one character may have another iteration, or up to `count` if that is given.
  -/
  | lengthen (tasks : List Task) (st : State) (f : Frame) (s : CharSet) (count : Option Nat)

/-- What holds for a whole search. -/
structure Search where
  subject : Subject
  root : Node
  /-- Only ASCII letters have case variants. -/
  ascii : Bool
  /-- Where the search began. -/
  anchor : Nat
  /-- A match may not end where the search began. -/
  mustAdvance : Bool
  /-- The longest match is wanted and not the first one. -/
  longest : Bool
  /-- The greatest number of errors in one part. -/
  errorLimit : Option Nat

/-- The machine. -/
structure Machine where
  tasks : List Task
  st : State
  choices : List Choice
  /-- The number of choices. -/
  height : Nat
  /-- No other match starts before this position or, backward, after it. -/
  skipTo : Option Nat
  /-- The longest match so far. -/
  best : Option State

/-- What comes of a step: the machine goes on, or the search at this place is over. -/
inductive Outcome
  | on (m : Machine)
  | over (found : Option State) (skipTo : Option Nat)

namespace Machine

/-- Goes on with tasks from a state. -/
def goOn (m : Machine) (tasks : List Task) (st : State) : Outcome :=
  .on { m with tasks := tasks, st := st }

/-- The machine with one choice more. -/
def push (m : Machine) (c : Choice) : Machine :=
  { m with choices := c :: m.choices, height := m.height + 1 }

/-- The machine with no more than the oldest `height` choices. -/
def cut (m : Machine) (height : Nat) : Machine :=
  if height < m.height then
    { m with choices := m.choices.drop (m.height - height), height := height }
  else m

/-- Takes up the latest choice. -/
def fail (m : Machine) (sub : Subject) : Outcome :=
  match m.choices with
  | [] => .over m.best m.skipTo
  | .retry tasks st :: rest =>
    .on { m with tasks := tasks, st := st, choices := rest, height := m.height - 1 }
  | .shorten tasks st f count :: rest =>
    let st := { st with pos := f.goBack st.pos 1 }
    if count ≤ 1 then
      .on { m with tasks := tasks, st := st, choices := rest, height := m.height - 1 }
    else
      .on { m with tasks := tasks, st := st, choices := .shorten tasks st f (count - 1) :: rest }
  | .lengthen tasks st f s count :: rest =>
    let m := { m with choices := rest, height := m.height - 1 }
    let more : Option (Nat × Nat) := if count = some 0 then none else f.next? sub st.pos
    match more with
    | some (c, pos) =>
      if s.contains c then
        let st := { st with pos := pos }
        (m.push (.lengthen tasks st f s (count.map (· - 1)))).goOn tasks st
      else .on { m with tasks := [.refuse m.height] }
    | none => .on { m with tasks := [.refuse m.height] }

end Machine

namespace Search

/-! ## Errors -/

/-- The ways to go on at a pattern that does not match here, in order: an error is made, if it is
tolerated. A search does not begin with an added character, for then it could begin after it. -/
def mistakes (q : Search) (n : Node) (f : Frame) (rest : List Task) (st : State) : List Choice :=
  match st.tolerance with
  | none => []
  | some t =>
    let may (k : ErrorKind) : Bool := t.admits q.errorLimit st.errors k
    let next := (f.next? q.subject st.pos).filter fun (c, _) => t.allows c
    let replaced := match next with
      | some (_, pos) =>
        if may .replaced then
          [.retry rest { st with pos := pos, errors := st.errors.with1 .replaced }]
        else []
      | none => []
    let added := match next with
      | some (_, pos) =>
        if may .added && st.pos != q.anchor then
          [.retry (.node n f :: rest) { st with pos := pos, errors := st.errors.with1 .added }]
        else []
      | none => []
    let missing :=
      if may .missing then [.retry rest { st with errors := st.errors.with1 .missing }] else []
    replaced ++ added ++ missing

/-- Goes on at a pattern that does not match here. -/
def mismatch (q : Search) (m : Machine) (n : Node) (f : Frame) (rest : List Task) : Outcome :=
  if f.tolerant then
    let ways := q.mistakes n f rest m.st
    { m with choices := ways ++ m.choices, height := m.height + ways.length }.fail q.subject
  else m.fail q.subject

/-! ## Single characters -/

/-- How many characters of a set follow, up to `room`. -/
def run (q : Search) (s : CharSet) (f : Frame) : (room pos : Nat) → Nat
  | 0, _ => 0
  | room + 1, pos =>
    match f.next? q.subject pos with
    | some (c, pos) => if s.contains c then q.run s f room pos + 1 else 0
    | none => 0

/-- The number of characters in the direction of a frame. -/
def room (f : Frame) (pos : Nat) : Nat :=
  match f.direction with
  | .forward => f.high - pos
  | .backward => pos - f.low

/-- A position moved on by some characters. -/
def advance (f : Frame) (pos count : Nat) : Nat :=
  match f.direction with
  | .forward => pos + count
  | .backward => pos - count

/-- Repeats one character. -/
def repeatOne (q : Search) (m : Machine) (s : CharSet) (bounds : Bounds) (fewest : Bool) (f : Frame)
    (rest : List Task) : Outcome :=
  let available := room f m.st.pos
  let most := if fewest then bounds.least else (bounds.greatest.getD available)
  let count := q.run s f (min most available) m.st.pos
  if count < bounds.least then m.fail q.subject
  else
    let st := { m.st with pos := advance f m.st.pos count }
    if fewest then
      (m.push (.lengthen rest st f s (bounds.greatest.map (· - count)))).goOn rest st
    else if bounds.least < count then
      (m.push (.shorten rest st f (count - bounds.least))).goOn rest st
    else m.goOn rest st

/-- The rest of `text` after the characters `cs`, if it starts with variants of them. -/
def afterVariants? (ascii : Bool) : (cs text : List Nat) → Option (List Nat)
  | [], text => some text
  | c :: cs, t :: text =>
    if (CharSet.variants ascii t).contains c then afterVariants? ascii cs text else none
  | _ :: _, [] => none

/-- The position after characters whose full folding is `text`, which every character shortens. -/
def followFolded? (q : Search) (f : Frame) : (fuel : Nat) → (text : List Nat) → (pos : Nat) →
    Option Nat
  | _, [], pos => some pos
  | 0, _ :: _, _ => none
  | fuel + 1, t :: text, pos =>
    match f.next? q.subject pos with
    | none => none
    | some (c, pos) =>
      let cs := if f.direction = .forward then foldFully c else (foldFully c).reverse
      match afterVariants? q.ascii cs (t :: text) with
      | some text => q.followFolded? f fuel text pos
      | none => none

/-- The position after characters that are variants of `text`, one by one. -/
def follow? (q : Search) (f : Frame) (ignoreCase : Bool) : (text : List Nat) → (pos : Nat) →
    Option Nat
  | [], pos => some pos
  | t :: text, pos =>
    match f.next? q.subject pos with
    | none => none
    | some (c, pos) =>
      if (CharSet.literal ignoreCase q.ascii t).contains c then q.follow? f ignoreCase text pos
      else none

/-- A text in the order in which a frame follows it. -/
def Frame.order (f : Frame) (text : List Nat) : List Nat :=
  match f.direction with
  | .forward => text
  | .backward => text.reverse

/-- The position after a text. -/
def text? (q : Search) (f : Frame) (mode : CaseMode) (text : List Nat) (pos : Nat) : Option Nat :=
  match mode with
  | .exact => q.follow? f false (Frame.order f text) pos
  | .simple => q.follow? f true (Frame.order f text) pos
  | .full =>
    let text := text.flatMap foldFully
    q.followFolded? f text.length (Frame.order f text) pos

/-- Matches a text, with errors if these are tolerated. -/
def text (q : Search) (m : Machine) (f : Frame) (mode : CaseMode) (text : List Nat)
    (rest : List Task) : Outcome :=
  match q.text? f mode text m.st.pos with
  | some pos => m.goOn rest { m.st with pos := pos }
  | none =>
    if f.tolerant then
      let letters := text.map fun c => Node.one (.literal (mode != .exact) q.ascii c)
      m.goOn (.node (.seq letters) f :: rest) m.st
    else m.fail q.subject

/-! ## Steps -/

/-- Another iteration of a repetition of which `count` are done, or an end of it. -/
def iterate (m : Machine) (bounds : Bounds) (fewest : Bool) (body : Node) (f : Frame)
    (count : Nat) (rest : List Task) : Outcome :=
  let st := m.st
  let more : List Task := .node body f :: .again bounds fewest body f count st :: rest
  if count < bounds.least then m.goOn more st
  else if bounds.admitsMore count then
    if fewest then (m.push (.retry more st)).goOn rest st
    else (m.push (.retry rest st)).goOn more st
  else m.goOn rest st

/-- Starts on a pattern, with `rest` to be done after it. -/
def enter (q : Search) (m : Machine) (n : Node) (f : Frame) (rest : List Task) : Outcome :=
  let st := m.st
  match n with
  | .empty => m.goOn rest st
  | .never => m.fail q.subject
  | .one s =>
    match f.next? q.subject st.pos with
    | some (c, pos) =>
      if s.contains c then m.goOn rest { st with pos := pos } else q.mismatch m n f rest
    | none => q.mismatch m n f rest
  | .folded text => q.text m f .full text rest
  | .cat l r =>
    match f.direction with
    | .forward => m.goOn (.node l f :: .node r f :: rest) st
    | .backward => m.goOn (.node r f :: .node l f :: rest) st
  | .alt l r => (m.push (.retry (.node r f :: rest) st)).goOn (.node l f :: rest) st
  | .group number body => m.goOn (.node body f :: .close number st.pos :: rest) st
  | .loop bounds fewest body =>
    match body with
    | .one s =>
      if f.tolerant then iterate m bounds fewest body f 0 rest
      else q.repeatOne m s bounds fewest f rest
    | _ => iterate m bounds fewest body f 0 rest
  | .assertion a =>
    if a.holds q.subject q.anchor st.pos then m.goOn rest st else q.mismatch m n f rest
  | .look direction wanted body =>
    let inner : Frame := ⟨direction, 0, q.subject.size, false⟩
    if wanted then
      m.goOn (.node body inner :: .comeBack m.height st.floor st.pos :: rest)
        { st with floor := m.height }
    else
      (m.push (.retry rest st)).goOn [.node body inner, .refuse m.height]
        { st with floor := m.height + 1 }
  | .lookIf direction wanted body yes no =>
    let inner : Frame := ⟨direction, 0, q.subject.size, false⟩
    let st' := { st with floor := m.height + 1 }
    if wanted then
      (m.push (.retry (.node no f :: rest) st)).goOn
        (.node body inner :: .comeBack m.height st.floor st.pos :: .node yes f :: rest) st'
    else
      (m.push (.retry (.node yes f :: rest) st)).goOn
        (.node body inner :: .undo m.height st :: .node no f :: rest) st'
  | .groupIf number yes no =>
    m.goOn (.node (if (st.captures.span? number).isSome then yes else no) f :: rest) st
  | .atomic body =>
    m.goOn (.node body f :: .commit m.height st.floor :: rest) { st with floor := m.height }
  | .backref number mode =>
    match st.captures.span? number with
    | some (start, stop) => q.text m f mode (q.subject.slice start stop) rest
    | none => m.fail q.subject
  | .call number =>
    let target := if number = 0 then some q.root else q.root.group? number
    match target with
    | some body =>
      m.goOn (.node body f :: .giveBack st.captures :: rest)
        { st with captures := st.captures.map fun _ => none }
    | none => m.fail q.subject
  | .keep => m.goOn rest { st with start := st.pos }
  | .prune => (m.cut st.floor).goOn rest st
  | .skip => ({ m.cut st.floor with skipTo := some st.pos }).goOn rest st
  | .tolerant t body =>
    m.goOn (.node body { f with tolerant := true } :: .settle st.errors st.tolerance f :: rest)
      { st with errors := .zero, tolerance := some t }

/-- Ends a part with errors. Further characters may be added at its end. -/
def settle (q : Search) (m : Machine) (outer : Errors) (tolerance : Option Tolerance) (f : Frame)
    (rest : List Task) : Outcome :=
  let st := m.st
  match st.tolerance with
  | none => m.fail q.subject
  | some t =>
    let m :=
      match (f.next? q.subject st.pos).filter fun (c, _) => t.allows c with
      | some (_, pos) =>
        if t.admits q.errorLimit st.errors .added then
          m.push (.retry (.settle outer tolerance f :: rest)
            { st with pos := pos, errors := st.errors.with1 .added })
        else m
      | none => m
    if t.isMet st.errors then
      m.goOn rest { st with errors := outer.add st.errors, tolerance := tolerance }
    else m.fail q.subject

/-- Ends an iteration. If it has changed nothing, a repetition without an upper bound ends as soon
as it has enough iterations. -/
def iterated (m : Machine) (bounds : Bounds) (fewest : Bool) (body : Node) (f : Frame)
    (count : Nat) (mark : State) (rest : List Task) : Outcome :=
  let st := m.st
  if bounds.greatest.isNone && bounds.least ≤ count + 1 && st.pos == mark.pos &&
      st.captures == mark.captures && st.errors == mark.errors then
    m.goOn rest st
  else iterate m bounds fewest body f (count + 1) rest

/-- The length of a match. -/
def length (st : State) : Nat := max st.start st.pos - min st.start st.pos

/-- Ends a way. -/
def finish (q : Search) (m : Machine) : Outcome :=
  if q.mustAdvance && m.st.pos == q.anchor then m.fail q.subject
  else if q.longest then
    if m.best.all (length · < length m.st) then { m with best := some m.st }.fail q.subject
    else m.fail q.subject
  else .over (some m.st) m.skipTo

/-- One step. -/
def step (q : Search) (m : Machine) : Outcome :=
  let st := m.st
  match m.tasks with
  | [] => q.finish m
  | .node n f :: rest => q.enter m n f rest
  | .close number start :: rest =>
    let span := some (min start st.pos, max start st.pos)
    m.goOn rest { st with captures := st.captures.setIfInBounds (number - 1) span }
  | .again bounds fewest body f count mark :: rest =>
    iterated m bounds fewest body f count mark rest
  | .commit height floor :: rest => (m.cut height).goOn rest { st with floor := floor }
  | .comeBack height floor pos :: rest =>
    (m.cut height).goOn rest { st with floor := floor, pos := pos }
  | .undo height st :: rest => (m.cut height).goOn rest st
  | .refuse height :: _ => (m.cut height).fail q.subject
  | .settle outer tolerance f :: rest => q.settle m outer tolerance f rest
  | .giveBack captures :: rest => m.goOn rest { st with captures := captures }

/-- Steps until the search at this place is over; with no fuel left, nothing is found. -/
def steps (q : Search) : (fuel : Nat) → Machine → Option State × Option Nat
  | 0, m => (none, m.skipTo)
  | fuel + 1, m =>
    match q.step m with
    | .over found skipTo => (found, skipTo)
    | .on m => q.steps fuel m

/-- More steps than any search takes in practice. -/
def stepLimit : Nat := 1000000000000000

/-- Matches the pattern at a place: the state at the end of the match, and where the next place may
be. -/
def matchAt (q : Search) (f : Frame) (groups pos : Nat) : Option State × Option Nat :=
  q.steps stepLimit
    ⟨[.node q.root f], ⟨pos, pos, Array.replicate groups none, .zero, none, 0⟩, [], 0, none, none⟩

end Search

end SourceAudit.Pattern
