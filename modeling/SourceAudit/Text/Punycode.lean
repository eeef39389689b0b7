/-!
# SourceAudit.Text.Punycode

Texts in letters, digits and hyphens. The ASCII characters of a text come first; the others follow
in the order of their code points, each by its distance from the one before, counted through all
places of the text. A distance is a number in base 36 with the least digit first. A digit below its
threshold ends the number, and the thresholds follow a bias that adapts to the distances seen.
-/

namespace SourceAudit.Text.Punycode

/-- The character of a digit below 36. -/
def digit (d : Nat) : Char :=
  if d < 26 then Char.ofNat (0x61 + d) else Char.ofNat (0x30 + (d - 26))

/-- The threshold of the digit at position `k`, counted in steps of 36. -/
def threshold (k bias : Nat) : Nat := min 26 (max 1 (k - bias))

theorem threshold_pos (k bias : Nat) : 0 < threshold k bias := by
  unfold threshold
  omega

/-- The digits of a number from position `k` on. -/
def digits (bias k n : Nat) : List Char :=
  let t := threshold k bias
  if n < t then [digit n]
  else digit (t + (n - t) % (36 - t)) :: digits bias (k + 36) ((n - t) / (36 - t))
termination_by n
decreasing_by
  have := threshold_pos k bias
  calc (n - threshold k bias) / (36 - threshold k bias)
      ≤ n - threshold k bias := Nat.div_le_self ..
    _ < n := by omega

/-- Divides by 35 until the number is small, and counts the divisions in steps of 36. -/
def reduce (delta k : Nat) : Nat × Nat :=
  if 455 < delta then reduce (delta / 35) (k + 36) else (delta, k)
termination_by delta
decreasing_by exact Nat.div_lt_self (by omega) (by omega)

/-- The bias after a distance, when `count` characters are written. -/
def adapt (delta count : Nat) (isFirst : Bool) : Nat :=
  let delta := if isFirst then delta / 700 else delta / 2
  let (delta, k) := reduce (delta + delta / count) 0
  k + 36 * delta / (delta + 38)

/-- What is written so far. -/
structure State where
  output : List Char
  /-- The distance since the last character. -/
  delta : Nat
  bias : Nat
  /-- The number of characters written. -/
  count : Nat

/-- One character of the text, when those with the code point `code` are being written. -/
def State.step (basic code : Nat) (s : State) (c : Char) : State :=
  if c.toNat < code then { s with delta := s.delta + 1 }
  else if c.toNat = code then
    { output := s.output ++ digits s.bias 36 s.delta
      delta := 0
      bias := adapt s.delta (s.count + 1) (s.count = basic)
      count := s.count + 1 }
  else s

/-- Writes the characters with the given code points, in ascending order; all below `next` are
done. -/
def extend (cs : List Char) (basic : Nat) : (codes : List Nat) → (next : Nat) → State → State
  | [], _, s => s
  | code :: codes, next, s =>
    let s := { s with delta := s.delta + (code - next) * (s.count + 1) }
    let s := cs.foldl (State.step basic code) s
    extend cs basic codes (code + 1) { s with delta := s.delta + 1 }

/-- The encoding of a text. -/
def encode (cs : List Char) : List Char :=
  let basic := cs.filter (·.toNat < 0x80)
  let codes := ((cs.map Char.toNat).filter (0x80 ≤ ·)).mergeSort.eraseDups
  let s := extend cs basic.length codes 0x80 ⟨[], 0, 72, basic.length⟩
  basic ++ (if basic.isEmpty then [] else ['-']) ++ s.output

end SourceAudit.Text.Punycode
