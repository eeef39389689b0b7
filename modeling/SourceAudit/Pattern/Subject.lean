import SourceAudit.Pattern.CharSet

/-!
# SourceAudit.Pattern.Subject

The text in which a pattern is searched, and what holds at its positions: the ends of lines and
words. Position `i` lies before character `i`; a text of which only a part is searched ends where
that part ends, but does not begin where it begins.
-/

namespace SourceAudit.Pattern

open Text

/-- The way in which a pattern is followed. -/
inductive Direction
  | forward
  | backward
deriving DecidableEq, Repr

/-- A text as the code points of its characters. -/
structure Subject where
  codes : Array Nat

namespace Subject

/-- The first `stop` characters of a line. -/
def ofLine (line : List Char) (stop : Nat) : Subject :=
  ⟨(line.take stop).foldl (fun codes c => codes.push c.toNat) #[]⟩

/-- The number of characters. -/
def size (s : Subject) : Nat := s.codes.size

/-- The character after a position. -/
def after? (s : Subject) (pos : Nat) : Option Nat := s.codes[pos]?

/-- The character before a position. -/
def before? (s : Subject) (pos : Nat) : Option Nat := if pos = 0 then none else s.codes[pos - 1]?

/-- The characters from `start` up to `stop`. -/
def slice (s : Subject) (start stop : Nat) : List Nat := (s.codes.extract start stop).toList

/-! ## Lines -/

/-- Is the character one that ends a line? -/
def isLineEnd (code : Nat) : Bool := CharSet.lineEnds.contains code

/-- The start of a line; with `wide`, after any line end, but not inside of a carriage return and
line feed. -/
def atLineStart (s : Subject) (wide : Bool) (pos : Nat) : Bool :=
  match s.before? pos with
  | none => true
  | some c =>
    if wide then
      if c = 0xD then s.after? pos != some 0xA else isLineEnd c
    else c == 0xA

/-- The end of a line. -/
def atLineEnd (s : Subject) (wide : Bool) (pos : Nat) : Bool :=
  match s.after? pos with
  | none => true
  | some c =>
    if wide then
      if c = 0xA then s.before? pos != some 0xD else isLineEnd c
    else c == 0xA

/-- The end of the text, or the place before a line end that is last. -/
def atLastLineEnd (s : Subject) (wide : Bool) (pos : Nat) : Bool :=
  if s.size ≤ pos then true
  else if wide then
    if s.before? s.size = some 0xA ∧ s.before? (s.size - 1) = some 0xD then pos == s.size - 2
    else pos + 1 == s.size && (s.after? pos).any isLineEnd
  else pos + 1 == s.size && s.after? pos == some 0xA

/-! ## Words -/

/-- The property of word characters. -/
def wordProperty : Property := ⟨(traitNamed? "WORD").getD 0, [1], false⟩

/-- Is the character one of a word? -/
def isWordCode (ascii : Bool) (code : Nat) : Bool := wordProperty.holds ascii code

/-- Does a word character precede the position? -/
def wordBefore (s : Subject) (ascii : Bool) (pos : Nat) : Bool :=
  (s.before? pos).any (isWordCode ascii)

/-- Does a word character follow the position? -/
def wordAfter (s : Subject) (ascii : Bool) (pos : Nat) : Bool :=
  (s.after? pos).any (isWordCode ascii)

end Subject

end SourceAudit.Pattern
