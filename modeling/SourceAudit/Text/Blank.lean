/-!
# SourceAudit.Text.Blank

Blank characters and trimming. A character is *blank* when it is a white-space character or one of
the four information separators U+001C to U+001F; `strip` removes blanks at both ends of a text.
-/

namespace SourceAudit.Text

/-- White space: the characters with that property, the information separators not among them. -/
def isWhite (c : Char) : Bool :=
  let n := c.toNat
  (9 ≤ n && n ≤ 13) || n == 0x20 || n == 0x85 || n == 0xA0 ||
    (0x1680 ≤ n &&
      (n == 0x1680 || (0x2000 ≤ n && n ≤ 0x200A) || n == 0x2028 || n == 0x2029 || n == 0x202F ||
        n == 0x205F || n == 0x3000))

/-- White space or an information separator. -/
def isBlank (c : Char) : Bool :=
  isWhite c || (0x1C ≤ c.toNat && c.toNat ≤ 0x1F)

/-- Drops the leading blanks. -/
def stripStart (cs : List Char) : List Char := cs.dropWhile isBlank

/-- Drops the trailing characters that satisfy `p`. -/
def dropEndWhile (p : Char → Bool) (cs : List Char) : List Char :=
  (cs.reverse.dropWhile p).reverse

/-- Drops the trailing blanks. -/
def stripEnd (cs : List Char) : List Char := dropEndWhile isBlank cs

/-- Drops the blanks at both ends. -/
def strip (cs : List Char) : List Char := stripEnd (stripStart cs)

/-- The text without the blanks at its ends. -/
def trimmed (s : String) : String := String.ofList (strip s.toList)

end SourceAudit.Text
