import SourceAudit.Text.Digit
import SourceAudit.Text.Utf8
import SourceAudit.Text.Word

/-!
# SourceAudit.Text.Percent

Percent-encoding. A text is written over UTF-8 with the characters outside a safe set as `%XX`;
form encoding writes a space as a plus sign. The decoders read such a text back.
-/

namespace SourceAudit.Text

/-- The characters that no encoding changes: letters, digits, hyphen, dot, underscore, tilde. -/
def isUnreserved (c : Char) : Bool :=
  isAsciiLetter c || isAsciiDigit c || c == '-' || c == '.' || c == '_' || c == '~'

/-- One byte as `%XX`. -/
def percentByte (b : UInt8) : List Char :=
  ['%', hexDigit true (b.toNat / 16), hexDigit true (b.toNat % 16)]

/-- One character, encoded unless it is safe. -/
def percentChar (isSafe : Char → Bool) (c : Char) : List Char :=
  if isSafe c then [c] else (String.utf8EncodeChar c).flatMap percentByte

/-- A path: slashes are safe besides the unreserved characters. -/
def percentPath (cs : List Char) : List Char :=
  cs.flatMap (percentChar fun c => isUnreserved c || c == '/')

/-- A value in a query: only the unreserved characters are safe, and a space becomes a plus. -/
def percentForm (cs : List Char) : List Char :=
  cs.flatMap fun c => if c = ' ' then ['+'] else percentChar isUnreserved c

/-- The characters that a part of an address may hold as they are: those of ASCII that are seen,
except the blank and some marks. The percent sign is among them, so that escapes stay. -/
def isKept (marks : List Char) (c : Char) : Bool :=
  0x20 < c.toNat && c.toNat < 0x7F && !marks.contains c

/-- A part of an address in ASCII; it may be encoded already. -/
def percentKept (marks cs : List Char) : List Char := cs.flatMap (percentChar (isKept marks))

/-- The bytes of an encoded text; a percent sign that starts no escape stands for itself. -/
def unpercent : List Char → List UInt8
  | '%' :: a :: b :: cs =>
    match hexValue? a, hexValue? b with
    | some x, some y => UInt8.ofNat (x * 16 + y) :: unpercent cs
    | _, _ => 0x25 :: unpercent (a :: b :: cs)
  | c :: cs => String.utf8EncodeChar c ++ unpercent cs
  | [] => []

/-- The bytes of a form-encoded value. -/
def unform (cs : List Char) : List UInt8 :=
  unpercent (cs.map fun c => if c = '+' then ' ' else c)

end SourceAudit.Text
