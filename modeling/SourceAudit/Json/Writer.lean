import SourceAudit.Json.Value
import SourceAudit.Number.Shortest
import SourceAudit.Text.Digit

/-!
# SourceAudit.Json.Writer

Writing JSON text: one line in ASCII, with a space after each comma and colon, characters beyond
ASCII as escaped UTF-16 units, and fractions by their shortest text.
-/

namespace SourceAudit.Json

open Text Number

namespace Writer

/-- Four hexadecimal digits of a code unit, escaped. -/
def unit (u : Nat) : List Char := '\\' :: 'u' :: hexDigits false 4 u

/-- A character inside a string. -/
def char (c : Char) : List Char :=
  let n := c.toNat
  if c = '"' then ['\\', '"']
  else if c = '\\' then ['\\', '\\']
  else if c = '\n' then ['\\', 'n']
  else if c = '\r' then ['\\', 'r']
  else if c = '\t' then ['\\', 't']
  else if n = 8 then ['\\', 'b']
  else if n = 12 then ['\\', 'f']
  else if 0x20 ≤ n ∧ n < 0x7F then [c]
  else if n < 0x10000 then unit n
  else unit (0xD800 + (n - 0x10000) / 0x400) ++ unit (0xDC00 + (n - 0x10000) % 0x400)

/-- A quoted string. -/
def quoted (s : String) : String :=
  s.foldl (fun acc c => (char c).foldl String.push acc) "\"" |>.push '"'

/-- A code point inside a string. It may be half of a surrogate pair. -/
def code (n : Nat) : List Char := if isSurrogate n then unit n else char (Char.ofNat n)

/-- The quoted string with the given code points. -/
def quotedCodes (codes : List Nat) : String := .ofList ('"' :: codes.flatMap code ++ ['"'])

end Writer

mutual

/-- The text of a value. -/
def render : Json → String
  | .null => "null"
  | .bool true => "true"
  | .bool false => "false"
  | .int n => toString n
  | .float (.infinity negative) => if negative then "-Infinity" else "Infinity"
  | .float .nan => "NaN"
  | .float x => x.text
  | .str s => Writer.quoted s
  | .brokenStr codes => Writer.quotedCodes codes
  | .arr items => "[" ++ ", ".intercalate (renderItems items) ++ "]"
  | .obj members => "\x7b" ++ ", ".intercalate (renderMembers members) ++ "\x7d"

/-- The texts of the items of a list. -/
def renderItems : List Json → List String
  | [] => []
  | item :: items => render item :: renderItems items

/-- The texts of the members of an object. -/
def renderMembers : List (String × Json) → List String
  | [] => []
  | (key, v) :: members => (Writer.quoted key ++ ": " ++ render v) :: renderMembers members

end

end SourceAudit.Json
