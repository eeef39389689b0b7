import SourceAudit.Text.Blank
import SourceAudit.Text.Pieces
import SourceAudit.Text.Utf8

/-!
# SourceAudit.Line.Split

The lines of a file. The bytes are cut at line feeds, and each piece is decoded on its own and loses
the carriage returns at its end.
-/

namespace SourceAudit.Line

open Text

/-- The text of one piece. -/
def ofBytes (piece : List UInt8) : List Char := dropEndWhile (· == '\r') (decode piece)

/-- The lines of a file. -/
def split (content : List UInt8) : List (List Char) := (piecesBetween 0x0A content).map ofBytes

/-- One more than the number of bytes of the characters before a position. -/
def byteColumn (line : List Char) (pos : Nat) : Nat := (encode (line.take pos)).length + 1

end SourceAudit.Line
