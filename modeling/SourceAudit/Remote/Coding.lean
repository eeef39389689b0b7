import SourceAudit.Compression.Container
import SourceAudit.Remote.Response
import SourceAudit.Text.Blank
import SourceAudit.Text.Pieces

/-!
# SourceAudit.Remote.Coding

Codings of the bodies of responses. A header names those that are applied to a body, in the order in
which they are, and `Response.plain?` undoes them. Unknown codings are left as they are.
-/

namespace SourceAudit.Remote

/-- A coding of a body. -/
inductive Coding
  | file
  | stream
deriving DecidableEq, Repr

namespace Coding

/-- The coding of a name, if it is known and does anything. -/
def ofName? (name : List Char) : Option Coding :=
  if name = "gzip".toList then some file
  else if name = "deflate".toList then some stream
  else none

/-- Undoes a coding. What should be a stream may also come without its header. -/
def decode? : Coding → List UInt8 → Option (List UInt8)
  | file, bs => Compression.expandFile? bs
  | stream, bs =>
    match Compression.expandStream? bs with
    | some contents => some contents
    | none => Compression.expandBare? bs

/-- Undoes several codings, the last one first. -/
def decodeAll? (codings : List Coding) (bs : List UInt8) : Option (List UInt8) :=
  codings.foldr (fun coding body? => body?.bind coding.decode?) (some bs)

end Coding

namespace Response

/-- The codings that are applied to the body. -/
def codings (r : Response) : List Coding :=
  (r.headers.values "content-encoding").flatMap fun value =>
    (Text.piecesBetween ',' value.toList).filterMap fun name =>
      Coding.ofName? ((Text.strip name).map Text.asciiLowerChar)

/-- The response with its body decoded, if that is possible. -/
def plain? (r : Response) : Option Response :=
  (Coding.decodeAll? r.codings r.body).map fun body => { r with body := body }

end Response

end SourceAudit.Remote
