import SourceAudit.Json.Writer
import SourceAudit.Remote.Response

/-!
# SourceAudit.Remote.Script

Recorded replies. A script lists, for each request target, the replies given to it in turn, the last
of them for good; together with the clock it is the world in which a scan takes place. A target that
is not listed does not exist.
-/

namespace SourceAudit.Remote

open Number

/-- What becomes of a request. -/
inductive Outcome
  | response (r : Response)
  | fault (f : Fault)
  /-- There is no answer before the time for the scan is over. -/
  | hang
deriving DecidableEq, Repr

/-- A reply, and what the clock shows when it arrives if it moves by then. -/
structure Reply where
  outcome : Outcome
  now : Option Rat
deriving DecidableEq

namespace Reply

/-- The reply to a target that does not exist. -/
def notFound : Reply :=
  ⟨.response ⟨404, .empty, Text.bytesOf "\x7b\"message\": \"Not Found\"\x7d"⟩, none⟩

end Reply

/-- The replies still to be given, by target. -/
structure Script where
  entries : List (String × List Reply)

namespace Script

/-- The first reply of an entry, and the entry after it. -/
def take : List Reply → Reply × List Reply
  | [] => (.notFound, [])
  | [r] => (r, [r])
  | r :: rs => (r, rs)

/-- The reply to a request for `target`, and the script after it. -/
def answer (s : Script) (target : String) : Reply × Script :=
  let (reply, entries) := go s.entries
  (reply, ⟨entries⟩)
where
  /-- The reply from the first entry of the target. -/
  go : List (String × List Reply) → Reply × List (String × List Reply)
    | [] => (.notFound, [])
    | (name, replies) :: rest =>
      if name = target then ((take replies).1, (name, (take replies).2) :: rest)
      else ((go rest).1, (name, replies) :: (go rest).2)

/-- The bytes of a text of hexadecimal digits. -/
def hexBytes : List Char → List UInt8
  | a :: b :: cs =>
    match Text.hexValue? a, Text.hexValue? b with
    | some x, some y => UInt8.ofNat (x * 16 + y) :: hexBytes cs
    | _, _ => []
  | _ => []

/-- The body that an object describes: by a value, by hexadecimal digits or by text. -/
def bodyOf (j : Json) : List UInt8 :=
  match j.get? "json", j.get? "hex", j.get? "text" with
  | some v, _, _ => Text.bytesOf v.render
  | none, some (.str s), _ => hexBytes s.toList
  | none, _, some (.str s) => Text.bytesOf s
  | _, _, _ => []

/-- A text, or the text of another value. -/
def textOf : Json → String
  | .str s => s
  | j => j.text?.getD j.render

/-- The headers that an object describes. -/
def headersOf : Option Json → Headers
  | some (.obj members) => ⟨members.map fun (name, v) => (name, textOf v)⟩
  | _ => .empty

/-- A number of seconds. -/
def secondsOf? : Json → Option Rat
  | .int n => some (Binary64.round n)
  | .float x => x.toRat?
  | _ => none

/-- The reply that an object describes. -/
def replyOf (j : Json) : Reply :=
  let outcome : Outcome :=
    match j.get? "raise", (j.get? "hang").any Json.isTruthy with
    | some (.str name), _ => .fault (.ofName name)
    | _, true => .hang
    | _, false =>
      let status := match j.get? "status" with
        | some (.int n) => n.toNat
        | _ => 200
      .response ⟨status, headersOf (j.get? "headers"), bodyOf j⟩
  ⟨outcome, (j.get? "now").bind secondsOf?⟩

/-- The script that an object describes, one reply or a list of them for each target. -/
def ofJson : Json → Script
  | .obj members =>
    ⟨members.map fun (target, v) =>
      match v with
      | .arr replies => (target, replies.map replyOf)
      | reply => (target, [replyOf reply])⟩
  | _ => ⟨[]⟩

end Script

/-- The world of a scan: what the clock shows, in seconds since 1970, and what GitHub will reply. -/
structure World where
  now : Rat
  script : Script

end SourceAudit.Remote
