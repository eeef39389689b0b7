import SourceAudit.Json.Value
import SourceAudit.Number.Reading
import SourceAudit.Text.Utf16

/-!
# SourceAudit.Json.Reader

Reading JSON text. The grammar is the standard one, with the three names `NaN`, `Infinity` and
`-Infinity` as further numbers; integers may have so many digits, and lists and objects be nested so
deep. `Json.read` reads a whole text, `Json.ofBytes` the bytes of one in UTF-8, UTF-16 or UTF-32.
-/

namespace SourceAudit.Json

open Text Number

/-- Why a text, or the bytes of one, denote no value. -/
inductive ReadError
  /-- The bytes are no text in the encoding that they seem to have. -/
  | encoding
  /-- The text is not JSON. -/
  | grammar
  /-- An integer has more digits than are read. -/
  | longInteger
  /-- Lists and objects are nested deeper than is read. -/
  | deepNesting
deriving DecidableEq, Repr

/-- Lists and objects may be nested so deep. -/
def maxDepth : Nat := 960

namespace Reader

/-- White space between tokens. -/
def isGap (c : Char) : Bool := c == ' ' || c == '\n' || c == '\t' || c == '\r'

/-- Skips white space. -/
def skip (cs : List Char) : List Char := cs.dropWhile isGap

/-- The code unit of four hexadecimal digits. -/
def hexUnit? (a b c d : Char) : Option Nat := do
  let a ← hexValue? a
  let b ← hexValue? b
  let c ← hexValue? c
  let d ← hexValue? d
  return ((a * 16 + b) * 16 + c) * 16 + d

/-- The character of a one-letter escape. -/
def simpleEscape? : Char → Option Char
  | '"' => some '"'
  | '\\' => some '\\'
  | '/' => some '/'
  | 'b' => some (Char.ofNat 8)
  | 'f' => some (Char.ofNat 12)
  | 'n' => some '\n'
  | 'r' => some '\r'
  | 't' => some '\t'
  | _ => none

/-- A string as read: its code points, most recent first, and what follows the closing quote. -/
structure Quoted where
  reversed : List Nat
  rest : List Char

/-- The value of a string. -/
def Quoted.value (q : Quoted) : Json := ofCodes q.reversed.reverse

/-- The text of a string. -/
def Quoted.text (q : Quoted) : String := .ofList (q.reversed.reverse.map charOfCode)

/-- The rest of a string after its opening quote. `high` is the first half of a surrogate pair just
read, and `done` holds the code points before it, most recent first. -/
def string? (high : Option Nat) (done : List Nat) : List Char → Option Quoted
  | [] => none
  | '"' :: cs => some ⟨flush, cs⟩
  | '\\' :: 'u' :: a :: b :: c :: d :: cs =>
    match hexUnit? a b c d with
    | none => none
    | some u =>
      match high with
      | some h =>
        if isLowSurrogate u then string? none ((pairChar h u).toNat :: done) cs
        else if isHighSurrogate u then string? (some u) (h :: done) cs
        else string? none (u :: h :: done) cs
      | none =>
        if isHighSurrogate u then string? (some u) done cs else string? none (u :: done) cs
  | '\\' :: e :: cs =>
    match simpleEscape? e with
    | none => none
    | some c => string? none (c.toNat :: flush) cs
  | c :: cs =>
    if c.toNat < 0x20 ∨ c = '\\' then none else string? none (c.toNat :: flush) cs
where
  /-- What is read so far, with a half pair that stayed alone. -/
  flush : List Nat := high.toList ++ done

/-- A number without its sign, or one of the names that stand for a number. -/
def unsigned (negative : Bool) (cs : List Char) : Except ReadError (Json × List Char) :=
  let whole := if cs.head? = some '0' then ['0'] else cs.takeWhile isDigit
  if whole.isEmpty then .error .grammar
  else
    let rest := cs.drop whole.length
    let (fraction, rest) :=
      match rest with
      | '.' :: tail =>
        let ds := tail.takeWhile isDigit
        if ds.isEmpty then ([], rest) else (ds, tail.drop ds.length)
      | _ => ([], rest)
    let (exponent, rest) : Option Int × List Char :=
      match rest with
      | [] => (none, rest)
      | c :: tail =>
        if c = 'e' ∨ c = 'E' then
          let (below, tail) := splitSign tail
          let ds := tail.takeWhile isDigit
          if ds.isEmpty then (none, rest)
          else (some (signed below (natOfDigits ds)), tail.drop ds.length)
        else (none, rest)
    if fraction.isEmpty && exponent.isNone then
      if maxDigits < whole.length then .error .longInteger
      else .ok (.int (signed negative (natOfDigits whole)), rest)
    else
      let power := exponent.getD 0 - fraction.length
      .ok (.float (ofDecimal negative (whole ++ fraction) power), rest)

/-- What follows `word` in the text, which must start with it. -/
def after : (word cs : List Char) → Except ReadError (List Char)
  | [], cs => .ok cs
  | w :: ws, c :: cs => if w = c then after ws cs else .error .grammar
  | _ :: _, [] => .error .grammar

/-- A scalar other than a string. -/
def scalar (cs : List Char) : Except ReadError (Json × List Char) :=
  match cs with
  | 'n' :: rest => (after ['u', 'l', 'l'] rest).map (Json.null, ·)
  | 't' :: rest => (after ['r', 'u', 'e'] rest).map (Json.bool true, ·)
  | 'f' :: rest => (after ['a', 'l', 's', 'e'] rest).map (Json.bool false, ·)
  | 'N' :: rest => (after ['a', 'N'] rest).map (Json.float .nan, ·)
  | 'I' :: rest => (after infinityTail rest).map (Json.float (.infinity false), ·)
  | '-' :: 'I' :: rest => (after infinityTail rest).map (Json.float (.infinity true), ·)
  | '-' :: rest => unsigned true rest
  | _ => unsigned false cs
where
  /-- The letters of `Infinity` after the first. -/
  infinityTail : List Char := ['n', 'f', 'i', 'n', 'i', 't', 'y']

mutual

/-- A value at the start of `cs`, in which lists and objects are nested up to `depth` deep. Each
level of nesting uses up one unit of `fuel`, and a level takes at least one character, so the length
of the text is enough. -/
def value : (fuel depth : Nat) → (cs : List Char) → Except ReadError (Json × List Char)
  | 0, _, _ => .error .grammar
  | fuel + 1, depth, cs =>
    match cs, depth with
    | '"' :: rest, _ =>
      match string? none [] rest with
      | some q => .ok (q.value, q.rest)
      | none => .error .grammar
    | '[' :: _, 0 => .error .deepNesting
    | '{' :: _, 0 => .error .deepNesting
    | '[' :: rest, depth + 1 =>
      match skip rest with
      | ']' :: tail => .ok (.arr [], tail)
      | rest => (items fuel depth rest).map fun (items, tail) => (.arr items, tail)
    | '{' :: rest, depth + 1 =>
      match skip rest with
      | '}' :: tail => .ok (.obj [], tail)
      | rest => (members fuel depth rest).map fun (members, tail) => (ofMembers members, tail)
    | _, _ => scalar cs

/-- The items of a list, at least one, and its closing bracket. -/
def items : (fuel depth : Nat) → (cs : List Char) → Except ReadError (List Json × List Char)
  | 0, _, _ => .error .grammar
  | fuel + 1, depth, cs =>
    match value fuel depth cs with
    | .error e => .error e
    | .ok (item, rest) =>
      match skip rest with
      | ']' :: tail => .ok ([item], tail)
      | ',' :: tail =>
        (items fuel depth (skip tail)).map fun (items, tail) => (item :: items, tail)
      | _ => .error .grammar

/-- The members of an object, at least one, and its closing brace. -/
def members :
    (fuel depth : Nat) → (cs : List Char) → Except ReadError (List (String × Json) × List Char)
  | 0, _, _ => .error .grammar
  | fuel + 1, depth, cs =>
    match cs with
    | '"' :: rest =>
      match string? none [] rest with
      | none => .error .grammar
      | some key =>
        match skip key.rest with
        | ':' :: rest =>
          match value fuel depth (skip rest) with
          | .error e => .error e
          | .ok (v, rest) =>
            match skip rest with
            | '}' :: tail => .ok ([(key.text, v)], tail)
            | ',' :: tail =>
              (members fuel depth (skip tail)).map fun (members, tail) =>
                ((key.text, v) :: members, tail)
            | _ => .error .grammar
        | _ => .error .grammar
    | _ => .error .grammar

end

end Reader

/-- The value that a text denotes. -/
def ofChars (cs : List Char) : Except ReadError Json :=
  match Reader.value (2 * cs.length + 2) maxDepth (Reader.skip cs) with
  | .ok (j, rest) => if (Reader.skip rest).isEmpty then .ok j else .error .grammar
  | .error e => .error e

/-- The value that a text denotes. -/
def read (s : String) : Except ReadError Json := ofChars s.toList

/-- The value that a text denotes, if it does. -/
def parse? (s : String) : Option Json := (read s).toOption

/-- How a half of a surrogate pair on its own is spelled in a text. -/
def spelledHalf (u : Nat) : List Char := '\\' :: 'u' :: hexDigits false 4 u

/-- The bytes of a text in UTF-8 with its halves of surrogate pairs spelled out; these stand in the
place of characters of three bytes. -/
def spellHalves : List UInt8 → List UInt8
  | 0xED :: b :: c :: bs =>
    if 0xA0 ≤ b ∧ b ≤ 0xBF ∧ 0x80 ≤ c ∧ c ≤ 0xBF then
      encode (spelledHalf (0xD000 + (b.toNat - 0x80) * 64 + (c.toNat - 0x80))) ++ spellHalves bs
    else 0xED :: spellHalves (b :: c :: bs)
  | b :: bs => b :: spellHalves bs
  | [] => []

/-- The text of bytes in UTF-8. -/
def text8? (bs : List UInt8) : Option (List Char) := decode? (spellHalves bs)

/-- The text of bytes in UTF-16. -/
def text16? (order : ByteOrder) (bs : List UInt8) : Option (List Char) :=
  (units16? order bs).map (ofUnits16 spelledHalf)

/-- The text of bytes in UTF-32. -/
def text32? (order : ByteOrder) (bs : List UInt8) : Option (List Char) :=
  (units32? order bs).bind (ofUnits32? spelledHalf)

/-- The text of bytes whose encoding shows in their first few: by a byte order mark, or by where
zeros are among them. Halves of surrogate pairs on their own are spelled out in it. -/
def textOfBytes? (bs : List UInt8) : Option (List Char) :=
  match bs with
  | 0x00 :: 0x00 :: 0xFE :: 0xFF :: rest => text32? .big rest
  | 0xFF :: 0xFE :: 0x00 :: 0x00 :: rest => text32? .little rest
  | 0xFE :: 0xFF :: rest => text16? .big rest
  | 0xFF :: 0xFE :: rest => text16? .little rest
  | 0xEF :: 0xBB :: 0xBF :: rest => text8? rest
  | a :: b :: c :: d :: _ =>
    if a = 0 then if b = 0 then text32? .big bs else text16? .big bs
    else if b = 0 then if c = 0 ∧ d = 0 then text32? .little bs else text16? .little bs
    else text8? bs
  | [a, b] =>
    if a = 0 then text16? .big bs
    else if b = 0 then text16? .little bs
    else text8? bs
  | _ => text8? bs

/-- The value of a text given as bytes. -/
def ofBytes (bs : List UInt8) : Except ReadError Json :=
  match textOfBytes? bs with
  | none => .error .encoding
  | some cs => ofChars cs

end SourceAudit.Json
