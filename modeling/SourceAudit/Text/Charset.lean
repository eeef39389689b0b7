import SourceAudit.Text.Base64
import SourceAudit.Text.Case
import SourceAudit.Text.Escaped
import SourceAudit.Text.Utf16

/-!
# SourceAudit.Text.Charset

Charsets of texts that come as bytes. `Charset.decode?` reads bytes in a charset, with U+FFFD for
what cannot be read. Charsets that extend ASCII are not told apart from UTF-8, since they differ
beyond ASCII only; and of those on punched cards only letters, digits and the blank are known. Some
names stand for codings of another kind, in which nothing can be read.
-/

namespace SourceAudit.Text

/-- A charset. -/
inductive Charset
  /-- UTF-8, or any other charset that extends ASCII. -/
  | ascii
  /-- Units of 16 bits, in an order of bytes that is known or else shown by a mark at the start. -/
  | utf16 (order : Option ByteOrder)
  /-- Units of 32 bits, likewise. -/
  | utf32 (order : Option ByteOrder)
  /-- ASCII with the other characters in base 64 after a plus sign. -/
  | utf7
  /-- The codes of punched cards. -/
  | card
  /-- Characters and escapes; with `raw`, only those of four or eight digits. -/
  | escaped (raw : Bool)
  /-- No charset, though it bears a known name. -/
  | noText
deriving DecidableEq, Repr

namespace Charset

/-! ## Names -/

/-- A name with letters in lower case and one underscore for all that stands between letters, digits
and dots. -/
def plainName : (inside : Bool) → List Char → List Char
  | _, [] => []
  | inside, c :: cs =>
    if isAsciiLetter c || isAsciiDigit c || c == '.' then asciiLowerChar c :: plainName true cs
    else if inside then
      let rest := plainName false cs
      if rest.isEmpty then [] else '_' :: rest
    else plainName false cs

/-- The names of the charsets that do not extend ASCII. -/
def names : List (Charset × List String) := [
  (utf16 none, ["utf_16", "utf16", "u16"]),
  (utf16 (some .little), ["utf_16_le", "utf_16le", "unicodelittleunmarked"]),
  (utf16 (some .big), ["utf_16_be", "utf_16be", "unicodebigunmarked"]),
  (utf32 none, ["utf_32", "utf32", "u32"]),
  (utf32 (some .little), ["utf_32_le", "utf_32le"]),
  (utf32 (some .big), ["utf_32_be", "utf_32be"]),
  (utf7, ["utf_7", "utf7", "u7", "unicode_1_1_utf_7"]),
  (card, ["cp037", "037", "csibm037", "ebcdic_cp_ca", "ebcdic_cp_nl", "ebcdic_cp_us",
    "ebcdic_cp_wt", "ibm037", "ibm039", "cp500", "500", "csibm500", "ebcdic_cp_be", "ebcdic_cp_ch",
    "ibm500", "cp1140", "1140", "ibm1140", "cp273", "273", "ibm273", "csibm273", "cp1026", "1026",
    "csibm1026", "ibm1026", "cp424", "424", "csibm424", "ebcdic_cp_he", "ibm424", "cp875"]),
  (escaped false, ["unicode_escape"]),
  (escaped true, ["raw_unicode_escape"]),
  (noText, ["idna", "undefined", "rot13", "rot_13", "base64", "base64_codec", "base_64", "bz2",
    "bz2_codec", "hex", "hex_codec", "quopri", "quopri_codec", "quoted_printable",
    "quotedprintable", "uu", "uu_codec", "zip", "zlib", "zlib_codec"])]

/-- The charset of a name. An unknown name counts as one of a charset that extends ASCII. -/
def ofName (name : List Char) : Charset :=
  let plain := String.ofList (plainName false name)
  ((names.find? (·.2.contains plain)).map (·.1)).getD ascii

/-! ## Units of several bytes -/

/-- What stands for a character that cannot be read. -/
def unread (_ : Nat) : List Char := [replacement]

/-- The 16-bit units of bytes, and whether a byte is left over. -/
def units16 (order : ByteOrder) : List UInt8 → List Nat × Bool
  | [] => ([], false)
  | a :: b :: bs => (order.unit16 a b :: (units16 order bs).1, (units16 order bs).2)
  | _ => ([], true)

/-- The text of 16-bit units. A byte that is left over after the first half of a pair counts as cut
short with it. -/
def decode16 (order : ByteOrder) (bs : List UInt8) : List Char :=
  let (units, more) := units16 order bs
  let isApart := more && !units.getLast?.any isHighSurrogate
  ofUnits16 unread units ++ (if isApart then [replacement] else [])

/-- The text of 32-bit units. -/
def decode32 (order : ByteOrder) : List UInt8 → List Char
  | [] => []
  | a :: b :: c :: d :: bs =>
    let code := order.unit32 a b c d
    (if code.isValidChar then Char.ofNat code else replacement) :: decode32 order bs
  | _ => [replacement]

/-! ## Base 64 among ASCII -/

/-- The state of reading: outside, right after a plus sign, or inside with the bits that are left,
their number, and the first half of a surrogate pair. -/
inductive Shift
  | direct
  | opened
  | inside (bits count : Nat) (high : Option Nat)

/-- The characters of a 16-bit unit after what may be the first half of a pair, and the first half
that the unit may be. -/
def unitAfter (high : Option Nat) (u : Nat) : List Char × Option Nat :=
  match high with
  | some h =>
    if isLowSurrogate u then ([pairChar h u], none)
    else if isHighSurrogate u then ([replacement], some u)
    else ([replacement, Char.ofNat u], none)
  | none =>
    if isHighSurrogate u then ([], some u)
    else ([if isLowSurrogate u then replacement else Char.ofNat u], none)

/-- Six more bits inside. -/
def sixMore (bits count : Nat) (high : Option Nat) (six : Nat) : List Char × Shift :=
  let bits := bits * 64 + six
  let count := count + 6
  if count < 16 then ([], .inside bits count high)
  else
    let spare := twoPow (count - 16)
    let (read, high) := unitAfter high (bits / spare)
    (read, .inside (bits % spare) (count - 16) high)
where
  /-- `2 ^ k`. -/
  twoPow (k : Nat) : Nat := Nat.pow 2 k

/-- An ASCII character outside. -/
def direct (c : Char) : List Char × Shift :=
  if c = '+' then ([], .opened)
  else if c.toNat < 0x80 then ([c], .direct)
  else ([replacement], .direct)

/-- What one byte does. -/
def step7 (state : Shift) (b : UInt8) : List Char × Shift :=
  let c := Char.ofNat b.toNat
  match state with
  | .direct => direct c
  | .opened =>
    match Base64.value? c with
    | some six => sixMore 0 0 none six
    | none => if c = '-' then (['+'], .direct) else ([replacement], .direct)
  | .inside bits count high =>
    match Base64.value? c with
    | some six => sixMore bits count high six
    | none =>
      if 6 ≤ count ∨ bits ≠ 0 then ([replacement], .direct)
      else if c = '-' then ([], .direct)
      else
        let (read, state) := direct c
        (if high.isSome then replacement :: read else read, state)

/-- The text of bytes in ASCII and base 64. What stands in base 64 may end with the bytes, but not
in the middle of a character. -/
def decode7 : Shift → List UInt8 → List Char
  | .direct, [] => []
  | .opened, [] => []
  | .inside bits count high, [] =>
    if high.isSome ∨ 6 ≤ count ∨ bits ≠ 0 then [replacement] else []
  | state, b :: bs => (step7 state b).1 ++ decode7 (step7 state b).2 bs

/-! ## Punched cards -/

/-- The runs of letters and digits: the code of the first, its character, and their number. -/
def cardRuns : List (Nat × Char × Nat) := [
  (0x40, ' ', 1), (0x81, 'a', 9), (0x91, 'j', 9), (0xA2, 's', 8), (0xC1, 'A', 9), (0xD1, 'J', 9),
  (0xE2, 'S', 8), (0xF0, '0', 10)]

/-- The character of a code. -/
def cardChar (b : UInt8) : Char :=
  match cardRuns.find? fun (first, _, count) => first ≤ b.toNat && b.toNat < first + count with
  | some (first, c, _) => Char.ofNat (c.toNat + (b.toNat - first))
  | none => replacement

/-! ## All charsets -/

/-- The text of bytes in a charset; `none` if the order of bytes must be shown and is not, or if it
is no charset. -/
def decode? (charset : Charset) (bs : List UInt8) : Option (List Char) :=
  match charset, bs with
  | ascii, bs => some (decode bs)
  | utf16 (some order), bs => some (decode16 order bs)
  | utf16 none, 0xFF :: 0xFE :: bs => some (decode16 .little bs)
  | utf16 none, 0xFE :: 0xFF :: bs => some (decode16 .big bs)
  | utf16 none, bs => if bs.length < 2 then some (decode16 .little bs) else none
  | utf32 (some order), bs => some (decode32 order bs)
  | utf32 none, 0xFF :: 0xFE :: 0 :: 0 :: bs => some (decode32 .little bs)
  | utf32 none, 0 :: 0 :: 0xFE :: 0xFF :: bs => some (decode32 .big bs)
  | utf32 none, bs => if bs.length < 4 then some (decode32 .little bs) else none
  | utf7, bs => some (decode7 .direct bs)
  | card, bs => some (bs.map cardChar)
  | escaped raw, bs => some (decodeEscaped raw bs)
  | noText, _ => none

end Charset

end SourceAudit.Text
