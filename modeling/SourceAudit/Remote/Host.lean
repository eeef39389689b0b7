import SourceAudit.Text.Case
import SourceAudit.Text.Composition
import SourceAudit.Text.Digit
import SourceAudit.Text.Percent
import SourceAudit.Text.Pieces
import SourceAudit.Text.Punycode

/-!
# SourceAudit.Remote.Host

The host of an address. It is a number of four octets, a number of eight groups in brackets, or a
name. `Host.encode?` checks a host and gives its form in ASCII: names are in lower case, and a label
of a name that goes beyond ASCII is written in letters, digits and hyphens after `xn--`.
-/

namespace SourceAudit.Remote.Host

open Text

/-! ## Numbers -/

/-- What one character does to the reading of four runs of digits with one character between two of
them: even states wait for the first digit of a run, odd ones are inside a run. -/
def octetStep (c : Char) (state : Nat) : List Nat :=
  (if isAsciiDigit c then [if state % 2 = 0 then state + 1 else state] else []) ++
    (if state % 2 = 1 ∧ state < 7 then [state + 1] else [])

/-- Does a host look like a number of four octets? -/
def looksLikeOctets (cs : List Char) : Bool :=
  (cs.foldl (fun states c => (states.flatMap (octetStep c)).eraseDups) [0]).contains 7

/-- Up to three digits without a leading zero, for a number below 256. -/
def isOctet (cs : List Char) : Bool :=
  !cs.isEmpty && cs.length ≤ 3 && cs.all isAsciiDigit && (cs.length = 1 || cs.head? ≠ some '0') &&
    cs.foldl (fun n c => n * 10 + (c.toNat - 0x30)) 0 < 256

/-- Four octets with dots between them. -/
def isOctets (cs : List Char) : Bool :=
  let octets := piecesBetween '.' cs
  octets.length = 4 && octets.all isOctet

/-- One to four hexadecimal digits. -/
def isGroup (cs : List Char) : Bool :=
  !cs.isEmpty && cs.length ≤ 4 && cs.all fun c => (hexValue? c).isSome

/-- Eight groups. One run of groups that are zero may be left out, so that two colons follow each
other, also at an end. -/
def areGroups (groups : List (List Char)) : Bool :=
  let inner := (groups.drop 1).dropLast
  match inner.count [] with
  | 0 => groups.length = 8 && groups.all isGroup
  | 1 =>
    let before := groups.take (1 + inner.idxOf [])
    let after := groups.drop (2 + inner.idxOf [])
    let before := if before = [[]] then [] else before
    let after := if after = [[]] then [] else after
    before.length + after.length < 8 && before.all isGroup && after.all isGroup
  | _ => false

/-- Groups with colons between them; four octets may stand in the place of the last two. A zone may
follow after a percent sign. -/
def isGroups (cs : List Char) : Bool :=
  let number := cs.takeWhile (· ≠ '%')
  let zone := cs.drop number.length
  let groups := piecesBetween ':' number
  let last := groups.getLast?.getD []
  let groups? :=
    if last.contains '.' then
      if isOctets last then some (groups.dropLast ++ [['0'], ['0']]) else none
    else some groups
  zone ≠ ['%'] && !(zone.drop 1).contains '%' && 3 ≤ groups.length && groups?.any areGroups

/-! ## Names -/

/-- The characters besides the unreserved ones that an ASCII name keeps. -/
def nameMarks : List Char := "!$&'()*+,;=\"\x60\x7b\x7d%|\\".toList

/-- A name in ASCII. -/
def asciiName (cs : List Char) : List Char :=
  (cs.map asciiLowerChar).flatMap (percentChar fun c => isUnreserved c || nameMarks.contains c)

/-- The dots between labels: besides the ASCII one three wider ones. -/
def isDot (c : Char) : Bool := c == '.' || c == '。' || c == '．' || c == '｡'

/-- Does the trait with a name have one of the given values at a character? -/
def hasTrait (name : String) (values : List String) : Char → Bool :=
  let trait := traitCalled name
  let values := traitValues trait values
  fun c => values.contains (trait.get c.toNat)

/-- Letters in lower case or without case, marks and digits. -/
def isLetterOrDigit : Char → Bool := hasTrait "GC" ["LL", "LO", "LM", "MN", "MC", "ND"]

/-- Marks. -/
def isMark : Char → Bool := hasTrait "GC" ["MN", "MC", "ME"]

/-- What changes when differences of case and form are removed. -/
def isUnstable : Char → Bool := hasTrait "CWKCF" ["Y"]

/-- What is not to be seen. -/
def isIgnorable : Char → Bool := hasTrait "DI" ["Y"]

/-- The letters of which syllables are made up. -/
def isJamo : Char → Bool := hasTrait "HST" ["L", "V", "T"]

/-- The letters that a label may hold although they are unstable or no letters by their class. -/
def admitted : List Nat := [0xDF, 0x3C2, 0x6FD, 0x6FE, 0xF0B, 0x3007]

/-- The letters that a label may not hold. -/
def excluded : List Nat :=
  [0x640, 0x7FA, 0x302E, 0x302F, 0x3031, 0x3032, 0x3033, 0x3034, 0x3035, 0x303B]

/-- Is the code point in a block of symbols? -/
def isSymbolBlock (n : Nat) : Bool := (0x20D0 ≤ n && n ≤ 0x20FF) || (0x1D100 ≤ n && n ≤ 0x1D24F)

/-- A character that any label may hold. -/
def isPlain (c : Char) : Bool :=
  let n := c.toNat
  c == '-' || admitted.contains n ||
    (isLetterOrDigit c && !isUnstable c && !isIgnorable c && !isJamo c && !excluded.contains n &&
      !isSymbolBlock n)

/-- Is the code point an Arabic digit of the first kind? -/
def isArabicDigit (c : Char) : Bool := 0x660 ≤ c.toNat && c.toNat ≤ 0x669

/-- Is the code point an Arabic digit of the second kind? -/
def isExtendedDigit (c : Char) : Bool := 0x6F0 ≤ c.toNat && c.toNat ≤ 0x6F9

/-- Greek letters. -/
def isGreek : Char → Bool := hasTrait "SC" ["GREEK"]

/-- Hebrew letters. -/
def isHebrew : Char → Bool := hasTrait "SC" ["HEBREW"]

/-- Japanese letters. -/
def isJapanese : Char → Bool := hasTrait "SC" ["HIRAGANA", "KATAKANA", "HAN"]

/-- The signs that take away the vowel of a letter. -/
def isVirama : Char → Bool := hasTrait "CCC" ["VR"]

/-- May a character stand in the label between what is before it, in reverse, and what is after it?
Some characters depend on their neighbours, or on the whole label. -/
def fits (before : List Char) (c : Char) (after : List Char) : Bool :=
  let n := c.toNat
  if n = 0xB7 then before.head? = some 'l' && after.head? = some 'l'
  else if n = 0x375 then after.head?.any isGreek
  else if n = 0x5F3 ∨ n = 0x5F4 then before.head?.any isHebrew
  else if n = 0x30FB then (before ++ after).any fun d => d.toNat ≠ 0x30FB && isJapanese d
  else if isArabicDigit c then !(before ++ after).any isExtendedDigit
  else if isExtendedDigit c then !(before ++ after).any isArabicDigit
  else if n = 0x200C ∨ n = 0x200D then before.head?.any isVirama
  else isPlain c

/-- Do all characters of a label fit? -/
def allFit (before : List Char) : List Char → Bool
  | [] => true
  | c :: cs => fits before c cs && allFit (c :: before) cs

/-- Characters that are written from right to left. -/
def isRightToLeft : Char → Bool := hasTrait "BC" ["R", "AL"]

/-- Numbers that are written with them. -/
def isArabicNumber : Char → Bool := hasTrait "BC" ["AN"]

/-- Numbers in any writing. -/
def isEuropeanNumber : Char → Bool := hasTrait "BC" ["EN"]

/-- Characters that are written from left to right. -/
def isLeftToRight : Char → Bool := hasTrait "BC" ["L"]

/-- Characters that go with either direction. -/
def isNeutral : Char → Bool := hasTrait "BC" ["ES", "CS", "ET", "ON", "BN", "NSM"]

/-- Marks that belong to the character before them. -/
def isAttached : Char → Bool := hasTrait "BC" ["NSM"]

/-- Has a label with characters from right to left one direction throughout? -/
def isDirected (cs : List Char) : Bool :=
  let ending := (cs.reverse.dropWhile isAttached).head?
  if !cs.any fun c => isRightToLeft c || isArabicNumber c then true
  else if cs.head?.any isRightToLeft then
    cs.all (fun c => isRightToLeft c || isArabicNumber c || isEuropeanNumber c || isNeutral c) &&
      ending.any (fun c => isRightToLeft c || isArabicNumber c || isEuropeanNumber c) &&
      !(cs.any isArabicNumber && cs.any isEuropeanNumber)
  else
    cs.head?.any isLeftToRight &&
      cs.all (fun c => isLeftToRight c || isEuropeanNumber c || isNeutral c) &&
      ending.any (fun c => isLeftToRight c || isEuropeanNumber c)

/-- Is a label well formed? -/
def isLabel (cs : List Char) : Bool :=
  isComposed cs && (cs.drop 2).take 2 ≠ ['-', '-'] && cs.head? ≠ some '-' &&
    cs.getLast? ≠ some '-' && !cs.head?.any isMark && allFit [] cs && isDirected cs

/-- What the encoding of a label beyond ASCII starts with. -/
def encodedStart : List Char := "xn--".toList

/-- Is a label already encoded? -/
def isEncoded (cs : List Char) : Bool :=
  encodedStart.isPrefixOf cs && 4 < cs.length && cs.getLast? ≠ some '-' &&
    cs.all fun c => isAsciiLetter c || isAsciiDigit c || c == '-'

/-- The form of a label in ASCII, of at most 63 characters. -/
def label? (cs : List Char) : Option (List Char) :=
  let encoded? :=
    if cs.all (·.toNat < 0x80) then
      if isLabel cs || isEncoded cs then some cs else none
    else if isLabel cs then some (encodedStart ++ Punycode.encode cs)
    else none
  encoded?.filter fun encoded => !encoded.isEmpty && encoded.length ≤ 63

/-- The form of a name beyond ASCII, of at most 253 characters before a final dot. -/
def wideName? (cs : List Char) : Option (List Char) :=
  let lowered := (lower (.ofList cs)).toList.map fun c => if isDot c then '.' else c
  let labels := piecesBetween '.' lowered
  let isFinal := labels.getLast? = some []
  match (if isFinal then labels.dropLast else labels).mapM label? with
  | none => none
  | some labels =>
    let name := joinPieces '.' labels
    if name.isEmpty ∨ 253 < name.length then none
    else some (if isFinal then name ++ ['.'] else name)

/-- The form of a host in ASCII, if it is valid; without brackets. -/
def encode? (cs : List Char) : Option (List Char) :=
  if cs.isEmpty then some []
  else if looksLikeOctets cs then if isOctets cs then some cs else none
  else if cs.head? = some '[' ∧ cs.getLast? = some ']' then
    let number := (cs.drop 1).dropLast
    if isGroups number then some number else none
  else if cs.all (·.toNat < 0x80) then some (asciiName cs)
  else wideName? cs

end SourceAudit.Remote.Host
