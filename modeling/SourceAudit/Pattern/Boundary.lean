import SourceAudit.Pattern.Subject

/-!
# SourceAudit.Pattern.Boundary

The boundaries of words and of perceived characters in running text, by the rules for text
segmentation of the character standard.

* `atClusterBoundary`: between two perceived characters, each of which may be several code points;
* `atWordBoundary`: between two words, where numbers and words with apostrophes stay whole.
-/

namespace SourceAudit.Pattern

open Text

namespace Subject

/-- Where the longest run of characters with `p` that ends at a position starts. -/
def runStart (s : Subject) (p : Nat → Bool) : (pos : Nat) → Nat
  | 0 => 0
  | pos + 1 => if (s.codes[pos]?).any p then s.runStart p pos else pos + 1

/-- The first of some characters from a position on that does not have `p`, looking at no more than
`room` characters. -/
def firstWithout? (s : Subject) (p : Nat → Bool) : (room pos : Nat) → Option Nat
  | 0, _ => none
  | room + 1, pos =>
    match s.codes[pos]? with
    | none => none
    | some c => if p c then s.firstWithout? p room (pos + 1) else some c

end Subject

/-! ## Perceived characters -/

namespace Cluster

/-- The trait by which clusters are told apart. -/
def trait : Trait := traitCalled "GCB"

/-- The trait of joined consonants. -/
def conjunctTrait : Trait := traitCalled "INCB"

/-- The pictographs. -/
def pictographTrait : Trait := traitCalled "EXTPICT"

/-- Has the character one of the named kinds? -/
def isKind (kinds : List Nat) (code : Nat) : Bool := kinds.contains (trait.get code)

/-- Has the character one of the named kinds among joined consonants? -/
def isConjunct (kinds : List Nat) (code : Nat) : Bool := kinds.contains (conjunctTrait.get code)

/-- Control characters and line ends. -/
def controls : List Nat := traitValues trait ["CONTROL", "CR", "LF"]

/-- Marks that extend what precedes them, and joiners. -/
def extenders : List Nat := traitValues trait ["EXTEND", "ZWJ"]

/-- Leading consonants of a syllable. -/
def leading : List Nat := traitValues trait ["L"]

/-- What may follow a leading consonant. -/
def afterLeading : List Nat := traitValues trait ["L", "V", "LV", "LVT"]

/-- Syllables that end in a vowel. -/
def vowels : List Nat := traitValues trait ["V", "LV"]

/-- What may follow a vowel. -/
def afterVowel : List Nat := traitValues trait ["V", "T"]

/-- Syllables that end in a consonant. -/
def trailing : List Nat := traitValues trait ["LVT", "T"]

/-- What may follow a trailing consonant. -/
def afterTrailing : List Nat := traitValues trait ["T"]

/-- Marks that take room of their own. -/
def spacing : List Nat := traitValues trait ["SPACINGMARK"]

/-- Marks that belong to what follows them. -/
def prepended : List Nat := traitValues trait ["PREPEND"]

/-- Letters of regions, two of which form a flag. -/
def regions : List Nat := traitValues trait ["REGIONALINDICATOR"]

/-- Extending marks without the joiner. -/
def marks : List Nat := traitValues trait ["EXTEND"]

/-- The joiner. -/
def joiners : List Nat := traitValues trait ["ZWJ"]

/-- Consonants that join. -/
def consonants : List Nat := traitValues conjunctTrait ["CONSONANT"]

/-- Marks that join consonants. -/
def linkers : List Nat := traitValues conjunctTrait ["LINKER"]

/-- Marks that may stand between joined consonants. -/
def linkedMarks : List Nat := traitValues conjunctTrait ["EXTEND", "LINKER"]

/-- Does nothing but joining marks stand between the position and a consonant before it? -/
def followsConjunct (s : Subject) (pos : Nat) : Bool :=
  let start := s.runStart (isConjunct linkedMarks) pos
  (s.slice start pos).any (isConjunct linkers) && (s.before? start).any (isConjunct consonants)

/-- Do a pictograph, marks and a joiner precede the position? -/
def followsPictograph (s : Subject) (pos : Nat) : Bool :=
  (s.before? pos).any (isKind joiners) &&
    (s.before? (s.runStart (isKind marks) (pos - 1))).any (pictographTrait.get · == 1)

/-- Does an odd number of letters of regions precede the position? -/
def followsOddRegion (s : Subject) (pos : Nat) : Bool :=
  (pos - s.runStart (isKind regions) pos) % 2 == 1

end Cluster

open Cluster in
/-- Does a perceived character start or end at the position? -/
def Subject.atClusterBoundary (s : Subject) (pos : Nat) : Bool :=
  match s.before? pos, s.after? pos with
  | some b, some a =>
    if b = 0xD ∧ a = 0xA then false
    else if isKind controls b || isKind controls a then true
    else
      !((isKind leading b && isKind afterLeading a)
        || (isKind vowels b && isKind afterVowel a)
        || (isKind trailing b && isKind afterTrailing a)
        || isKind extenders a || isKind spacing a || isKind prepended b
        || (isConjunct consonants a && followsConjunct s pos)
        || (pictographTrait.get a == 1 && followsPictograph s pos)
        || (isKind regions a && followsOddRegion s pos))
  | _, _ => s.size != 0

/-! ## Words -/

namespace WordBreak

/-- The trait by which words are told apart. -/
def trait : Trait := traitCalled "WB"

/-- Has the character one of the named kinds? -/
def isKind (kinds : List Nat) (code : Nat) : Bool := kinds.contains (trait.get code)

/-- Line ends. -/
def newlines : List Nat := traitValues trait ["NEWLINE", "CR", "LF"]

/-- Characters that do not count for the boundary after them. -/
def ignored : List Nat := traitValues trait ["EXTEND", "FORMAT", "ZWJ"]

/-- The joiner. -/
def joiners : List Nat := traitValues trait ["ZWJ"]

/-- Blanks. -/
def blanks : List Nat := traitValues trait ["WSEGSPACE"]

/-- Letters. -/
def letters : List Nat := traitValues trait ["ALETTER", "HEBREWLETTER"]

/-- Letters of the script in which quotation marks stand inside of words. -/
def quotedLetters : List Nat := traitValues trait ["HEBREWLETTER"]

/-- Punctuation inside of words. -/
def midWord : List Nat := traitValues trait ["MIDLETTER", "MIDNUMLET", "SINGLEQUOTE"]

/-- Punctuation inside of numbers. -/
def midNumber : List Nat := traitValues trait ["MIDNUM", "MIDNUMLET", "SINGLEQUOTE"]

/-- The single quotation mark. -/
def singleQuotes : List Nat := traitValues trait ["SINGLEQUOTE"]

/-- The double quotation mark. -/
def doubleQuotes : List Nat := traitValues trait ["DOUBLEQUOTE"]

/-- Digits. -/
def digits : List Nat := traitValues trait ["NUMERIC"]

/-- The syllables that form words without blanks between them. -/
def syllables : List Nat := traitValues trait ["KATAKANA"]

/-- Connectors. -/
def connectors : List Nat := traitValues trait ["EXTENDNUMLET"]

/-- Letters of regions. -/
def regions : List Nat := traitValues trait ["REGIONALINDICATOR"]

/-- An apostrophe. -/
def isApostrophe (code : Nat) : Bool := code == 0x27 || code == 0x2019

/-- A vowel, which an elided word may precede. -/
def isVowel (code : Nat) : Bool :=
  [0x61, 0xE0, 0xE1, 0xE2, 0x65, 0xE8, 0xE9, 0xEA, 0x69, 0xEC, 0xED, 0xEE, 0x6F, 0xF2, 0xF3, 0xF4,
    0x75, 0xF9, 0xFA, 0xFB].contains (foldCode code)

/-- The nearest character before a position that counts. -/
def previous? (s : Subject) (pos : Nat) : Option Nat :=
  s.before? (s.runStart (isKind ignored) pos)

/-- The character before the nearest one that counts. -/
def secondPrevious? (s : Subject) (pos : Nat) : Option Nat :=
  previous? s (s.runStart (isKind ignored) pos - 1)

/-- The second character from a position on that counts. -/
def second? (s : Subject) (pos : Nat) : Option Nat :=
  s.firstWithout? (isKind ignored) s.size (pos + 1)

/-- Do the characters around a position belong to one word or number? -/
def joined (s : Subject) (pos b a : Nat) : Bool :=
  let b2 (kinds : List Nat) : Bool := (secondPrevious? s pos).any (isKind kinds)
  let a2 (kinds : List Nat) : Bool := (second? s pos).any (isKind kinds)
  (isKind letters b && isKind letters a)
    || (!(isApostrophe b && isVowel a) &&
      ((isKind letters b && isKind midWord a && a2 letters)
        || (b2 letters && isKind midWord b && isKind letters a)
        || (isKind quotedLetters b && isKind singleQuotes a)
        || (isKind quotedLetters b && isKind doubleQuotes a && a2 quotedLetters)
        || (b2 quotedLetters && isKind doubleQuotes b && isKind quotedLetters a)
        || (isKind digits b && isKind digits a)
        || (isKind letters b && isKind digits a)
        || (isKind digits b && isKind letters a)
        || (b2 digits && isKind midNumber b && isKind digits a)
        || (isKind digits b && isKind midNumber a && a2 digits)
        || (isKind syllables b && isKind syllables a)
        || (isKind (letters ++ digits ++ syllables ++ connectors) b && isKind connectors a)
        || (isKind connectors b && isKind (letters ++ digits ++ syllables) a)))

/-- Does an odd number of letters of regions precede the position, not counting ignored characters?
-/
def followsOddRegion (s : Subject) (pos : Nat) : Bool :=
  let start := s.runStart (fun c => isKind regions c || isKind ignored c) pos
  ((s.slice start pos).filter (isKind regions)).length % 2 == 1

end WordBreak

open WordBreak in
/-- Does a word start or end at the position, or another part between words? -/
def Subject.atWordBoundary (s : Subject) (pos : Nat) : Bool :=
  match s.before? pos, s.after? pos with
  | some nearest, some a =>
    if nearest = 0xD ∧ a = 0xA then false
    else if isKind newlines nearest || isKind newlines a then true
    else if isKind joiners nearest && Cluster.pictographTrait.get a == 1 then false
    else if isKind blanks nearest && isKind blanks a then false
    else if isKind ignored a then false
    else
      let b := (previous? s pos).getD nearest
      !(joined s pos b a || (isKind regions b && isKind regions a && followsOddRegion s pos))
  | _, _ => s.size != 0

end SourceAudit.Pattern
