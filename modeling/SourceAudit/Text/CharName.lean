import SourceAudit.Text.Case
import SourceAudit.Text.CodeMap
import SourceAudit.Text.Digit
import SourceAudit.Text.Names.Basic
import SourceAudit.Text.Names.Wide
import SourceAudit.Text.Names.Words
import SourceAudit.Text.Trait

/-!
# SourceAudit.Text.CharName

The names of characters. Most are listed; those of ideographs end with their code point, and those
of the syllables of Hangul with the letters that make them up.

The written form of a list of names is a sequence of numbers in the form of
`SourceAudit.Text.CodeMap`. A name begins with the number of words that it adds, less one, times 10,
plus the number of words that it keeps of the name before. If it does not belong to the next code
point, this number is greater by 200 and the distance of the code points follows. Then come the
added words, by their places in the list of all words.
-/

namespace SourceAudit.Text

namespace Names

/-- All words of names. -/
def allWords : Thunk (Array String) :=
  Thunk.mk fun _ => (Trait.namesIn (words.flatMap String.toList)).toArray

/-- Looks for a name, given by the places of its words, in a list of names. `kept` is the name
before, and `code` the code point after its own. -/
def find? (name : List Nat) :
    (fuel : Nat) → (kept : List Nat) → (code : Nat) → List Nat → Option Nat
  | 0, _, _, _ => none
  | _, _, _, [] => none
  | fuel + 1, kept, code, head :: rest =>
    let (head, gap, rest) :=
      match decide (head < 200), rest with
      | true, _ => (head, 1, rest)
      | false, gap :: rest => (head - 200, gap, rest)
      | false, [] => (head - 200, 1, rest)
    let count := head / 10 + 1
    let current := kept.take (head % 10) ++ rest.take count
    let code := code + gap
    if current = name then some (code - 1)
    else find? name fuel current code (rest.drop count)

/-- The code point of a name in a written list of names. -/
def findIn? (name : List Nat) (list : List String) : Option Nat :=
  let numbers := CodeMap.numbers 0 (list.flatMap String.toList)
  find? name numbers.length [] 0 numbers

/-- The code point of a listed name in capitals. -/
def listed? (name : String) : Option Nat :=
  let places := (Trait.namesIn name.toList).mapM fun word => allWords.get.idxOf? word
  places.bind fun places =>
    [basic, wide, further].findSome? (findIn? places)

/-! ## Syllables -/

/-- The first letters of a syllable. -/
def firstLetters : List String := ["G", "GG", "N", "D", "DD", "R", "M", "B", "BB", "S", "SS", "",
  "J", "JJ", "C", "K", "T", "P", "H"]

/-- The vowels of a syllable. -/
def vowels : List String := ["A", "AE", "YA", "YAE", "EO", "E", "YEO", "YE", "O", "WA", "WAE", "OE",
  "YO", "U", "WEO", "WE", "WI", "YU", "EU", "YI", "I"]

/-- The last letters of a syllable. -/
def lastLetters : List String := ["", "G", "GG", "GS", "N", "NJ", "NH", "D", "L", "LG", "LM", "LB",
  "LS", "LT", "LP", "LH", "M", "B", "BS", "S", "SS", "NG", "J", "C", "K", "T", "P", "H"]

/-- What follows `start` in a text. -/
def after? : (start cs : List Char) → Option (List Char)
  | [], cs => some cs
  | s :: start, c :: cs => if s = c then after? start cs else none
  | _ :: _, [] => none

/-- The place of the longest text of a list that starts `cs`, and what follows it. -/
def longest? (texts : List String) (cs : List Char) : Option (Nat × List Char) :=
  let found := texts.zipIdx.filterMap fun (t, i) => (after? t.toList cs).map (i, ·)
  found.foldl
    (fun best f => if best.all fun b => f.2.length < b.2.length then some f else best) none

/-- The code point of a syllable: 588 for each first letter, 28 for each vowel. -/
def syllable? (cs : List Char) : Option Nat :=
  match longest? firstLetters cs with
  | none => none
  | some (first, cs) =>
    match longest? vowels cs with
    | none => none
    | some (vowel, cs) =>
      match longest? lastLetters cs with
      | some (last, []) => some (0xAC00 + (first * 21 + vowel) * 28 + last)
      | _ => none

/-! ## Ideographs -/

/-- The starts of names that end with a code point, in any case or not, and the code points that
they name. -/
def numbered : List (String × Bool × List (Nat × Nat)) := [
  ("CJK UNIFIED IDEOGRAPH-", false, [(0x3400, 0x4DBF), (0x4E00, 0x9FFF), (0x20000, 0x2A6DF),
    (0x2A700, 0x2B738), (0x2B740, 0x2B81D), (0x2B820, 0x2CEA1), (0x2CEB0, 0x2EBE0),
    (0x30000, 0x3134A)]),
  ("CJK COMPATIBILITY IDEOGRAPH-", true, [(0xF900, 0xFA6D), (0xFA70, 0xFAD9), (0x2F800, 0x2FA1D)]),
  ("NUSHU CHARACTER-", true, [(0x1B170, 0x1B2FB)]),
  ("KHITAN SMALL SCRIPT CHARACTER-", true, [(0x18B00, 0x18CD5)])]

/-- Is the character a hexadecimal digit, in capitals if it is a letter? -/
def isCodeDigit (c : Char) : Bool := ('0' ≤ c && c ≤ '9') || ('A' ≤ c && c ≤ 'F')

/-- The number of four or five hexadecimal digits in capitals. -/
def codeOf? (cs : List Char) : Option Nat :=
  if (cs.length = 4 ∨ cs.length = 5) ∧ cs.all isCodeDigit then
    some (cs.foldl (fun n c => n * 16 + (hexValue? c).getD 0) 0)
  else none

/-- The code point of a name that ends with it; `capitals` is the name in capitals. -/
def numbered? (name capitals : List Char) : Option Nat :=
  numbered.findSome? fun (start, anyCase, runs) =>
    ((after? start.toList (if anyCase then capitals else name)).bind codeOf?).filter fun n =>
      runs.any fun (first, last) => first ≤ n && n ≤ last

end Names

/-- The capital of a small ASCII letter. -/
def asciiUpperChar (c : Char) : Char :=
  if 'a' ≤ c ∧ c ≤ 'z' then Char.ofNat (c.toNat - 0x20) else c

/-- The code point of a name, which may be in small letters unless it is one of a syllable or of a
unified ideograph. -/
def codeNamed? (name : String) : Option Nat :=
  let cs := name.toList
  let capitals := cs.map asciiUpperChar
  match (Names.after? "HANGUL SYLLABLE ".toList cs).bind Names.syllable? with
  | some code => some code
  | none =>
    match Names.numbered? cs capitals with
    | some code => some code
    | none => Names.listed? (.ofList capitals)

end SourceAudit.Text
