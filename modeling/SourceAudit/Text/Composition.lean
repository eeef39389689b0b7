import SourceAudit.Text.Traits

/-!
# SourceAudit.Text.Composition

Composed texts: every letter is written as one character with its mark where there is such a
character, and the marks of a letter stand in their order. Capitals are not considered.
-/

namespace SourceAudit.Text

/-- The marks that combine with a letter to one character, each with these letters. -/
def combinations : List (Nat × String) := [
  (0x300, "aeinouwyâêôüăēōơưαεηιουωϊϋеиἀἁἐἑἠἡἰἱὀὁὐὑὠὡ"),
  (0x301, "acegiklmnoprsuwyzâåæçêïôõøüăēōũơưαεηιουωϊϋгкἀἁἐἑἠἡἰἱὀὁὐὑὠὡ"),
  (0x302, "aceghijosuwyzạẹọ"),
  (0x303, "aeinouvyâêôăơư"),
  (0x304, "aegiouyäæõöüǫȧȯαιυиуḷṛ"),
  (0x306, "aegiouȩαιυаежиуạ"),
  (0x307, "abcdefghmnoprstwxyzśšſṣ"),
  (0x308, "aehiotuwxyõūιυаежзиоучыэіәө"),
  (0x309, "aeiouyâêôăơư"),
  (0x30A, "auwy"),
  (0x30B, "ouу"),
  (0x30C, "acdeghijklnorstuzüʒ"),
  (0x30F, "aeioruѵ"),
  (0x311, "aeioru"),
  (0x313, "αεηιορυω"),
  (0x314, "αεηιορυω"),
  (0x31B, "ou"),
  (0x323, "abdehiklmnorstuvwyzơư"),
  (0x324, "u"),
  (0x325, "a"),
  (0x326, "st"),
  (0x327, "cdeghklnrst"),
  (0x328, "aeiou"),
  (0x32D, "delntu"),
  (0x32E, "h"),
  (0x330, "eiu"),
  (0x331, "bdhklnrtz"),
  (0x342, "αηιυωϊϋἀἁἠἡἰἱὐὑὠὡ"),
  (0x345, "άήαηωώἀἁἂἃἄἅἆἇἠἡἢἣἤἥἦἧὠὡὢὣὤὥὦὧὰὴὼᾶῆῶ"),
  (0x653, "ا"),
  (0x654, "اويہےە"),
  (0x655, "ا"),
  (0x93C, "नरळ"),
  (0xBD7, "ஒ"),
  (0x102E, "ဥ"),
  (0x1B35, "ᬅᬇᬉᬋᬍᬑ"),
  (0x3099, "うかきくけこさしすせそたちつてとはひふへほゝウカキクケコサシスセソタチツテトハヒフヘホワヰヱヲヽ"),
  (0x309A, "はひふへほハヒフヘホ"),
  (0x110BA, "𑂙𑂛𑂥")]

/-- Is there one character for a letter and a mark? -/
def combines (letter mark : Char) : Bool :=
  combinations.any fun (m, letters) => m = mark.toNat && letters.contains letter

/-- The trait that orders the marks of a letter. -/
def markOrder : Trait := traitCalled "CCC"

/-- Is the rest of a text composed? `letter` is the last character that marks may join, if nothing
stands between, and `last` the order of the mark before. -/
def isComposedAfter (letter : Option Char) (last : Nat) : List Char → Bool
  | [] => true
  | c :: cs =>
    let order := markOrder.get c.toNat
    if order = 0 then !letter.any (last = 0 && combines · c) && isComposedAfter (some c) 0 cs
    else
      last ≤ order && !letter.any (last ≠ order && combines · c) && isComposedAfter letter order cs

/-- Is a text composed? -/
def isComposed (cs : List Char) : Bool := isComposedAfter none 0 cs

end SourceAudit.Text
