import SourceAudit.Text.Traits
import SourceAudit.Text.Word

/-!
# SourceAudit.Pattern.Property

Properties of characters as patterns name them, such as `Lu`, `Greek` or `Script=Han`. A property is
a trait together with some of its values. Case, blanks, hyphens and underscores in names do not
count, and a number is the same however it is written.
-/

namespace SourceAudit.Pattern

open Text

/-- The property of those characters for which a trait has one of the given values or, of its
complement, none of them. -/
structure Property where
  /-- The index of the trait. -/
  trait : Nat
  values : List Nat
  complement : Bool
deriving DecidableEq, Repr

namespace Property

/-! ## Names -/

/-- The whole part of a nonnegative number, and the rest as a fraction, by continued fractions up to
an error of a ten-thousandth. -/
def fraction : (steps : Nat) → Rat → Nat × Nat
  | 0, q => (q.floor.toNat, 1)
  | steps + 1, q =>
    let whole := q.floor.toNat
    let rest := q - whole
    if rest * 10000 < 1 then (whole, 1)
    else
      let (den, num) := fraction steps (1 / rest)
      (whole * den + num, den)

/-- The value of ASCII digits. -/
def natOf (cs : List Char) : Nat := cs.foldl (fun n c => n * 10 + (c.toNat - 0x30)) 0

/-- The number with the given decimal digits and, after a point, further ones. -/
def decimal? (cs : List Char) : Option Rat :=
  let whole := cs.takeWhile isAsciiDigit
  let places := match cs.drop whole.length with
    | '.' :: rest => some rest
    | [] => some []
    | _ => none
  match places with
  | none => none
  | some ds =>
    if (whole.isEmpty && ds.isEmpty) || !ds.all isAsciiDigit then none
    else some (natOf (whole ++ ds) / (Nat.pow 10 ds.length : Nat))

/-- A number or the quotient of two, in lowest terms and without a denominator of one. -/
def rational? (name : List Char) : Option String :=
  let (sign, cs) : String × List Char := match name with
    | '-' :: cs => ("-", cs)
    | cs => ("", cs)
  let top := cs.takeWhile (· ≠ '/')
  let value := match cs.drop top.length with
    | [] => decimal? top
    | _ :: bottom =>
      match decimal? top, decimal? bottom with
      | some a, some b => if b = 0 then none else some (a / b)
      | _, _ => none
  value.map fun q =>
    let (num, den) := fraction 64 q
    sign ++ toString num ++ (if den = 1 then "" else "/" ++ toString den)

/-- The form of a name in which it is looked up. -/
def standard (name : List Char) : String :=
  match rational? name with
  | some s => s
  | none =>
    String.ofList ((name.filter fun c => c ≠ '_' && c ≠ '-' && c ≠ ' ').map fun c =>
      if 'a' ≤ c ∧ c ≤ 'z' then Char.ofNat (c.toNat - 32) else c)

/-! ## Looking up -/

/-- The groups of general categories: their names, and the names of their members. -/
def categoryGroups : List (List String × List String) :=
  [(["L", "LETTER"], ["LU", "LL", "LT", "LM", "LO"]),
    (["LC", "L&", "CASEDLETTER"], ["LU", "LL", "LT"]),
    (["M", "MARK", "COMBININGMARK"], ["MN", "MC", "ME"]),
    (["N", "NUMBER"], ["ND", "NL", "NO"]),
    (["P", "PUNCTUATION", "PUNCT"], ["PC", "PD", "PS", "PE", "PI", "PF", "PO"]),
    (["S", "SYMBOL"], ["SM", "SC", "SK", "SO"]),
    (["Z", "SEPARATOR"], ["ZS", "ZL", "ZP"]),
    (["C", "OTHER"], ["CC", "CF", "CS", "CO", "CN"])]

/-- The trait with an index. -/
def traitAt (index : Nat) : Trait := allTraits.getD index (.flag "" [])

/-- The general category. -/
def categoryTrait : Nat := (traitNamed? "GC").getD 0

/-- The values of a trait that a name stands for. -/
def valuesOf (trait : Nat) (name : String) : List Nat :=
  let t := traitAt trait
  if trait = categoryTrait then
    match categoryGroups.find? (·.1.contains name) with
    | some (_, members) => members.flatMap t.valuesNamed
    | none =>
      if name = "ASSIGNED" then (List.range t.valueNames.length).drop 1 else t.valuesNamed name
  else t.valuesNamed name

/-- The property of a trait and one of its values, by their names. -/
def qualified? (trait value : String) : Option Property :=
  match traitNamed? trait with
  | none => none
  | some t =>
    match valuesOf t value with
    | [] => none
    | values => some ⟨t, values, false⟩

/-- The property of a trait alone: the yes of a yes-or-no trait, or any value but the first. -/
def ofTrait? (name : String) : Option Property :=
  (traitNamed? name).map fun t =>
    if (traitAt t).isFlag then ⟨t, [1], false⟩ else ⟨t, [0], true⟩

/-- The property of the characters of a general category. -/
def ofCategory (name : String) : Property := ⟨categoryTrait, valuesOf categoryTrait name, false⟩

/-- The property of the characters with a yes-or-no trait. -/
def ofFlag (name : String) : Property := ⟨(traitNamed? name).getD 0, [1], false⟩

/-- The name without a prefix. -/
def afterPrefix? (lead name : String) : Option String :=
  if name.startsWith lead then some (String.ofList (name.toList.drop lead.length)) else none

/-- The property that a name alone stands for: a value of the general category, the script or the
block; a trait; a yes-or-no trait after `IS`; or a script after `IS` or a block after `IN`. -/
def plain? (name : String) : Option Property :=
  (qualified? "GC" name)
    <|> qualified? "SC" name
    <|> qualified? "BLK" name
    <|> ofTrait? name
    <|> ((afterPrefix? "IS" name).bind ofTrait?).filter (!·.complement)
    <|> (afterPrefix? "IS" name).bind (qualified? "SC")
    <|> (afterPrefix? "IN" name).bind (qualified? "BLK")

/-- The property with a written name, after a written name of its trait if there is one. In brackets
and colons, four names stand for narrower classes. -/
def named? (bracketed : Bool) (trait : Option (List Char)) (name : List Char) : Option Property :=
  let name := standard name
  match trait with
  | some trait =>
    if standard trait = "GENERALCATEGORY" && name = "ASSIGNED" then
      (qualified? "GC" "UNASSIGNED").map fun p => { p with complement := true }
    else qualified? (standard trait) name
  | none =>
    if bracketed && ["ALNUM", "DIGIT", "PUNCT", "XDIGIT"].contains name then
      plain? ("POSIX" ++ name)
    else plain? name

/-! ## Members -/

/-- Does a character have the property? Where only ASCII is described, all other characters have the
first value of every trait. -/
def holds (p : Property) (ascii : Bool) (code : Nat) : Bool :=
  (if ascii && 0x80 ≤ code then p.values == [0] else p.values.contains (traitValue p.trait code))
    != p.complement

/-- The property without regard to case: one of cased letters of one kind becomes that of all
three kinds, and upper or lower case becomes cased. -/
def caseless (p : Property) : Property :=
  let letters := valuesOf categoryTrait "LC"
  if p.trait = categoryTrait ∧ p.values.length = 1 ∧ p.values.all letters.contains then
    { p with values := letters }
  else if p.values = [1] ∧
      (traitNamed? "UPPER" = some p.trait ∨ traitNamed? "LOWER" = some p.trait) then
    { p with trait := (traitNamed? "CASED").getD p.trait }
  else p

end Property

end SourceAudit.Pattern
