import SourceAudit.Input.Problem
import SourceAudit.Json.Value
import SourceAudit.Number.Reading
import SourceAudit.Text.Case

/-!
# SourceAudit.Input.Checked

Values read from JSON with all their problems. Reading the fields of an object goes on after a bad
one, so a `Checked` value is either whole or comes with every problem found.

Numbers and truth values are read leniently: an integer may be written as an integral fraction, a
truth value or a text, and a truth value as 0, 1 or one of a few words.
-/

namespace SourceAudit.Input

/-- A value, or the problems that prevent one. -/
inductive Checked (α : Type) where
  | good (a : α)
  | bad (problems : List Problem)

namespace Checked

variable {α β : Type}

/-- The problems found. -/
def problems : Checked α → List Problem
  | good _ => []
  | bad ps => ps

/-- The value changed by `f`. -/
def map (f : α → β) : Checked α → Checked β
  | good a => good (f a)
  | bad ps => bad ps

/-- Applies a function to an argument; the problems of both are kept in order. -/
def ap (f : Checked (α → β)) (a : Checked α) : Checked β :=
  match f, a with
  | good f, good a => good (f a)
  | f, a => bad (f.problems ++ a.problems)

/-- A further check of a good value. -/
def andThen (a : Checked α) (f : α → Checked β) : Checked β :=
  match a with
  | good a => f a
  | bad ps => bad ps

/-- One problem with the value itself. -/
def fail (cause : Cause) : Checked α := bad [⟨[], cause⟩]

/-- The same with its problems seen from one step further out. -/
def inside (step : Step) : Checked α → Checked α
  | good a => good a
  | bad ps => bad (ps.map (Problem.inside step))

end Checked

open Number

/-- A text, even one with halves of surrogate pairs that stand alone. -/
def text (j : Json) : Checked String :=
  match j.text? with
  | some s => .good s
  | none => .fail .notText

/-- A nonempty text of characters. -/
def nonemptyText : Json → Checked String
  | .brokenStr _ => .fail .brokenText
  | j => (text j).andThen fun s => if s = "" then .fail .emptyText else .good s

/-- A text or null. -/
def optionalText : Json → Checked (Option String)
  | .null => .good none
  | j => (text j).map some

/-- One of some named values. -/
def oneOf {α : Type} (read? : String → Option α) : Json → Checked α
  | .str s =>
    match read? s with
    | some a => .good a
    | none => .fail .notOneOf
  | .brokenStr _ => .fail .brokenText
  | _ => .fail .notOneOf

/-- Reads the items of a list, from the given index on. -/
def itemsFrom {α : Type} (item : Json → Checked α) : (index : Nat) → List Json → Checked (List α)
  | _, [] => .good []
  | index, j :: js =>
    (((item j).inside (.index index)).map List.cons).ap (itemsFrom item (index + 1) js)

/-- A list. -/
def list {α : Type} (item : Json → Checked α) : Json → Checked (List α)
  | .arr js => itemsFrom item 0 js
  | _ => .fail .notList

/-- The words for a truth value. -/
def boolWord? (s : String) : Option Bool :=
  if ["1", "true", "t", "yes", "y", "on"].contains s then some true
  else if ["0", "false", "f", "no", "n", "off"].contains s then some false
  else none

/-- Does an integer fit 64 bits? -/
def fits64 (n : Int) : Bool := -0x8000000000000000 ≤ n && n < 0x8000000000000000

/-- The truth value that an integer stands for. -/
def boolOfInt (n : Int) : Checked Bool :=
  if n = 1 then .good true
  else if n = 0 then .good false
  else if fits64 n then .fail .unreadableBool
  else .fail .notBool

/-- A truth value. -/
def bool : Json → Checked Bool
  | .bool b => .good b
  | .int n => boolOfInt n
  | .float x =>
    match x.toRat? with
    | some q => if q.den = 1 then boolOfInt q.num else .fail .notBool
    | none => .fail .notBool
  | .str s =>
    match boolWord? (Text.asciiLower s) with
    | some b => .good b
    | none => .fail .unreadableBool
  | .brokenStr _ => .fail .brokenText
  | _ => .fail .notBool

/-- An integer. -/
def int : Json → Checked Int
  | .int n => .good n
  | .bool b => .good (if b then 1 else 0)
  | .float x =>
    match x.toRat? with
    | some q =>
      if q.den ≠ 1 then .fail .fractionalInt
      else if fits64 q.num then .good q.num
      else .fail .longInt
    | none => .fail .notFinite
  | .str s =>
    match settingInt s with
    | .ok n => .good n
    | .error .malformed => .fail .unreadableInt
    | .error .tooLong => .fail .longInt
  | .brokenStr _ => .fail .brokenText
  | _ => .fail .notInt

/-- A natural number. -/
def nat (j : Json) : Checked Nat :=
  (int j).andThen fun n => if n < 0 then .fail .belowLeast else .good n.toNat

/-- A number of double precision. -/
def number : Json → Checked Double
  | .int n =>
    match Double.ofInt? n with
    | some x => .good x
    | none => .fail .notNumber
  | .bool b => .good (.finite (if b then 1 else 0))
  | .float x => .good x
  | .str s =>
    match settingFloat? s with
    | some x => .good x
    | none => .fail .unreadableNumber
  | .brokenStr _ => .fail .brokenText
  | _ => .fail .notNumber

/-- A positive number counted from one. -/
def ordinal (j : Json) : Checked Nat :=
  (int j).andThen fun n => if n < 1 then .fail .belowLeast else .good n.toNat

/-- A map from texts, in the order of its keys. -/
def map {α : Type} (item : Json → Checked α) : Json → Checked (List (String × α))
  | .obj members => entries members
  | _ => .fail .notMap
where
  /-- The entries of an object. -/
  entries : List (String × Json) → Checked (List (String × α))
    | [] => .good []
    | (key, j) :: rest =>
      (((item j).inside (.key key)).map fun a => List.cons (key, a)).ap (entries rest)

/-- A field of an object: it is looked up under its public name, and then under its other name; a
problem names the one that the input has. -/
structure Slot (α : Type) where
  name : String
  otherName : String
  read : Json → Checked α

namespace Slot

variable {α : Type}

/-- A field with one name. -/
def named (name : String) (read : Json → Checked α) : Slot α := ⟨name, name, read⟩

/-- The name under which an object has the field, and the value. -/
def find? (f : Slot α) (members : List (String × Json)) : Option (String × Json) :=
  match Json.lookup members f.name with
  | some j => some (f.name, j)
  | none => (Json.lookup members f.otherName).map (f.otherName, ·)

/-- The value of the field in an object, or `fallback` if the object lacks it. -/
def orElse (f : Slot α) (fallback : α) (members : List (String × Json)) : Checked α :=
  match f.find? members with
  | some (name, j) => (f.read j).inside (.key name)
  | none => .good fallback

/-- The value of the field in an object that must have it. -/
def required (f : Slot α) (members : List (String × Json)) : Checked α :=
  match f.find? members with
  | some (name, j) => (f.read j).inside (.key name)
  | none => (Checked.fail .missing).inside (.key f.name)

/-- The name that the field takes up in an object. -/
def usedName (f : Slot α) (members : List (String × Json)) : String :=
  ((f.find? members).map (·.1)).getD f.name

end Slot

end SourceAudit.Input
