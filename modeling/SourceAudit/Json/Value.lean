import SourceAudit.Number.Double
import SourceAudit.Text.Utf16

/-!
# SourceAudit.Json.Value

JSON values. Integers and fractions are kept apart, fractions as the nearest double-precision
number, and an object keeps its members in the order of their first appearance with one value a key.
A text may hold halves of surrogate pairs that stand alone, which no string can; such a text is kept
apart, as its code points.
-/

namespace SourceAudit

/-- A JSON value. -/
inductive Json
  | null
  | bool (b : Bool)
  | int (n : Int)
  | float (x : Number.Double)
  | str (s : String)
  /-- A text with halves of surrogate pairs that stand alone, by its code points. -/
  | brokenStr (codes : List Nat)
  | arr (items : List Json)
  | obj (members : List (String × Json))
deriving Inhabited

namespace Json

/-- The members with `key` bound to `v`: in the place of its earlier value, or else last. -/
def insert (members : List (String × Json)) (key : String) (v : Json) : List (String × Json) :=
  match members with
  | [] => [(key, v)]
  | (k, w) :: rest => if k = key then (key, v) :: rest else (k, w) :: insert rest key v

/-- An object from its members in textual order; of several with one key the last counts. -/
def ofMembers (members : List (String × Json)) : Json :=
  .obj (members.foldl (fun acc m => insert acc m.1 m.2) [])

/-- The value bound to `key` in a list of members. -/
def lookup (members : List (String × Json)) (key : String) : Option Json :=
  (members.find? (·.1 = key)).map (·.2)

/-- The member `key` of an object. -/
def get? (j : Json) (key : String) : Option Json :=
  match j with
  | .obj members => lookup members key
  | _ => none

/-- Does the value count as present in a condition? Null, false, zero and empty values do not. -/
def isTruthy : Json → Bool
  | .null => false
  | .bool b => b
  | .int n => n ≠ 0
  | .float x => !x.isZero
  | .str s => s ≠ ""
  | .brokenStr _ => true
  | .arr items => !items.isEmpty
  | .obj members => !members.isEmpty

/-- The text with the given code points. -/
def ofCodes (codes : List Nat) : Json :=
  if codes.any Text.isSurrogate then .brokenStr codes else .str (.ofList (codes.map Char.ofNat))

/-- The code points of a text. -/
def codes? : Json → Option (List Nat)
  | .str s => some (s.toList.map Char.toNat)
  | .brokenStr codes => some codes
  | _ => none

/-- The text of a value that is one, with U+FFFD for each half of a surrogate pair on its own. -/
def text? : Json → Option String
  | .str s => some s
  | .brokenStr codes => some (.ofList (codes.map Text.charOfCode))
  | _ => none

/-- Is the value a text with half a surrogate pair on its own? -/
def isBroken : Json → Bool
  | .brokenStr _ => true
  | _ => false

/-- Two texts joined. Halves of a surrogate pair that meet stay apart. -/
def append? (j k : Json) : Option Json :=
  match j, k with
  | .str s, .str t => some (.str (s ++ t))
  | j, k =>
    match j.codes?, k.codes? with
    | some codes, some more => some (.brokenStr (codes ++ more))
    | _, _ => none

/-- The text of a value by its code points. -/
theorem text?_eq (j : Json) :
    j.text? = j.codes?.map fun codes => .ofList (codes.map Text.charOfCode) := by
  cases j with
  | str s =>
      have hchars : s.toList.map (Text.charOfCode ∘ Char.toNat) = s.toList.map id :=
        List.map_congr_left fun c _ => Text.charOfCode_toNat c
      simp [text?, codes?, hchars]
  | _ => rfl

theorem text?_append {j k whole : Json} {s t : String} (hj : j.text? = some s)
    (hk : k.text? = some t) (h : j.append? k = some whole) : whole.text? = some (s ++ t) := by
  unfold append? at h
  split at h
  · obtain rfl := Option.some.inj h
    simp_all [text?]
  · split at h
    · next codes more hcodes hmore =>
      obtain rfl := Option.some.inj h
      rw [text?_eq, hcodes, Option.map_some, Option.some.injEq] at hj
      rw [text?_eq, hmore, Option.map_some, Option.some.injEq] at hk
      rw [text?, List.map_append, String.ofList_append, hj, hk]
    · simp at h

/-- A text, or null for its absence. -/
def ofText? (s : Option String) : Json := (s.map Json.str).getD .null

/-- A natural number. -/
def nat (n : Nat) : Json := .int n

end Json

end SourceAudit
