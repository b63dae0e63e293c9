/-
This file holds JSON values and their compact text. The members of an object are kept in increasing
order of their names, so a value has one text. Integers are written exactly; doubles always show
that they are doubles.
-/
import Gatekeeper.Decimal.Layout
import Gatekeeper.SortedMap
import Gatekeeper.Text.Hex

namespace Gatekeeper

inductive Json where
  | null
  | boolean (value : Bool)
  | integer (value : Int)
  | double (value : Float)
  | text (value : String)
  | array (items : List Json)
  | object (members : List (String × Json))
  deriving Inhabited

namespace Json

/-! ### Looking -/

/-- The member of an object that has this name; a null counts as none. -/
def member? (json : Json) (name : String) : Option Json :=
  match json with
  | object members =>
    match members.find? fun member => member.1 == name with
    | some (_, null) => none
    | some (_, value) => some value
    | none => none
  | _ => none

def text? : Json → Option String
  | text value => some value
  | _ => none

def boolean? : Json → Option Bool
  | boolean value => some value
  | _ => none

def integer? : Json → Option Int
  | integer value => some value
  | _ => none

/-- An integer that is not negative. -/
def natural? : Json → Option Nat
  | integer value => if 0 ≤ value then some value.toNat else none
  | _ => none

def items? : Json → Option (List Json)
  | array items => some items
  | _ => none

/-! ### Building -/

/-- Whether a number can be an integer: it fits sixty-four bits, with or without sign. -/
def isIntegerInRange (value : Int) : Bool :=
  -0x8000000000000000 ≤ value && value < 0x10000000000000000

/-- The object with these members in order; of two members with one name the later wins. -/
def ofMembers (members : List (String × Json)) : Json :=
  object (members.foldl (fun sorted member => Sorted.insert member.1 member.2 sorted) [])

def ofNat (value : Nat) : Json := integer value

def ofTexts (texts : List String) : Json := array (texts.map text)

/-! ### Writing -/

/-- Doubles are positional for decimal exponents from -5 to 15, and a whole number then ends in
`.0`. -/
def doubleLayout : Decimal.Layout where
  positional exponent := -5 ≤ exponent && exponent ≤ 15
  wholeFraction := true
  tie := .toEven

/-- A character inside a string. Quotes, backslashes and controls are escaped, all else stands for
itself. -/
def escape (character : Char) : List Char :=
  if character = '"' then ['\\', '"']
  else if character = '\\' then ['\\', '\\']
  else if character = '\n' then ['\\', 'n']
  else if character = '\r' then ['\\', 'r']
  else if character = '\t' then ['\\', 't']
  else if character = '\x08' then ['\\', 'b']
  else if character = '\x0c' then ['\\', 'f']
  else if character.toNat < 0x20 then '\\' :: 'u' :: Hex.padded 4 character.toNat
  else [character]

/-- A string with its quotes. -/
def quoted (text : String) : List Char :=
  '"' :: text.toList.flatMap escape ++ ['"']

/-- A whole number. -/
def integerText (value : Int) : List Char :=
  if value < 0 then '-' :: Nat.toDigits 10 value.natAbs else Nat.toDigits 10 value.natAbs

mutual

/-- The compact text of a value, character by character. -/
def characters : Json → List Char
  | null => "null".toList
  | boolean true => "true".toList
  | boolean false => "false".toList
  | integer value => integerText value
  | double value => (doubleLayout.write value).toList
  | text value => quoted value
  | array [] => ['[', ']']
  | array (item :: items) => '[' :: characters item ++ laterItems items ++ [']']
  | object [] => ['\x7b', '\x7d']
  | object ((name, value) :: members) =>
    '\x7b' :: quoted name ++ ':' :: characters value ++ laterMembers members ++ ['\x7d']

/-- The items after the first, each behind its comma. -/
def laterItems : List Json → List Char
  | [] => []
  | item :: items => ',' :: characters item ++ laterItems items

/-- The members after the first, each behind its comma. -/
def laterMembers : List (String × Json) → List Char
  | [] => []
  | (name, value) :: members =>
    ',' :: quoted name ++ ':' :: characters value ++ laterMembers members

end

/-- The compact text of a value. -/
def render (json : Json) : String :=
  String.ofList json.characters

end Json

end Gatekeeper
