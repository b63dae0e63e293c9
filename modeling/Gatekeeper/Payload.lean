/-
This file holds request bodies and the JSON values they become. A body may use what JSON lacks: keys
that are numbers, integers of more than sixty-four bits, doubles that are no numbers. Some of that
has a JSON form and the rest is refused.
-/
import Gatekeeper.Json

namespace Gatekeeper

/-- A key of a map in a request body. -/
inductive PayloadKey where
  | text (value : String)
  | integer (value : Int)
  | boolean (value : Bool)
  | list (items : List String)

inductive Payload where
  | null
  | boolean (value : Bool)
  | integer (value : Int)
  | double (value : Float)
  | text (value : String)
  | list (items : List Payload)
  | map (entries : List (PayloadKey × Payload))

/-- Why a request body has no JSON form. -/
inductive PayloadError where
  | keyNotText
  | numberOutOfRange
  deriving DecidableEq

namespace PayloadError

def message : PayloadError → String
  | keyNotText => "key must be a string"
  | numberOutOfRange => "number out of range"

end PayloadError

namespace PayloadKey

/-- The member name that a key becomes. Numbers and truth values are named by their text. -/
def name : PayloadKey → Except PayloadError String
  | text value => .ok value
  | integer value => .ok (String.ofList (Json.integerText value))
  | boolean value => .ok (if value then "true" else "false")
  | list _ => .error .keyNotText

end PayloadKey

namespace Payload

mutual

/-- The JSON value of a body, or the first thing in it that has none. Integers have to fit
sixty-four bits, with or without sign; a double that is no number becomes null. -/
def toJson : Payload → Except PayloadError Json
  | null => .ok .null
  | boolean value => .ok (.boolean value)
  | integer value =>
    if Json.isIntegerInRange value then .ok (.integer value) else .error .numberOutOfRange
  | double value => .ok (if value.isFinite then .double value else .null)
  | text value => .ok (.text value)
  | list items => (toItems items).map .array
  | map entries => (toMembers entries).map Json.ofMembers

def toItems : List Payload → Except PayloadError (List Json)
  | [] => .ok []
  | item :: items => do return (← toJson item) :: (← toItems items)

def toMembers : List (PayloadKey × Payload) → Except PayloadError (List (String × Json))
  | [] => .ok []
  | (key, value) :: entries => do
    let name ← key.name
    return (name, ← toJson value) :: (← toMembers entries)

end

mutual

/-- The body that a JSON value is. -/
def ofJson : Json → Payload
  | .null => null
  | .boolean value => boolean value
  | .integer value => integer value
  | .double value => double value
  | .text value => text value
  | .array items => list (ofItems items)
  | .object members => map (ofMembers members)

def ofItems : List Json → List Payload
  | [] => []
  | item :: items => ofJson item :: ofItems items

def ofMembers : List (String × Json) → List (PayloadKey × Payload)
  | [] => []
  | (name, value) :: members => (.text name, ofJson value) :: ofMembers members

end

end Payload

end Gatekeeper
