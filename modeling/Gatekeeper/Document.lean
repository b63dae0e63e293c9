/-
This file holds what a configuration document says before anyone asks what it means. Both formats
that documents come in lead here. Entries are in the order in which the document gives them and a
repeated key stays repeated, because a reader stops at the first fault it meets, and which fault
that is depends on the order. For the same reason a document that breaks off is kept up to the
point where it does.
-/
import Gatekeeper.Json

namespace Gatekeeper

/-- How a list or a table of a document ends. -/
inductive Ending where
  /-- With its closing bracket. -/
  | closed
  /-- With a key that stands for no text. -/
  | unreadableKey
  /-- With a fault that makes the rest of the document unreadable. -/
  | broken
  deriving DecidableEq

/-- What stands at one place of a document. -/
inductive Document where
  | null
  | boolean (value : Bool)
  | integer (value : Int)
  | double (value : Float)
  | text (value : String)
  | list (items : List Document) (ending : Ending)
  | table (entries : List (String × Document)) (ending : Ending)
  /-- A date, a time, or both. -/
  | date
  /-- Something well-formed that has no value, such as a number beyond all doubles. -/
  | valueless
  /-- A fault that makes the rest of the document unreadable. -/
  | broken
  deriving Inhabited

namespace Document

mutual

/-- Whether reading can pass over this place and go on behind it. -/
def isPassable : Document → Bool
  | list items ending => ending ≠ .broken && allPassable items
  | table entries ending => ending ≠ .broken && allEntriesPassable entries
  | broken => false
  | _ => true

def allPassable : List Document → Bool
  | [] => true
  | item :: items => isPassable item && allPassable items

def allEntriesPassable : List (String × Document) → Bool
  | [] => true
  | (_, value) :: entries => isPassable value && allEntriesPassable entries

end

/-! ### Documents of JSON values -/

mutual

/-- The document that says what a JSON value says. -/
def ofJson : Json → Document
  | .null => null
  | .boolean value => boolean value
  | .integer value => integer value
  | .double value => double value
  | .text value => text value
  | .array items => list (ofItems items) .closed
  | .object members => table (ofMembers members) .closed

def ofItems : List Json → List Document
  | [] => []
  | item :: items => ofJson item :: ofItems items

def ofMembers : List (String × Json) → List (String × Document)
  | [] => []
  | (name, value) :: members => (name, ofJson value) :: ofMembers members

end

mutual

/-- The JSON value that a document is, if it is one. -/
def toJson? : Document → Option Json
  | null => some .null
  | boolean value => some (.boolean value)
  | integer value => some (.integer value)
  | double value => some (.double value)
  | text value => some (.text value)
  | list items .closed => (toItems? items).map .array
  | table entries .closed => (toMembers? entries).map Json.ofMembers
  | _ => none

def toItems? : List Document → Option (List Json)
  | [] => some []
  | item :: items => do return (← toJson? item) :: (← toItems? items)

def toMembers? : List (String × Document) → Option (List (String × Json))
  | [] => some []
  | (name, value) :: entries => do return (name, ← toJson? value) :: (← toMembers? entries)

end

end Document

end Gatekeeper
