/-
This file reads values out of a document: truth values, bounded integers, texts, one of several
names, lists, maps, and records of named fields. A record lists its fields once, and that list says
how both of its forms are read: as a table with keys, or as a list of values in the order of the
fields. Reading stops at the first fault.
-/
import Gatekeeper.ActionKind
import Gatekeeper.Document

namespace Gatekeeper

/-- The format a document comes in, where what is accepted depends on it. -/
inductive Dialect where
  | json
  | toml
  deriving DecidableEq

/-- Why a document does not say what it is read for. -/
inductive ReadError where
  | unknownVariant (found : String) (expected : List String)
  | missingField (name : String)
  | unknownKind (name : String)
  | malformed
  deriving DecidableEq

namespace ReadError

/-- The names one may choose from, each in quotes. -/
def alternatives (names : List String) : String :=
  match names.map fun name => s!"`{name}`" with
  | [first, second] => s!"{first} or {second}"
  | quoted => "one of " ++ String.intercalate ", " quoted

/-- What is said of an error; a malformed document has no message of its own. -/
def message? : ReadError → Option String
  | unknownVariant found expected =>
    some s!"unknown variant `{found}`, expected {alternatives expected}"
  | missingField name => some s!"missing field `{name}`"
  | unknownKind name => some (ActionKind.unknownMessage name)
  | malformed => none

end ReadError

namespace Document

/-! ### Plain values -/

def readBoolean : Document → Except ReadError Bool
  | boolean value => .ok value
  | _ => .error .malformed

/-- An integer from zero up to a bound, the bound excluded. Other numbers are not rounded to one. -/
def readBelow (bound : Nat) : Document → Except ReadError Nat
  | integer value =>
    if 0 ≤ value ∧ value < bound then .ok value.toNat else .error .malformed
  | _ => .error .malformed

def readWord32 (document : Document) : Except ReadError UInt32 :=
  (document.readBelow 0x100000000).map UInt32.ofNat

def readWord64 (document : Document) : Except ReadError UInt64 :=
  (document.readBelow 0x10000000000000000).map UInt64.ofNat

def readText : Document → Except ReadError String
  | text value => .ok value
  | _ => .error .malformed

/-- Null stands for nothing. -/
def readOptional {α : Type} (read : Document → Except ReadError α) :
    Document → Except ReadError (Option α)
  | null => .ok none
  | document => (read document).map some

/-! ### One of several names -/

/-- Whether this is what stands behind a name that has nothing to it. -/
def isVacant (dialect : Dialect) : Document → Bool
  | null => dialect = .json
  | list items _ => dialect = .toml && items.isEmpty
  | table entries _ => dialect = .toml && entries.isEmpty
  | _ => false

/-- The value of a name. -/
def pick {α : Type} (choices : List (String × α)) (name : String) : Except ReadError α :=
  match choices.find? fun choice => choice.1 == name with
  | some choice => .ok choice.2
  | none => .error (.unknownVariant name (choices.map Prod.fst))

/-- One of several names, either as a text or as the only key of a table that says nothing more. -/
def readChoice {α : Type} (dialect : Dialect) (choices : List (String × α)) :
    Document → Except ReadError α
  | text name => pick choices name
  | table [(name, content)] .closed => do
    let value ← pick choices name
    if content.isVacant dialect then return value else .error .malformed
  | _ => .error .malformed

/-! ### Lists and maps -/

/-- A list of values that are read alike. -/
def readList {α : Type} (read : Document → Except ReadError α) :
    Document → Except ReadError (List α)
  | list items ending => do
    let values ← items.mapM read
    if ending = .closed then return values else .error .malformed
  | _ => .error .malformed

/-- The key that a date has as a table; the format itself reserves it. -/
def dateKey : String := "$__toml_private_datetime"

/-- The entries of a table. A date is a table with one key. -/
def entries? : Document → Option (List (String × Document) × Ending)
  | table entries ending => some (entries, ending)
  | date => some ([(dateKey, valueless)], .closed)
  | _ => none

/-- A map whose keys and whose values are each read alike, as the list of its entries. -/
def readEntries {κ ν : Type} (readKey : String → Except ReadError κ)
    (readValue : Document → Except ReadError ν) (document : Document) :
    Except ReadError (List (κ × ν)) :=
  match document.entries? with
  | some (entries, ending) => do
    let pairs ← entries.mapM fun entry => do return (← readKey entry.1, ← readValue entry.2)
    if ending = .closed then return pairs else .error .malformed
  | none => .error .malformed

end Document

/-! ### Records -/

/-- One field of a record: how its value is read into the record. -/
structure Field (ρ : Type) where
  name : String
  required : Bool
  read : Document → ρ → Except ReadError ρ

/-- A kind of record: what a record without any fields says, and the fields in order. -/
structure RecordShape (ρ : Type) where
  start : ρ
  fields : List (Field ρ)

namespace Field

/-- A field that may be left out. -/
def optional {ρ α : Type} (name : String) (read : Document → Except ReadError α)
    (set : α → ρ → ρ) : Field ρ where
  name := name
  required := false
  read document record := (read document).map fun value => set value record

/-- A field that has to be there. -/
def mandatory {ρ α : Type} (name : String) (read : Document → Except ReadError α)
    (set : α → ρ → ρ) : Field ρ :=
  { optional name read set with required := true }

end Field

namespace RecordShape

variable {ρ : Type}

/-- Reads one entry of a table into the record and notes that its field has been given. Keys that
are no field are passed over; a field may not be given twice. -/
def readEntry (shape : RecordShape ρ) (state : ρ × List String) (entry : String × Document) :
    Except ReadError (ρ × List String) :=
  match shape.fields.find? fun field => field.name == entry.1 with
  | some field =>
    if state.2.contains field.name then .error .malformed
    else (field.read entry.2 state.1).map fun record => (record, field.name :: state.2)
  | none => if entry.2.isPassable then .ok state else .error .malformed

/-- A record in the form of a table. -/
def readTable (shape : RecordShape ρ) (entries : List (String × Document)) (ending : Ending) :
    Except ReadError ρ := do
  let (record, given) ← entries.foldlM shape.readEntry (shape.start, [])
  if ending ≠ .closed then .error .malformed
  else
    match shape.fields.find? fun field => field.required && !given.contains field.name with
    | some field => .error (.missingField field.name)
    | none => return record

/-- A record in the form of a list. Fields at the end may be left out if they may be left out at
all. -/
def readItems (shape : RecordShape ρ) (dialect : Dialect) (items : List Document)
    (ending : Ending) : Except ReadError ρ := do
  let record ← (shape.fields.zip items).foldlM (fun record given => given.1.read given.2 record)
    shape.start
  let surplus := dialect = .json && shape.fields.length < items.length
  let wanting := (shape.fields.drop items.length).any Field.required
  if ending ≠ .closed || surplus || wanting then .error .malformed else return record

/-- A record in either form. -/
def read (shape : RecordShape ρ) (dialect : Dialect) (document : Document) : Except ReadError ρ :=
  match document with
  | .list items ending => shape.readItems dialect items ending
  | _ =>
    match document.entries? with
    | some (entries, ending) => shape.readTable entries ending
    | none => .error .malformed

end RecordShape

end Gatekeeper
