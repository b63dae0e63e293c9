/-
This file computes the fingerprint of a request: a digest of who sends it, what it asks for, and the
fields that tell it from another request of the same user. What is digested is a list of components,
each behind its own length, so that no text can move from one component into the next. Fields that
change from click to click can be left out.
-/
import Gatekeeper.Digest.Sha256
import Gatekeeper.Payload

namespace Gatekeeper

/-- A digest that identifies one logical request. -/
structure Fingerprint where
  bytes : List UInt8
  width : bytes.length = 32
  deriving DecidableEq

namespace Fingerprint

/-- The written form: sixty-four hexadecimal digits. -/
def text (fingerprint : Fingerprint) : String :=
  String.ofList (Hex.ofBytes fingerprint.bytes)

/-- Fingerprints are ordered by their bytes. -/
instance : Ord Fingerprint := ⟨fun first second => compare first.bytes second.bytes⟩

/-- The fingerprint that a text is the written form of. -/
def ofText? (text : String) : Option Fingerprint :=
  match Hex.bytes? text.toList with
  | some bytes => if width : bytes.length = 32 then some ⟨bytes, width⟩ else none
  | none => none

/-! ### What is digested -/

/-- A length in eight bytes, the lowest first. -/
def lengthBytes (length : Nat) : List UInt8 :=
  (List.range 8).map fun place => UInt8.ofNat (length / Nat.pow 256 place)

/-- The bytes of a text behind their number. -/
def component (text : String) : List UInt8 :=
  let bytes := text.toUTF8.toList
  lengthBytes bytes.length ++ bytes

/-- What is digested for a request: the user, the action, and each field with its name. -/
def preimage (user action : String) (fields : SortedMap String String) : List UInt8 :=
  component user ++ component action ++
    fields.entries.flatMap fun field => component field.1 ++ component field.2

def ofRequest (user action : String) (fields : SortedMap String String) : Fingerprint :=
  ⟨Sha256.digest (preimage user action fields), Sha256.length_digest _⟩

/-- The fingerprint of a request without fields. -/
def simple (user action : String) : Fingerprint :=
  ofRequest user action .empty

end Fingerprint

/-! ### Collecting the fields of a request -/

/-- The value of one field. -/
inductive FieldValue where
  | text (value : String)
  | boolean (value : Bool)
  | integer (value : Int)
  | double (value : Float)

namespace FieldValue

/-- Doubles are always positional, and a whole number has no fraction. -/
def doubleLayout : Decimal.Layout where
  positional _ := true
  wholeFraction := false
  tie := .upward

def written : FieldValue → String
  | text value => value
  | boolean value => if value then "true" else "false"
  | integer value => String.ofList (Json.integerText value)
  | double value => doubleLayout.write value

end FieldValue

/-- One thing that is added to the fields of a request. -/
inductive Contribution where
  | field (name : String) (value : FieldValue)
  | payload (body : Payload)

/-- A request whose fields are being collected. -/
structure RequestDraft where
  user : String
  action : String
  /-- The names of the fields that do not count. -/
  excluded : List String
  fields : SortedMap String String

namespace RequestDraft

def start (user action : String) (excluded : List String) : RequestDraft :=
  ⟨user, action, excluded, .empty⟩

/-- Sets a field, over the value it had. -/
def withField (draft : RequestDraft) (name value : String) : RequestDraft :=
  { draft with fields := draft.fields.insert name value }

/-- The text of a member of a body: a string as it is, any other value as its compact text. -/
def memberText : Json → String
  | .text value => value
  | other => other.render

/-- The fields of a body: one for each member of an object, and any other body as a field `body`. -/
def fieldsOf : Json → List (String × String)
  | .object members => members.map fun member => (member.1, memberText member.2)
  | other => [("body", memberText other)]

/-- Adds a field, or the fields of a body if it has a JSON form. -/
def add (draft : RequestDraft) : Contribution → Except PayloadError RequestDraft
  | .field name value => .ok (draft.withField name value.written)
  | .payload body =>
    body.toJson.map fun json =>
      (fieldsOf json).foldl (fun draft field => draft.withField field.1 field.2) draft

/-- Adds one after another, up to the first that has no JSON form. -/
def addAll (draft : RequestDraft) (contributions : List Contribution) :
    Except PayloadError RequestDraft :=
  contributions.foldlM add draft

/-- The fields that count. -/
def counted (draft : RequestDraft) : SortedMap String String :=
  draft.fields.filter fun name _ => !draft.excluded.contains name

def preimage (draft : RequestDraft) : List UInt8 :=
  Fingerprint.preimage draft.user draft.action draft.counted

def fingerprint (draft : RequestDraft) : Fingerprint :=
  .ofRequest draft.user draft.action draft.counted

end RequestDraft

end Gatekeeper
