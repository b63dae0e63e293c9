/-
This file reads rule tables from documents and writes them as JSON. In a table of rules the key is
the name of an action, any text at all, and the value is a rule: a record whose rank for owners may
be left out or null. A rule without a rank for owners is written without one.
-/
import Gatekeeper.Document.Decode
import Gatekeeper.JsonText
import Gatekeeper.Rule

namespace Gatekeeper

namespace Rule

def shape : RecordShape Rule where
  start := ⟨0, none⟩
  fields :=
    [.mandatory "others" Document.readWord64 fun others rule => { rule with others := others },
      .optional "owner" (Document.readOptional Document.readWord64)
        fun owner rule => { rule with owner := owner }]

def toJson (rule : Rule) : Json :=
  match rule.owner with
  | some owner => .object [("others", .ofNat rule.others.toNat), ("owner", .ofNat owner.toNat)]
  | none => .object [("others", .ofNat rule.others.toNat)]

end Rule

namespace RuleTable

/-- The table of a map from action names to rules; of two rules for one name the later wins. -/
def read (dialect : Dialect) (document : Document) : Except ReadError RuleTable :=
  (document.readEntries (fun name => .ok name) (Rule.shape.read dialect)).map SortedMap.ofList

def toJson (table : RuleTable) : Json :=
  .object (table.entries.map fun entry => (entry.1, entry.2.toJson))

/-- The compact JSON text of a table. -/
def render (table : RuleTable) : String :=
  table.toJson.render

/-- The table that a JSON text is. What follows it is looked at only once it has been read. -/
def ofJsonText (text : String) : Except ReadError RuleTable := do
  let (document, whole) := JsonText.document text.toList
  let table ← read .json document
  if whole then return table else .error .malformed

end RuleTable

end Gatekeeper
