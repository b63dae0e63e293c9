/-
This file puts the entries of a TOML text together. Keys have parts, and a table can come about in
three ways: under a header of its own, as a step on the way to another header, or as a step of a
dotted key. Which way it was decides what may still be added to it: nothing may be said twice, and
what has been written out in one place cannot be extended from another.
-/
import Gatekeeper.Document

namespace Gatekeeper

namespace Toml

/-- How a table has come about. -/
inductive Origin where
  | header
  /-- As a step on the way to a header. -/
  | implied
  /-- As a step of a dotted key. -/
  | dotted
  deriving DecidableEq

/-- What stands at a key while tables are still being put together. -/
inductive Node where
  | value (document : Document)
  | table (origin : Origin) (entries : List (String × Node))
  /-- A list of tables that grows with each of its headers. -/
  | tables (elements : List (List (String × Node)))

abbrev Entries := List (String × Node)

namespace Entries

/-- What stands at a key. -/
def find? (entries : Entries) (key : String) : Option Node :=
  (List.find? (fun entry => entry.1 == key) entries).map Prod.snd

/-- Puts something else at a key, which keeps its place. -/
def replace (entries : Entries) (key : String) (node : Node) : Entries :=
  entries.map fun entry => if entry.1 == key then (key, node) else entry

def erase (entries : Entries) (key : String) : Entries :=
  entries.filter fun entry => entry.1 != key

/-- Changes the table at the end of a path. Steps that are missing are made; `dotted` says whether
they are steps of a dotted key, which may not lead through a table with a header of its own. The
change is told how the table has come about. -/
def changeAt (dotted : Bool) (change : Origin → Entries → Option Entries) (origin : Origin)
    (entries : Entries) : List String → Option Entries
  | [] => change origin entries
  | key :: path =>
    match entries.find? key with
    | none =>
      let made := if dotted then Origin.dotted else Origin.implied
      (changeAt dotted change made [] path).map fun inner => entries ++ [(key, .table made inner)]
    | some (.table origin inner) =>
      if dotted ∧ origin = .header then none
      else
        (changeAt dotted change origin inner path).map fun inner =>
          entries.replace key (.table origin inner)
    | some (.tables elements) =>
      match elements.getLast? with
      | some last =>
        (changeAt dotted change .header last path).map fun last =>
          entries.replace key (.tables (elements.dropLast ++ [last]))
      | none => none
    | some (.value _) => none

/-- Sets a key that is not there yet. -/
def add (entries : Entries) (key : String) (document : Document) : Option Entries :=
  match entries.find? key with
  | some _ => none
  | none => some (entries ++ [(key, .value document)])

/-- Sets a key with parts. The table that its last part goes into has to be one made by dotted keys,
if there are other parts. -/
def set (entries : Entries) (path : List String) (document : Document) : Option Entries :=
  match path.getLast? with
  | none => none
  | some key =>
    let change := fun (origin : Origin) (inner : Entries) =>
      if path.length = 1 ∨ origin = .dotted then inner.add key document else none
    changeAt true change .header entries path.dropLast

/-- Sets one key after another. -/
def setAll (entries : Entries) (pairs : List (List String × Document)) : Option Entries :=
  pairs.foldlM (fun entries pair => entries.set pair.1 pair.2) entries

/-- Adds a table with a header and what stands under it. A table that so far was only a step on the
way to other headers may be given its own; it then counts as coming last. -/
def addTable (entries : Entries) (path : List String) (pairs : List (List String × Document)) :
    Option Entries :=
  match path.getLast? with
  | none => none
  | some key =>
    let change := fun (_ : Origin) (inner : Entries) =>
      match inner.find? key with
      | none =>
        (setAll [] pairs).map fun content => inner ++ [(key, Node.table .header content)]
      | some (.table .implied content) =>
        (setAll content pairs).map fun content =>
          inner.erase key ++ [(key, Node.table .header content)]
      | some _ => none
    changeAt false change .header entries path.dropLast

/-- Adds one more table to a list of tables. -/
def addElement (entries : Entries) (path : List String) (pairs : List (List String × Document)) :
    Option Entries :=
  match path.getLast? with
  | none => none
  | some key =>
    let change := fun (_ : Origin) (inner : Entries) =>
      match inner.find? key with
      | none => (setAll [] pairs).map fun content => inner ++ [(key, Node.tables [content])]
      | some (.tables elements) =>
        (setAll [] pairs).map fun content => inner.replace key (.tables (elements ++ [content]))
      | some _ => none
    changeAt false change .header entries path.dropLast

end Entries

/-! ### Finished tables -/

mutual

/-- What a node says once nothing is added any more. -/
def Node.document : Node → Document
  | .value document => document
  | .table _ entries => .table (Node.documents entries) .closed
  | .tables elements => .list (Node.elementDocuments elements) .closed

def Node.documents : List (String × Node) → List (String × Document)
  | [] => []
  | (key, node) :: entries => (key, node.document) :: Node.documents entries

def Node.elementDocuments : List (List (String × Node)) → List Document
  | [] => []
  | entries :: elements =>
    .table (Node.documents entries) .closed :: Node.elementDocuments elements

end

/-- The table of keys with parts that all stand in one place. -/
def tableOf? (pairs : List (List String × Document)) : Option Document :=
  (Entries.setAll [] pairs).map fun entries => .table (Node.documents entries) .closed

end Toml

end Gatekeeper
