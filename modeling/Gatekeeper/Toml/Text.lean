/-
This file reads TOML text: values, the lines of a text, and from them the document. A text is first
cut into its lines, each of them a header or a key with its value, whatever they mean together; what
has no lines is no TOML. Only then are the lines put together to tables.
-/
import Gatekeeper.Toml.Lexical
import Gatekeeper.Toml.Number
import Gatekeeper.Toml.Table

namespace Gatekeeper

namespace Toml

/-! ### Values -/

/-- How deep arrays and inline tables may stand in one another. -/
def deepest : Nat := 79

mutual

/-- A value and what follows it. The depth of calls is bounded by `fuel`. -/
def value? (fuel depth : Nat) (text : List Char) : Option (Document × List Char) :=
  match fuel with
  | 0 => none
  | fuel + 1 =>
    match text with
    | '"' :: '"' :: '"' :: rest =>
      (linesString? '"' rest).map fun string => (.text (String.ofList string.1), string.2)
    | '\'' :: '\'' :: '\'' :: rest =>
      (linesString? '\'' rest).map fun string => (.text (String.ofList string.1), string.2)
    | '"' :: rest =>
      (lineString? '"' rest).map fun string => (.text (String.ofList string.1), string.2)
    | '\'' :: rest =>
      (lineString? '\'' rest).map fun string => (.text (String.ofList string.1), string.2)
    | 't' :: 'r' :: 'u' :: 'e' :: rest => some (.boolean true, rest)
    | 'f' :: 'a' :: 'l' :: 's' :: 'e' :: rest => some (.boolean false, rest)
    | '[' :: rest =>
      match depth with
      | 0 => none
      | depth + 1 => (items? fuel depth rest).map fun items => (.list items.1 .closed, items.2)
    | '\x7b' :: rest =>
      match depth with
      | 0 => none
      | depth + 1 =>
        match skipSpaces rest with
        | '\x7d' :: rest => some (.table [] .closed, rest)
        | _ =>
          match pairs? fuel depth rest with
          | some (pairs, rest) => (tableOf? pairs).map fun table => (table, rest)
          | none => none
    | _ =>
      match moment? text with
      | some rest => some (.date, rest)
      | none => number? text

/-- The items of an array up to its closing bracket. A comma may follow the last one. -/
def items? (fuel depth : Nat) (text : List Char) : Option (List Document × List Char) :=
  match fuel with
  | 0 => none
  | fuel + 1 =>
    match gap? false text with
    | none => none
    | some (']' :: rest) => some ([], rest)
    | some text =>
      match value? fuel depth text with
      | none => none
      | some (item, rest) =>
        match gap? false rest with
        | some (']' :: rest) => some ([item], rest)
        | some (',' :: rest) =>
          (items? fuel depth rest).map fun items => (item :: items.1, items.2)
        | _ => none

/-- The keys and values of an inline table up to its closing brace. They stand on one line, and no
comma follows the last one. -/
def pairs? (fuel depth : Nat) (text : List Char) :
    Option (List (List String × Document) × List Char) :=
  match fuel with
  | 0 => none
  | fuel + 1 =>
    match path? longestPath text with
    | some (path, '=' :: rest) =>
      match value? fuel depth (skipSpaces rest) with
      | none => none
      | some (value, rest) =>
        match skipSpaces rest with
        | '\x7d' :: rest => some ([(path, value)], rest)
        | ',' :: rest =>
          (pairs? fuel depth rest).map fun pairs => ((path, value) :: pairs.1, pairs.2)
        | _ => none
    | _ => none

end

/-! ### Lines -/

/-- A line of a text that says something. -/
inductive Line where
  | pair (path : List String) (value : Document)
  /-- The header of a table. -/
  | table (path : List String)
  /-- The header of one more table of a list. -/
  | element (path : List String)

/-- A key, its value, and the end of the line. -/
def pairLine? (fuel : Nat) (text : List Char) : Option (Line × List Char) :=
  match path? longestPath text with
  | some (path, '=' :: rest) =>
    match value? fuel deepest (skipSpaces rest) with
    | some (value, rest) => (lineEnd? rest).map fun rest => (.pair path value, rest)
    | none => none
  | _ => none

/-- A header from behind its opening brackets. -/
def headerLine? (isElement : Bool) (text : List Char) : Option (Line × List Char) :=
  match path? longestPath text with
  | some (path, ']' :: rest) =>
    if isElement then
      match rest with
      | ']' :: rest => (lineEnd? rest).map fun rest => (.element path, rest)
      | _ => none
    else (lineEnd? rest).map fun rest => (.table path, rest)
  | _ => none

/-- The lines of a text. Each takes a character at least, which is what `fuel` counts. -/
def lines? (fuel : Nat) (text : List Char) : Option (List Line) :=
  match fuel, skipSpaces text with
  | _, [] => some []
  | 0, _ => none
  | fuel + 1, '[' :: '[' :: rest =>
    match headerLine? true rest with
    | some (line, rest) => (lines? fuel rest).map (line :: ·)
    | none => none
  | fuel + 1, '[' :: rest =>
    match headerLine? false rest with
    | some (line, rest) => (lines? fuel rest).map (line :: ·)
    | none => none
  | fuel + 1, text =>
    if text.head? = some '#' then
      match lineEnd? text with
      | some rest => lines? fuel rest
      | none => none
    else
      match newline? text with
      | some rest => lines? fuel rest
      | none =>
        match pairLine? (2 * text.length + 2) text with
        | some (line, rest) => (lines? fuel rest).map (line :: ·)
        | none => none

/-! ### Documents -/

/-- What stands under one header. -/
structure Section where
  isElement : Bool
  path : List String
  pairs : List (List String × Document)

/-- The pairs before the first header, and the sections. -/
def sections : List Line → List (List String × Document) × List Section
  | [] => ([], [])
  | .pair path value :: lines =>
    let (pairs, later) := sections lines
    ((path, value) :: pairs, later)
  | .table path :: lines =>
    let (pairs, later) := sections lines
    ([], ⟨false, path, pairs⟩ :: later)
  | .element path :: lines =>
    let (pairs, later) := sections lines
    ([], ⟨true, path, pairs⟩ :: later)

/-- Adds what a section says. -/
def Section.addTo (part : Section) (entries : Entries) : Option Entries :=
  if part.isElement then entries.addElement part.path part.pairs
  else entries.addTable part.path part.pairs

/-- The document of the lines of a text. -/
def assemble? (lines : List Line) : Option Document := do
  let (pairs, later) := sections lines
  let root ← Entries.setAll [] pairs
  let root ← later.foldlM (fun entries part => part.addTo entries) root
  return .table (Node.documents root) .closed

/-- A mark that may stand at the very start of a text. -/
def skipMark : List Char → List Char
  | '\uFEFF' :: rest => rest
  | text => text

/-- The document that a text is, if it is one. -/
def document? (text : String) : Option Document :=
  let text := skipMark text.toList
  (lines? (text.length + 1) text).bind assemble?

end Toml

end Gatekeeper
