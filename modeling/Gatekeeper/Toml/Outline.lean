/-
This file writes TOML. What is written is an outline: tables with plain values, in order, and with
tables in them. The values of a table come first; then each of its tables follows under its own
header. A table that holds nothing but tables needs no header, since those below imply it. Strings
are written in the plainest form of quotes that holds them without escapes, if there is one.
-/
import Gatekeeper.Toml.Lexical

namespace Gatekeeper

namespace Toml

/-! ### Strings -/

/-- The length of the longest run of a character. -/
def longestRun (character : Char) (text : List Char) : Nat :=
  (text.foldl
    (fun (run, longest) other =>
      if other = character then (run + 1, max (run + 1) longest) else (0, longest))
    (0, 0)).2

/-- The forms of a string. -/
inductive Quoting where
  | basic
  | literal
  | basicLines
  | literalLines
  deriving DecidableEq

/-- Whether a character can only be written as an escape. A line break is no such character. -/
def needsEscape (character : Char) : Bool :=
  !isPlain character && character ≠ '\n'

/-- The form that a text is written in. -/
def quotingOf (text : List Char) : Quoting :=
  let controls := text.any needsEscape
  let breaks := text.contains '\n'
  let backslash := text.contains '\\'
  let double := longestRun '"' text
  let single := longestRun '\'' text
  if !controls && !backslash && double = 0 && !breaks then .basic
  else if !controls && single = 0 && !breaks then .literal
  else if !controls && !backslash && double ≤ 2 then .basicLines
  else if !controls && single ≤ 2 then .literalLines
  else if breaks then .basicLines
  else .basic

/-- A character inside basic quotes, other than a quote. A tab is always escaped. -/
def escape (lines : Bool) (character : Char) : List Char :=
  if character = '\x08' then ['\\', 'b']
  else if character = '\t' then ['\\', 't']
  else if character = '\n' then (if lines then ['\n'] else ['\\', 'n'])
  else if character = '\x0c' then ['\\', 'f']
  else if character = '\r' then ['\\', 'r']
  else if character = '\\' then ['\\', '\\']
  else if isPlain character then [character]
  else '\\' :: 'u' :: (Hex.padded 4 character.toNat).map Char.toUpper

/-- The inside of basic quotes. In a string of several lines two quotes in a row may stand as they
are, and the one after them is escaped; `run` counts those that do stand. -/
def escapeAll (lines : Bool) (run : Nat) : List Char → List Char
  | [] => []
  | character :: rest =>
    if character = '"' then
      if lines && run < 2 then '"' :: escapeAll lines (run + 1) rest
      else '\\' :: '"' :: escapeAll lines 0 rest
    else escape lines character ++ escapeAll lines 0 rest

/-- A string with its quotes. A text of several lines starts on a line of its own. -/
def quoted (text : List Char) : List Char :=
  let start := if text.contains '\n' then ['\n'] else []
  match quotingOf text with
  | .basic => '"' :: escapeAll false 0 text ++ ['"']
  | .literal => '\'' :: text ++ ['\'']
  | .basicLines => '"' :: '"' :: '"' :: start ++ escapeAll true 0 text ++ ['"', '"', '"']
  | .literalLines => '\'' :: '\'' :: '\'' :: start ++ text ++ ['\'', '\'', '\'']

/-! ### Keys -/

/-- One part of a key, without quotes where it can be. A key stands on one line. -/
def keyText (key : String) : List Char :=
  let text := key.toList
  let controls := text.any fun character => !isPlain character
  if !text.isEmpty && text.all isBare then text
  else if !controls && !text.contains '\\' && !text.contains '"' then
    '"' :: escapeAll false 0 text ++ ['"']
  else if !controls && !text.contains '\'' then '\'' :: text ++ ['\'']
  else '"' :: escapeAll false 0 text ++ ['"']

/-- A key with its parts. -/
def pathText (path : List String) : List Char :=
  List.intercalate ['.'] (path.map keyText)

/-! ### Outlines -/

/-- A plain value. -/
inductive Scalar where
  | boolean (value : Bool)
  | integer (value : Nat)
  | text (value : String)
  | texts (items : List String)

namespace Scalar

/-- Whether a value can be written: an integer has to fit sixty-four bits with sign. -/
def isWritable : Scalar → Bool
  | integer value => value < 0x8000000000000000
  | _ => true

/-- Two items or more stand on a line each, with a comma behind every one. -/
def characters : Scalar → List Char
  | boolean true => "true".toList
  | boolean false => "false".toList
  | integer value => Nat.toDigits 10 value
  | text value => quoted value.toList
  | texts [] => ['[', ']']
  | texts [item] => '[' :: quoted item.toList ++ [']']
  | texts items =>
    '[' :: '\n' :: (items.flatMap fun item =>
      "    ".toList ++ quoted item.toList ++ [',', '\n']) ++ [']']

end Scalar

/-- A table: its plain values and the tables in it. -/
inductive Outline where
  | table (scalars : List (String × Scalar)) (tables : List (String × Outline))

namespace Outline

/-- A plain value with its key, on a line of its own. -/
def pairText (pair : String × Scalar) : List Char :=
  keyText pair.1 ++ " = ".toList ++ pair.2.characters ++ ['\n']

/-- A header, behind an empty line. -/
def headerText (path : List String) : List Char :=
  '\n' :: '[' :: pathText path ++ [']', '\n']

mutual

/-- Whether all values can be written. -/
def isWritable : Outline → Bool
  | table scalars tables =>
    scalars.all (fun pair => pair.2.isWritable) && allWritable tables

def allWritable : List (String × Outline) → Bool
  | [] => true
  | (_, outline) :: tables => isWritable outline && allWritable tables

end

mutual

/-- A table with its header, if it needs one, and the tables in it. -/
def characters (path : List String) : Outline → List Char
  | table scalars tables =>
    (if scalars.isEmpty && !tables.isEmpty then [] else headerText path) ++
      scalars.flatMap pairText ++ tablesText path tables

/-- The tables in a table. -/
def tablesText (path : List String) : List (String × Outline) → List Char
  | [] => []
  | (key, outline) :: tables => characters (path ++ [key]) outline ++ tablesText path tables

end

/-- The text of a whole document, whose own values need no header. -/
def document : Outline → List Char
  | table scalars tables => scalars.flatMap pairText ++ tablesText [] tables

end Outline

end Toml

end Gatekeeper
