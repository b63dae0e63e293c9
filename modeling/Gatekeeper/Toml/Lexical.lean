/-
This file reads the smallest parts of a TOML text: spaces, comments, line ends, strings and keys.
Every reader takes the text from some point on and gives what it has read together with the text
that follows. A string is read in two steps: first its raw content is cut out, up to the quotes
that close it, then the content is decoded.
-/
import Gatekeeper.Text.Hex

namespace Gatekeeper

namespace Toml

/-! ### Spaces, comments and line ends -/

def isSpace (character : Char) : Bool :=
  character = ' ' || character = '\t'

/-- Everything but controls; the tab counts as no control. -/
def isPlain (character : Char) : Bool :=
  character = '\t' || (0x20 ≤ character.toNat && character.toNat ≠ 0x7F)

def skipSpaces (text : List Char) : List Char :=
  text.dropWhile isSpace

def newline? : List Char → Option (List Char)
  | '\n' :: rest => some rest
  | '\r' :: '\n' :: rest => some rest
  | _ => none

/-- Drops a comment, if there is one here. -/
def skipComment : List Char → List Char
  | '#' :: rest => rest.dropWhile isPlain
  | text => text

/-- The end of a line: spaces, perhaps a comment, and a line break or the end of the text. -/
def lineEnd? (text : List Char) : Option (List Char) :=
  match skipComment (skipSpaces text) with
  | [] => some []
  | text => newline? text

/-- Drops spaces, line breaks and comments, as they may stand between the items of an array. Inside
a comment a line break has to follow. -/
def gap? (inComment : Bool) : List Char → Option (List Char)
  | [] => if inComment then none else some []
  | '\n' :: rest => gap? false rest
  | '\r' :: '\n' :: rest => gap? false rest
  | character :: rest =>
    if inComment then
      if isPlain character then gap? true rest else none
    else if isSpace character then gap? false rest
    else if character = '#' then gap? true rest
    else if character = '\r' then none
    else some (character :: rest)

/-! ### Strings -/

/-- The raw content of a string on one line and what follows the closing quote. If the string has
escapes, a quote behind a backslash does not close it. -/
def cutLine? (quote : Char) (escapes : Bool) : List Char → Option (List Char × List Char)
  | [] => none
  | first :: rest =>
    if first = quote then some ([], rest)
    else if escapes && first = '\\' then
      match rest with
      | [] => none
      | second :: rest =>
        (cutLine? quote escapes rest).map fun cut => (first :: second :: cut.1, cut.2)
    else (cutLine? quote escapes rest).map fun cut => (first :: cut.1, cut.2)

/-- Quotes at the end of a string of several lines belong to it, two at most. -/
def closing (quote : Char) (text : List Char) : List Char × List Char :=
  let extra := (text.takeWhile (· = quote)).take 2
  (extra, text.drop extra.length)

/-- The raw content of a string of several lines and what follows the three closing quotes. -/
def cutLines? (quote : Char) (escapes : Bool) : List Char → Option (List Char × List Char)
  | [] => none
  | first :: rest =>
    if first = quote ∧ rest.take 2 = [quote, quote] then some (closing quote (rest.drop 2))
    else if escapes && first = '\\' then
      match rest with
      | [] => none
      | second :: rest =>
        (cutLines? quote escapes rest).map fun cut => (first :: second :: cut.1, cut.2)
    else (cutLines? quote escapes rest).map fun cut => (first :: cut.1, cut.2)

/-- The character of hexadecimal digits; surrogates are no characters. -/
def scalar? (digits : List Char) : Option Char :=
  match Hex.value? digits with
  | some value =>
    if value < 0xD800 ∨ (0xE000 ≤ value ∧ value < 0x110000) then some (Char.ofNat value) else none
  | none => none

/-- The character that stands behind a backslash, and what follows it. -/
def escape? : List Char → Option (Char × List Char)
  | 'b' :: rest => some ('\x08', rest)
  | 't' :: rest => some ('\t', rest)
  | 'n' :: rest => some ('\n', rest)
  | 'f' :: rest => some ('\x0c', rest)
  | 'r' :: rest => some ('\r', rest)
  | '"' :: rest => some ('"', rest)
  | '\\' :: rest => some ('\\', rest)
  | 'u' :: rest =>
    if rest.length < 4 then none
    else (scalar? (rest.take 4)).map fun character => (character, rest.drop 4)
  | 'U' :: rest =>
    if rest.length < 8 then none
    else (scalar? (rest.take 8)).map fun character => (character, rest.drop 8)
  | _ => none

/-- Drops spaces and line breaks. -/
def skipLines : List Char → List Char
  | '\n' :: rest => skipLines rest
  | '\r' :: '\n' :: rest => skipLines rest
  | ' ' :: rest => skipLines rest
  | '\t' :: rest => skipLines rest
  | text => text

/-- Drops the spaces and line breaks behind a backslash at the end of a line. -/
def continued? (text : List Char) : Option (List Char) :=
  (newline? (skipSpaces text)).map skipLines

/-- The text of a raw content. Line breaks are read as one character each, and only in a string of
several lines. The content gets shorter with every step, which `fuel` counts. -/
def decode? (escapes lines : Bool) (fuel : Nat) (content : List Char) : Option (List Char) :=
  match fuel, content with
  | _, [] => some []
  | 0, _ :: _ => none
  | fuel + 1, character :: rest =>
    if escapes && character = '\\' then
      match escape? rest with
      | some (character, rest) => (decode? escapes lines fuel rest).map (character :: ·)
      | none =>
        if lines then
          match continued? rest with
          | some rest => decode? escapes lines fuel rest
          | none => none
        else none
    else if isPlain character then (decode? escapes lines fuel rest).map (character :: ·)
    else if lines then
      match newline? (character :: rest) with
      | some rest => (decode? escapes lines fuel rest).map ('\n' :: ·)
      | none => none
    else none

/-- A string on one line, from behind its opening quote. -/
def lineString? (quote : Char) (text : List Char) : Option (List Char × List Char) :=
  let escapes := quote = '"'
  match cutLine? quote escapes text with
  | some (content, rest) =>
    (decode? escapes false content.length content).map fun decoded => (decoded, rest)
  | none => none

/-- A string of several lines, from behind its opening quotes. A line break right there does not
belong to it. -/
def linesString? (quote : Char) (text : List Char) : Option (List Char × List Char) :=
  let escapes := quote = '"'
  match cutLines? quote escapes ((newline? text).getD text) with
  | some (content, rest) =>
    (decode? escapes true content.length content).map fun decoded => (decoded, rest)
  | none => none

/-! ### Keys -/

/-- The characters of a key that needs no quotes. -/
def isBare (character : Char) : Bool :=
  character.isAlphanum || character = '-' || character = '_'

/-- One part of a key. -/
def simpleKey? : List Char → Option (String × List Char)
  | '"' :: rest => (lineString? '"' rest).map fun key => (String.ofList key.1, key.2)
  | '\'' :: rest => (lineString? '\'' rest).map fun key => (String.ofList key.1, key.2)
  | text =>
    let key := text.takeWhile isBare
    if key.isEmpty then none else some (String.ofList key, text.dropWhile isBare)

/-- How many parts a key may have. -/
def longestPath : Nat := 79

/-- A key: parts with points between them, at most `parts` of them. Spaces may stand around each. -/
def path? (parts : Nat) (text : List Char) : Option (List String × List Char) :=
  match parts with
  | 0 => none
  | parts + 1 =>
    match simpleKey? (skipSpaces text) with
    | none => none
    | some (key, rest) =>
      match skipSpaces rest with
      | '.' :: rest => (path? parts rest).map fun path => (key :: path.1, path.2)
      | rest => some ([key], rest)

end Toml

end Gatekeeper
