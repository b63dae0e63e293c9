/-
This file reads JSON text into a document. What is read does not depend on what the text is wanted
for, so a fault does not end the reading with an error: it ends the document there, and whoever
decodes the document finds the fault in its place.
-/
import Gatekeeper.Document

namespace Gatekeeper

namespace JsonText

/-- The characters that may stand between the parts of a text. -/
def isBlank (character : Char) : Bool :=
  character = ' ' || character = '\t' || character = '\n' || character = '\r'

def skipBlanks (text : List Char) : List Char :=
  text.dropWhile isBlank

/-! ### Strings -/

/-- A piece of a string: a character, or a sixteen-bit unit written by its number. -/
inductive Piece where
  | character (value : Char)
  | unit (value : Nat)

/-- What a backslash and this character stand for. -/
def escaped? (character : Char) : Option Char :=
  match character with
  | '"' => some '"'
  | '\\' => some '\\'
  | '/' => some '/'
  | 'b' => some '\x08'
  | 'f' => some '\x0c'
  | 'n' => some '\n'
  | 'r' => some '\r'
  | 't' => some '\t'
  | _ => none

/-- The pieces of a string up to its closing quote, and what follows the quote. -/
def pieces? : List Char → Option (List Piece × List Char)
  | [] => none
  | '"' :: rest => some ([], rest)
  | '\\' :: 'u' :: first :: second :: third :: fourth :: rest => do
    let unit ← Hex.value? [first, second, third, fourth]
    let (pieces, rest) ← pieces? rest
    return (.unit unit :: pieces, rest)
  | '\\' :: mark :: rest => do
    let character ← escaped? mark
    let (pieces, rest) ← pieces? rest
    return (.character character :: pieces, rest)
  | character :: rest => do
    if character.toNat < 0x20 then none
    else
      let (pieces, rest) ← pieces? rest
      return (.character character :: pieces, rest)

def isHighSurrogate (unit : Nat) : Bool := 0xD800 ≤ unit && unit < 0xDC00

def isLowSurrogate (unit : Nat) : Bool := 0xDC00 ≤ unit && unit < 0xE000

/-- The text of the pieces. A pair of surrogates is one character; a lone one is none at all. -/
def join? : List Piece → Option (List Char)
  | [] => some []
  | .character character :: pieces => (join? pieces).map (character :: ·)
  | .unit high :: .unit low :: pieces =>
    if isHighSurrogate high then
      if isLowSurrogate low then
        let character := Char.ofNat (0x10000 + (high - 0xD800) * 0x400 + (low - 0xDC00))
        (join? pieces).map (character :: ·)
      else none
    else if isLowSurrogate high then none
    else (join? (.unit low :: pieces)).map (Char.ofNat high :: ·)
  | .unit unit :: pieces =>
    if isHighSurrogate unit || isLowSurrogate unit then none
    else (join? pieces).map (Char.ofNat unit :: ·)

/-! ### Numbers -/

/-- A number without a fraction or an exponent is an integer if it fits sixty-four bits, with or
without sign; all others are doubles. -/
def numberOf (negative : Bool) (digits fraction : List Char) (exponent : Option Int) : Document :=
  let signed := if negative then -(Nat.ofDigitChars 10 digits 0 : Int)
    else Nat.ofDigitChars 10 digits 0
  let isInteger := fraction.isEmpty && exponent.isNone && !(negative && signed = 0)
  if isInteger && Json.isIntegerInRange signed then .integer signed
  else
    let place := exponent.getD 0 - fraction.length
    match Decimal.nearest? (Nat.ofDigitChars 10 (digits ++ fraction) 0) place with
    | some double => .double (if negative then -double else double)
    | none => .valueless

/-- The fraction behind a whole number: its digits, none if there is no point. -/
def fraction? : List Char → Option (List Char × List Char)
  | '.' :: rest =>
    let digits := rest.takeWhile Char.isDigit
    if digits.isEmpty then none else some (digits, rest.dropWhile Char.isDigit)
  | rest => some ([], rest)

/-- The digits of an exponent, read with its sign. -/
def exponentDigits? (negative : Bool) (text : List Char) : Option (Option Int × List Char) :=
  let digits := text.takeWhile Char.isDigit
  let size : Int := Nat.ofDigitChars 10 digits 0
  if digits.isEmpty then none
  else some (some (if negative then -size else size), text.dropWhile Char.isDigit)

/-- The exponent behind a number, if it has one. -/
def exponent? : List Char → Option (Option Int × List Char)
  | mark :: rest =>
    if mark = 'e' || mark = 'E' then
      match rest with
      | '-' :: rest => exponentDigits? true rest
      | '+' :: rest => exponentDigits? false rest
      | rest => exponentDigits? false rest
    else some (none, mark :: rest)
  | [] => some (none, [])

/-- A number without its sign. No zero may stand before another digit. -/
def unsigned? (negative : Bool) (text : List Char) : Option (Document × List Char) := do
  let digits := text.takeWhile Char.isDigit
  if digits.isEmpty || (digits.head? = some '0' && digits.length ≠ 1) then none
  else
    let (fraction, rest) ← fraction? (text.dropWhile Char.isDigit)
    let (exponent, rest) ← exponent? rest
    return (numberOf negative digits fraction exponent, rest)

def number? : List Char → Option (Document × List Char)
  | '-' :: rest => unsigned? true rest
  | text => unsigned? false text

/-! ### Values -/

mutual

/-- The value at the front of a text and what follows it; nothing follows a fault. The depth of
calls is bounded by `fuel`. -/
def value (fuel : Nat) (text : List Char) : Document × Option (List Char) :=
  match fuel with
  | 0 => (.broken, none)
  | fuel + 1 =>
    match skipBlanks text with
    | 'n' :: 'u' :: 'l' :: 'l' :: rest => (.null, some rest)
    | 't' :: 'r' :: 'u' :: 'e' :: rest => (.boolean true, some rest)
    | 'f' :: 'a' :: 'l' :: 's' :: 'e' :: rest => (.boolean false, some rest)
    | '"' :: rest =>
      match pieces? rest with
      | some (pieces, rest) =>
        match join? pieces with
        | some characters => (.text (String.ofList characters), some rest)
        | none => (.valueless, some rest)
      | none => (.broken, none)
    | '[' :: rest =>
      match skipBlanks rest with
      | ']' :: rest => (.list [] .closed, some rest)
      | rest =>
        let (items, ending, rest) := items fuel rest
        (.list items ending, rest)
    | '\x7b' :: rest =>
      match skipBlanks rest with
      | '\x7d' :: rest => (.table [] .closed, some rest)
      | rest =>
        let (members, ending, rest) := members fuel rest
        (.table members ending, rest)
    | rest =>
      match number? rest with
      | some (number, rest) => (number, some rest)
      | none => (.broken, none)

/-- The items of an array up to its closing bracket. -/
def items (fuel : Nat) (text : List Char) : List Document × Ending × Option (List Char) :=
  match fuel with
  | 0 => ([], .broken, none)
  | fuel + 1 =>
    match value fuel text with
    | (item, none) => ([item], .broken, none)
    | (item, some rest) =>
      match skipBlanks rest with
      | ']' :: rest => ([item], .closed, some rest)
      | ',' :: rest =>
        let (items, ending, rest) := items fuel rest
        (item :: items, ending, rest)
      | _ => ([item], .broken, none)

/-- The members of an object up to its closing brace. Behind a name that stands for no text the
members are read, to find the end, but not kept. -/
def members (fuel : Nat) (text : List Char) :
    List (String × Document) × Ending × Option (List Char) :=
  match fuel with
  | 0 => ([], .broken, none)
  | fuel + 1 =>
    match skipBlanks text with
    | '"' :: rest =>
      match pieces? rest with
      | none => ([], .broken, none)
      | some (pieces, rest) =>
        match skipBlanks rest with
        | ':' :: rest =>
          let (member, rest) := value fuel rest
          let later : List (String × Document) × Ending × Option (List Char) :=
            match rest.map skipBlanks with
            | some ('\x7d' :: rest) => ([], .closed, some rest)
            | some (',' :: rest) => members fuel rest
            | _ => ([], .broken, none)
          match join? pieces with
          | some name => ((String.ofList name, member) :: later.1, later.2)
          | none =>
            let passable := member.isPassable &&
              (Document.table later.1 later.2.1).isPassable
            ([], if passable then .unreadableKey else .broken, later.2.2)
        | _ => ([], .broken, none)
    | _ => ([], .broken, none)

end

/-- The document at the front of a text, and whether the text holds nothing else. Every second call
takes a character, which is what the fuel counts on. -/
def document (text : List Char) : Document × Bool :=
  let (document, rest) := value (2 * text.length + 2) text
  (document, rest.any fun rest => (skipBlanks rest).isEmpty)

/-- The JSON value that a text is, if it is one. -/
def json? (text : String) : Option Json :=
  match document text.toList with
  | (document, true) => document.toJson?
  | (_, false) => none

end JsonText

end Gatekeeper
