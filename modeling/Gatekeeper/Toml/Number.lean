/-
This file reads the numbers of a TOML text, and its dates and times. Of a date only that it is one
matters here, so what is read of it is where it ends.
-/
import Gatekeeper.Decimal.Layout
import Gatekeeper.Document
import Gatekeeper.Text.Hex

namespace Gatekeeper

namespace Toml

/-! ### Digits -/

/-- The digits behind a first digit. An underscore may stand between two digits. -/
def laterDigits (isDigit : Char → Bool) : List Char → List Char × List Char
  | [] => ([], [])
  | '_' :: digit :: rest =>
    if isDigit digit then
      let (digits, rest) := laterDigits isDigit rest
      (digit :: digits, rest)
    else ([], '_' :: digit :: rest)
  | digit :: rest =>
    if isDigit digit then
      let (digits, rest) := laterDigits isDigit rest
      (digit :: digits, rest)
    else ([], digit :: rest)

/-- Digits, one at least. -/
def digits? (isDigit : Char → Bool) : List Char → Option (List Char × List Char)
  | [] => none
  | digit :: rest =>
    if isDigit digit then
      let (digits, rest) := laterDigits isDigit rest
      some (digit :: digits, rest)
    else none

/-- The digits of a decimal integer: a zero alone, or digits that do not start with one. -/
def wholeDigits? : List Char → Option (List Char × List Char)
  | '0' :: rest => some (['0'], rest)
  | text => digits? Char.isDigit text

/-! ### Numbers -/

/-- Integers have sixty-four bits with sign. -/
def integer? (value : Int) : Option Document :=
  if -0x8000000000000000 ≤ value ∧ value < 0x8000000000000000 then some (.integer value) else none

/-- The integer of digits in a base other than ten; it has no sign. -/
def based? (base : Nat) (text : List Char) : Option (Document × List Char) := do
  let (digits, rest) ← digits? (fun digit => (Hex.digit? digit).any (· < base)) text
  let value := digits.foldl (fun value digit => base * value + (Hex.digit? digit).getD 0) 0
  let document ← integer? value
  return (document, rest)

/-- The fraction behind a whole number, if there is one. -/
def fraction? : List Char → Option (Option (List Char) × List Char)
  | '.' :: rest => (digits? Char.isDigit rest).map fun digits => (some digits.1, digits.2)
  | text => some (none, text)

/-- The exponent behind a number, if there is one. -/
def exponent? : List Char → Option (Option Int × List Char)
  | mark :: rest =>
    if mark = 'e' ∨ mark = 'E' then
      let (negative, rest) :=
        match rest with
        | '-' :: rest => (true, rest)
        | '+' :: rest => (false, rest)
        | rest => (false, rest)
      (digits? Char.isDigit rest).map fun digits =>
        let size : Int := Nat.ofDigitChars 10 digits.1 0
        (some (if negative then -size else size), digits.2)
    else some (none, mark :: rest)
  | [] => some (none, [])

/-- The double nearest to a decimal. One too great for all doubles is no number, but below them
there is the negative infinity. -/
def double? (negative : Bool) (digits : List Char) (place : Int) : Option Document :=
  match Decimal.nearest? (Nat.ofDigitChars 10 digits 0) place with
  | some double => some (.double (if negative then -double else double))
  | none => if negative then some (.double (-1.0 / 0.0)) else none

/-- A decimal number without its sign. -/
def decimal? (negative : Bool) (text : List Char) : Option (Document × List Char) := do
  let (whole, rest) ← wholeDigits? text
  let (fraction, rest) ← fraction? rest
  let (exponent, rest) ← exponent? rest
  match fraction, exponent with
  | none, none =>
    let size : Int := Nat.ofDigitChars 10 whole 0
    let document ← integer? (if negative then -size else size)
    return (document, rest)
  | _, _ =>
    let fraction := fraction.getD []
    let document ← double? negative (whole ++ fraction) (exponent.getD 0 - fraction.length)
    return (document, rest)

/-- A number that may follow a sign. -/
def signed? (negative : Bool) : List Char → Option (Document × List Char)
  | 'i' :: 'n' :: 'f' :: rest =>
    some (.double (if negative then -1.0 / 0.0 else 1.0 / 0.0), rest)
  | 'n' :: 'a' :: 'n' :: rest => some (.double (0.0 / 0.0), rest)
  | text => decimal? negative text

def number? : List Char → Option (Document × List Char)
  | '0' :: 'x' :: rest => based? 16 rest
  | '0' :: 'o' :: rest => based? 8 rest
  | '0' :: 'b' :: rest => based? 2 rest
  | '-' :: rest => signed? true rest
  | '+' :: rest => signed? false rest
  | text => signed? false text

/-! ### Dates and times -/

/-- A number of exactly this many digits, within bounds. -/
def fixed? (width low high : Nat) (text : List Char) : Option (Nat × List Char) :=
  let digits := (text.take width).takeWhile Char.isDigit
  let value := Nat.ofDigitChars 10 digits 0
  if digits.length = width ∧ low ≤ value ∧ value ≤ high then some (value, text.drop width)
  else none

/-- What follows a mark. -/
def mark? (mark : Char) : List Char → Option (List Char)
  | first :: rest => if first = mark then some rest else none
  | [] => none

def daysIn (year month : Nat) : Nat :=
  if month = 2 then
    if year % 4 = 0 ∧ (year % 100 ≠ 0 ∨ year % 400 = 0) then 29 else 28
  else if month = 4 ∨ month = 6 ∨ month = 9 ∨ month = 11 then 30
  else 31

/-- What follows a date. -/
def date? (text : List Char) : Option (List Char) := do
  let (year, rest) ← fixed? 4 0 9999 text
  let (month, rest) ← fixed? 2 1 12 (← mark? '-' rest)
  let (_, rest) ← fixed? 2 1 (daysIn year month) (← mark? '-' rest)
  return rest

/-- What follows a time of day. A minute may have a leap second. -/
def time? (text : List Char) : Option (List Char) := do
  let (_, rest) ← fixed? 2 0 23 text
  let (_, rest) ← fixed? 2 0 59 (← mark? ':' rest)
  let (_, rest) ← fixed? 2 0 60 (← mark? ':' rest)
  match rest with
  | '.' :: rest =>
    if (rest.takeWhile Char.isDigit).isEmpty then none else return rest.dropWhile Char.isDigit
  | rest => return rest

/-- What follows an offset from universal time, if there is one here. -/
def offset? : List Char → Option (List Char)
  | mark :: rest =>
    if mark = 'Z' ∨ mark = 'z' then some rest
    else if mark = '+' ∨ mark = '-' then do
      let (_, rest) ← fixed? 2 0 23 rest
      let (_, rest) ← fixed? 2 0 59 (← mark? ':' rest)
      return rest
    else some (mark :: rest)
  | [] => some []

/-- What follows a date, with its time if there is one. -/
def dated? (text : List Char) : Option (List Char) := do
  let rest ← date? text
  match rest with
  | mark :: later =>
    if mark = 'T' ∨ mark = 't' ∨ mark = ' ' then
      match time? later with
      | some rest => offset? rest
      | none => return rest
    else return rest
  | [] => return rest

/-- What follows a date or a time. -/
def moment? (text : List Char) : Option (List Char) :=
  dated? text <|> time? text

end Toml

end Gatekeeper
