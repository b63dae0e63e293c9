/-
This file writes numbers and bytes in hexadecimal and reads them back. Written digits are lower
case; digits of either case are read.
-/

namespace Gatekeeper

namespace Hex

/-- The value of a hexadecimal digit. -/
def digit? (digit : Char) : Option Nat :=
  if '0' ≤ digit ∧ digit ≤ '9' then some (digit.toNat - '0'.toNat)
  else if 'a' ≤ digit ∧ digit ≤ 'f' then some (digit.toNat - 'a'.toNat + 10)
  else if 'A' ≤ digit ∧ digit ≤ 'F' then some (digit.toNat - 'A'.toNat + 10)
  else none

/-- The number that hexadecimal digits stand for. -/
def value? (digits : List Char) : Option Nat :=
  digits.foldlM (fun value digit => (digit? digit).map (16 * value + ·)) 0

/-- A number in at least `width` digits. -/
def padded (width number : Nat) : List Char :=
  let digits := Nat.toDigits 16 number
  List.replicate (width - digits.length) '0' ++ digits

/-- Bytes, two digits each. -/
def ofBytes (bytes : List UInt8) : List Char :=
  bytes.flatMap fun byte => padded 2 byte.toNat

/-- The bytes of pairs of digits. -/
def bytes? : List Char → Option (List UInt8)
  | [] => some []
  | high :: low :: rest => do
    let byte ← value? [high, low]
    let bytes ← bytes? rest
    return UInt8.ofNat byte :: bytes
  | [_] => none

end Hex

end Gatekeeper
