/-
This file writes doubles as decimal text and reads decimal text as doubles. What differs from one
written form to another is a `Layout`: where positional notation ends, whether a whole number keeps
a fraction, and which way a tie between two shortest decimals goes.
-/
import Gatekeeper.Decimal.Shortest

namespace Gatekeeper

namespace Decimal

/-! ### Writing -/

/-- The decisions of a written form of doubles. -/
structure Layout where
  /-- Which decimal exponents are written positionally; the others get an exponent mark. -/
  positional : Int → Bool
  /-- Whether a positional whole number ends in `.0`. -/
  wholeFraction : Bool
  tie : Tie

/-- Text with the decimal point after `place` of its digits; `place` may lie outside of them. -/
def Layout.pointed (layout : Layout) (digits : List Char) (place : Int) : List Char :=
  if place ≤ 0 then
    '0' :: '.' :: List.replicate (-place).toNat '0' ++ digits
  else
    let whole := digits.take place.toNat
    let fraction := digits.drop place.toNat
    whole ++ List.replicate (place.toNat - digits.length) '0' ++
      if fraction.isEmpty then (if layout.wholeFraction then ['.', '0'] else [])
      else '.' :: fraction

/-- A decimal with exponent: one digit before the point, and the exponent with its sign. -/
def marked (digits : List Char) (exponent : Int) : List Char :=
  let fraction := digits.drop 1
  digits.take 1 ++ (if fraction.isEmpty then [] else '.' :: fraction) ++
    'e' :: (if exponent < 0 then '-' else '+') :: Nat.toDigits 10 exponent.natAbs

/-- A positive decimal. Trailing zeros of the significand are not significant. -/
def Layout.text (layout : Layout) (decimal : Decimal) : List Char :=
  let digits := Nat.toDigits 10 decimal.significand
  let exponent := digits.length - 1 + decimal.exponent
  let digits := (digits.reverse.dropWhile (· == '0')).reverse
  if layout.positional exponent then layout.pointed digits (exponent + 1)
  else marked digits exponent

/-- A double as text. Zero keeps its sign. -/
def Layout.write (layout : Layout) (double : Float) : String :=
  if double.isNaN then "NaN"
  else
    let bits := double.toBits.toNat
    let magnitude :=
      if double.isInf then "inf".toList
      else if bits % 0x8000000000000000 = 0 then layout.pointed ['0'] 1
      else layout.text (shortest (bits % 0x8000000000000000) layout.tie)
    String.ofList (if 0x8000000000000000 ≤ bits then '-' :: magnitude else magnitude)

/-! ### Reading -/

/-- The double nearest to `significand * 10 ^ exponent`; nothing if that is beyond all doubles. An
exponent far outside the range of doubles is cut back to where the answer is the same. -/
def nearest? (significand : Nat) (exponent : Int) : Option Float :=
  let reach : Int := (Nat.toDigits 10 significand).length + 400
  let double :=
    if significand = 0 then 0
    else if exponent < -reach then 0
    else if exponent < 0 then Float.ofScientific significand true exponent.natAbs
    else Float.ofScientific significand false (min exponent 400).natAbs
  if double.isInf then none else some double

end Decimal

end Gatekeeper
