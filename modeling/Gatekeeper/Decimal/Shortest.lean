/-
This file finds the shortest decimal that stands for a double: of the decimals that read back as it,
one with the fewest digits, and of those the nearest. A finite double is a mantissa times a power of
two, and the reals that round to it are an interval around that value. For each number of digits the
two neighbours of the value on the decimal grid of that many digits are tried against the interval,
all in whole numbers. If any point of a grid lies in the interval then one of the two neighbours
does, so the first grid with a hit is the shortest.
-/

namespace Gatekeeper

/-- A positive decimal `significand * 10 ^ exponent`. -/
structure Decimal where
  significand : Nat
  exponent : Int
  deriving DecidableEq

namespace Decimal

/-- Which of two equally near decimals stands for a double. -/
inductive Tie where
  | toEven
  | upward
  deriving DecidableEq

/-! ### The interval of a double -/

/-- The reals that round to one double. They lie between `low / denominator` and
`high / denominator`, the double itself is `value / denominator`, and the ends belong to the
interval when `closed` holds. -/
structure Interval where
  low : Nat
  value : Nat
  high : Nat
  denominator : Nat
  closed : Bool

/-- The interval of the positive double `mantissa * 2 ^ exponent`. Above it lies half a unit. Below
it lies half a unit too, or a quarter if the double is the first of its binade (`narrow`), since its
neighbour there is nearer. -/
def Interval.ofBinary (mantissa : Nat) (exponent : Int) (narrow : Bool) : Interval :=
  let scale := Nat.pow 2 (exponent - 2).toNat
  { low := (4 * mantissa - if narrow then 1 else 2) * scale
    value := 4 * mantissa * scale
    high := (4 * mantissa + 2) * scale
    denominator := Nat.pow 2 (2 - exponent).toNat
    closed := mantissa % 2 = 0 }

/-- The interval stretched by a power of ten, so that grid points become whole numbers. -/
def Interval.stretch (interval : Interval) (power : Int) : Interval :=
  let factor := Nat.pow 10 power.toNat
  { interval with
    low := interval.low * factor
    value := interval.value * factor
    high := interval.high * factor
    denominator := interval.denominator * Nat.pow 10 (-power).toNat }

/-- Whether a whole number lies in the interval. -/
def Interval.contains (interval : Interval) (point : Nat) : Bool :=
  let scaled := point * interval.denominator
  if interval.closed then interval.low ≤ scaled && scaled ≤ interval.high
  else interval.low < scaled && scaled < interval.high

/-- The place of the leading digit of the value: the value is at least `10` to this power and less
than `10` to the next. -/
def Interval.magnitude (interval : Interval) : Int :=
  if interval.denominator ≤ interval.value then
    (Nat.toDigits 10 (interval.value / interval.denominator)).length - 1
  else
    -(Nat.toDigits 10 ((interval.denominator - 1) / interval.value)).length

/-! ### The shortest decimal -/

/-- The nearer of the whole numbers around the value that lie in the interval. -/
def Interval.hit? (interval : Interval) (tie : Tie) : Option Nat :=
  let below := interval.value / interval.denominator
  let above := below + 1
  match interval.contains below, interval.contains above with
  | false, false => none
  | true, false => some below
  | false, true => some above
  | true, true =>
    let toBelow := interval.value - below * interval.denominator
    let toAbove := above * interval.denominator - interval.value
    match compare toBelow toAbove with
    | .lt => some below
    | .gt => some above
    | .eq => some (if tie = .toEven ∧ below % 2 = 0 then below else above)

/-- The first hit on the grids of `digits`, `digits + 1`, … digits, trying `grids` of them. -/
def Interval.firstHit (interval : Interval) (tie : Tie) (digits : Nat) : Nat → Decimal
  | 0 => ⟨interval.value / interval.denominator, 0⟩
  | grids + 1 =>
    let power := digits - 1 - interval.magnitude
    match (interval.stretch power).hit? tie with
    | some point => ⟨point, -power⟩
    | none => interval.firstHit tie (digits + 1) grids

/-- The shortest decimal of a positive finite double, given by its bits. Seventeen digits are always
enough to tell a double from its neighbours. -/
def shortest (bits : Nat) (tie : Tie) : Decimal :=
  let fraction : Nat := bits % 0x10000000000000
  let field : Nat := bits / 0x10000000000000 % 0x800
  let interval :=
    if field = 0 then Interval.ofBinary fraction (-1074) false
    else Interval.ofBinary (0x10000000000000 + fraction) ((field : Int) - 1075) (fraction = 0 && field ≠ 1)
  interval.firstHit tie 1 17

end Decimal

end Gatekeeper
