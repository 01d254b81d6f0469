import EqualityTree.Number.Binary
import EqualityTree.Number.Digits

/-!
# Shortest decimal text of a binary number

A finite number is written with the fewest digits that read back as the same number: the coarsest
power of ten that has a multiple in the interval of reals which round to the number. Of two such
multiples the nearer is taken, and the greater if both are equally near. All arithmetic is exact.
The text is positional at every magnitude and has no point where no digit follows it.
-/

namespace EqualityTree.Number

/-- The reals that round to a binary number. All four numbers count in units of
`2 ^ exponent`; the ends belong to the interval where `closed` holds. -/
structure RoundingInterval where
  low : Nat
  value : Nat
  high : Nat
  exponent : Int
  closed : Bool

namespace RoundingInterval

/-- The ends lie halfway to the neighbours. Below a power of two the neighbour is half as far as
above it. A half goes to the even significand, so the ends belong to the even numbers. -/
def around (kind : FloatKind) (significand : Nat) (exponent : Int) : RoundingInterval where
  low := 4 * significand - if significand = Nat.pow 2 kind.fractionWidth then 1 else 2
  value := 4 * significand
  high := 4 * significand + 2
  exponent := exponent - 2
  closed := significand % 2 = 0

/-- The factor that brings the interval's unit and the grid's unit to whole numbers: the interval
counts in `scale` of them, the grid of multiples of `10 ^ power` in `step`. -/
def scale (interval : RoundingInterval) (power : Int) : Nat :=
  Nat.pow 2 interval.exponent.toNat * Nat.pow 10 (-power).toNat

/-- See `scale`. -/
def step (interval : RoundingInterval) (power : Int) : Nat :=
  Nat.pow 10 power.toNat * Nat.pow 2 (-interval.exponent).toNat

def contains (interval : RoundingInterval) (power : Int) (n : Nat) : Bool :=
  let point := n * interval.step power
  let low := interval.low * interval.scale power
  let high := interval.high * interval.scale power
  if interval.closed then low ≤ point && point ≤ high else low < point && point < high

/-- The multiple of `10 ^ power` that lies in the interval nearest to its value. -/
def nearest? (interval : RoundingInterval) (power : Int) : Option Nat :=
  let value := interval.value * interval.scale power
  let step := interval.step power
  let below := value / step
  let above := below + 1
  match interval.contains power below, interval.contains power above with
  | true, true => if value - below * step < above * step - value then some below else some above
  | true, false => some below
  | false, true => some above
  | false, false => none

/-- A power of ten above every number of the interval. -/
def topPower (interval : RoundingInterval) : Int :=
  (((interval.high.log2 : Int) + 1 + interval.exponent) * 30103).fdiv 100000 + 2

/-- The first of the powers `power`, `power - 1`, … that has a multiple in the interval, with
that multiple. The last power is taken as it is. -/
def coarsest (interval : RoundingInterval) : Nat → Int → Nat × Int
  | 0, power => (interval.value * interval.scale power / interval.step power, power)
  | steps + 1, power =>
      match interval.nearest? power with
      | some n => (n, power)
      | none => coarsest interval steps (power - 1)

/-- The shortest decimal `n * 10 ^ power` of the interval. Seventeen digits tell any two numbers
of either format apart, and the search starts at most three places too high. -/
def shortest (interval : RoundingInterval) : Nat × Int :=
  interval.coarsest 24 interval.topPower

end RoundingInterval

def positional (n : Nat) (power : Int) : List Char :=
  if 0 ≤ power then digits n ++ List.replicate power.toNat '0' else fixed n (-power).toNat

end EqualityTree.Number

namespace EqualityTree.FloatKind

/-- The text of a pattern. NaNs have no sign; a zero has no power of ten. -/
def text (kind : FloatKind) (bits : BitVec kind.width) : String :=
  match kind.decode bits with
  | .nan => "NaN"
  | .infinite negative => String.ofList (Number.signed negative ['i', 'n', 'f'])
  | .finite negative 0 _ => String.ofList (Number.signed negative ['0'])
  | .finite negative significand exponent =>
      let (n, power) := (Number.RoundingInterval.around kind significand exponent).shortest
      String.ofList (Number.signed negative (Number.positional n power))

/-- Reads the pattern from hexadecimal digits in either case, after an optional plus sign. -/
def read? (kind : FloatKind) (text : String) : Option (BitVec kind.width) :=
  match Number.readSigned? 16 text.toList with
  | some (false, bits) =>
      if bits < Nat.pow 2 kind.width then some (BitVec.ofNat kind.width bits) else none
  | _ => none

end EqualityTree.FloatKind
