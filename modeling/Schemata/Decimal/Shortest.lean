/-!
# The shortest decimal that reads back as a float

A finite nonzero double stands for an exact number, and every real number closer to it than to its
neighbours reads back as that double. Among the decimals that do so, the shortest has the fewest
digits, and of those it is the closest; of two that are equally close, the one further from zero.

The search is exact. The number and the ends of the interval that reads back as it are
integers over one common denominator; for one digit, two digits and so on, the two points of the
decimal grid next to the number are tried. Seventeen digits always suffice.

## Main definitions

* `Schemata.Decimal.Interval`: a positive number with the interval of numbers that read back as it.
* `Schemata.Decimal.Interval.ofFields`: the interval of a double, from the fields of its bits.
* `Schemata.Decimal.Interval.shortest`: the digits of the shortest decimal, with its point.
* `Schemata.Decimal.floatText`: the text of a float, in positional or exponential notation.
-/

namespace Schemata.Decimal

/-- The number `value / unit`, and the interval from `low / unit` to `high / unit` around it. The
ends belong to the interval exactly if `closed`. -/
structure Interval where
  low : Nat
  value : Nat
  high : Nat
  unit : Nat
  closed : Bool

namespace Interval

/-- The interval of the positive double with the given exponent and fraction fields. The numbers
next to it are half a step away, except below the least number of a binade, where the step is half
as long. A number halfway between two doubles reads as the one with the even significand. -/
def ofFields (exponent fraction : Nat) : Interval :=
  let subnormal := exponent == 0
  let significand := if subnormal then fraction else fraction + 1 <<< 52
  -- The double is `significand * 2 ^ shift / 2 ^ 1074`; quarters of a step have numerator 1 below.
  let shift := if subnormal then 0 else exponent - 1
  let below := if fraction == 0 && 1 < exponent then 1 else 2
  { low := (4 * significand - below) <<< shift
    value := (4 * significand) <<< shift
    high := (4 * significand + 2) <<< shift
    unit := 4 <<< 1074
    closed := significand % 2 == 0 }

/-- Whether `n / d` lies in the interval, where `d` is positive. -/
def contains (i : Interval) (n d : Nat) : Bool :=
  if i.closed then i.low * d ≤ n * i.unit && n * i.unit ≤ i.high * d
  else i.low * d < n * i.unit && n * i.unit < i.high * d

/-- The number of decimal digits before the point of `n / d`, where `d ≤ n`. -/
def digitsBeforePoint (n d : Nat) : Nat :=
  (Nat.toDigits 10 (n / d)).length

/-- The number of zeros between the point and the first digit of `n / d`, where `n < d`, looked for
up to the given bound. -/
def zerosAfterPoint (n d : Nat) : Nat → Nat
  | 0 => 0
  | bound + 1 => if d ≤ n * 10 then 0 else zerosAfterPoint (n * 10) d bound + 1

/-- The power of ten just above the number: the number is less than `10 ^ magnitude`, and at least a
tenth of it. -/
def magnitude (i : Interval) : Int :=
  if i.unit ≤ i.value then digitsBeforePoint i.value i.unit
  else -(zerosAfterPoint i.value i.unit 400)

/-- The point of the grid of `10 ^ scale` to print: of the two next to the number, those that lie in
the interval, and of these the closer one; the greater of two equally close. -/
def gridPoint? (i : Interval) (scale : Int) : Option Nat :=
  let step := Nat.pow 10 scale.toNat
  let parts := Nat.pow 10 (-scale).toNat
  -- A point `k` of the grid is the number `k * step / parts`.
  let lower := i.value * parts / (i.unit * step)
  let isIn := fun k => i.contains (k * step) parts
  let twice := 2 * i.value * parts
  let middle := (2 * lower + 1) * step * i.unit
  match isIn lower, isIn (lower + 1) with
  | true, true => some (if twice < middle then lower else lower + 1)
  | true, false => some lower
  | false, true => some (lower + 1)
  | false, false => none

/-- Tries grids of ever more digits, from `digits` on, at most `bound` of them. -/
def search (i : Interval) (magnitude : Int) (digits : Nat) : Nat → Nat × Int
  | 0 => (0, 0)
  | bound + 1 =>
    let scale := magnitude - digits
    match i.gridPoint? scale with
    | some k => (k, scale)
    | none => search i magnitude (digits + 1) bound

/-- The shortest decimal in the interval, as digits and the number of them before the point, which
may be negative or beyond the last. -/
def shortest (i : Interval) : List Char × Int :=
  let (k, scale) := i.search i.magnitude 1 17
  let digits := Nat.toDigits 10 k
  let kept := (digits.reverse.dropWhile (· == '0')).reverse
  (kept, digits.length + scale)

end Interval

/-- Digits in positional notation, with at least one digit on each side of the point. -/
def positional (digits : List Char) (point : Int) : List Char :=
  if point ≤ 0 then
    '0' :: '.' :: (List.replicate (-point).toNat '0' ++ digits)
  else
    let whole := digits.take point.toNat
    let padded := whole ++ List.replicate (point.toNat - whole.length) '0'
    match digits.drop point.toNat with
    | [] => padded ++ ['.', '0']
    | rest => padded ++ '.' :: rest

/-- Digits in exponential notation: one digit before the point, no point without digits after it,
and no sign on a positive exponent. -/
def exponential (digits : List Char) (point : Int) : List Char :=
  let exponent := (toString (point - 1)).toList
  match digits with
  | [] => []
  | [first] => first :: 'e' :: exponent
  | first :: rest => first :: '.' :: (rest ++ 'e' :: exponent)

/-- Numbers from `10 ^ -4` up to `10 ^ 16` are written positionally, all others with an exponent. -/
def digitsText (digits : List Char) (point : Int) : String :=
  String.ofList <|
    if -3 ≤ point ∧ point ≤ 16 then positional digits point else exponential digits point

/-- The text of a float: the shortest decimal that reads back as it. -/
def floatText (x : Float) : String :=
  let bits := x.toBits.toNat
  let sign := if bits >>> 63 == 1 then "-" else ""
  let exponent := (bits >>> 52) % 2048
  let fraction := bits % (1 <<< 52)
  if exponent == 2047 then
    if fraction == 0 then sign ++ "inf" else "NaN"
  else if exponent == 0 && fraction == 0 then sign ++ "0.0"
  else
    let (digits, point) := (Interval.ofFields exponent fraction).shortest
    sign ++ digitsText digits point

end Schemata.Decimal
