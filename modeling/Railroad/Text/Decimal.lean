import Railroad.Scalar

/-!
# Decimal fractions

Two ways of writing a number in positional notation: with the fewest digits from which a floating point
number can be read back, and with one digit behind the point.
-/

namespace Railroad.Text

/-- A power of ten with any exponent. -/
def powerOfTen (e : Int) : Rat :=
  if 0 ≤ e then ((Nat.pow 10 e.toNat : Nat) : Rat) else 1 / ((Nat.pow 10 (-e).toNat : Nat) : Rat)

/-- A whole number of units of which `places` decimal places make one, with at least one digit on each
side of the point. -/
def positional (units : Nat) (places : Int) : String :=
  if places ≤ 0 then s!"{units * Nat.pow 10 (-places).toNat}.0"
  else
    let digits := (toString units).toList
    let width := places.toNat + 1
    let padded := List.replicate (width - digits.length) '0' ++ digits
    let whole := padded.take (padded.length - places.toNat)
    let fraction := padded.drop (padded.length - places.toNat)
    String.ofList (whole ++ '.' :: fraction)

/-- The magnitudes that are read as one floating point number: the ends of the interval, and whether
the ends belong to it. -/
structure Rounding where
  /-- The lower end. -/
  low : Rat
  /-- The upper end. -/
  high : Rat
  /-- Whether the ends are read as the number too. -/
  closed : Bool

/-- The interval of magnitudes that are nearest to a floating point number. Below a power of two the
neighbour is closer. The ends go to the number whose last bit is zero. -/
def Rounding.ofBinary (b : Binary) : Rounding :=
  let quarter := powerOfTwo (b.exponent - 2)
  let below := if b.mantissa = 1 <<< 52 ∧ -1074 < b.exponent then 1 else 2
  ⟨((4 * b.mantissa - below : Nat) : Rat) * quarter, ((4 * b.mantissa + 2 : Nat) : Rat) * quarter,
    b.mantissa % 2 == 0⟩

/-- Whether a magnitude is read as the number. -/
def Rounding.accepts (r : Rounding) (x : Rat) : Bool :=
  if r.closed then r.low ≤ x && x ≤ r.high else r.low < x && x < r.high

/-- The multiple of the unit with `places` decimal places that is read as the number and is nearest to
it, as a count of units. -/
def nearestUnits? (b : Binary) (places : Int) : Option Nat :=
  let unit := powerOfTen (-places)
  let rounding := Rounding.ofBinary b
  let below := (b.magnitude / unit).floor.toNat
  let fits (n : Nat) : Bool := rounding.accepts ((n : Rat) * unit)
  let gap := b.magnitude - (below : Rat) * unit
  match fits below, fits (below + 1) with
  | true, true => some (if gap * 2 < unit then below
      else if unit < gap * 2 then below + 1
      else if below % 2 = 0 then below else below + 1)
  | true, false => some below
  | false, true => some (below + 1)
  | false, false => none

/-- The coarsest decimal grid that has a point which is read as the number, among the next `fuel`
grids from `places` on. -/
def coarsestGrid (b : Binary) (places : Int) : Nat → Nat × Int
  | 0 => (0, 0)
  | fuel + 1 =>
    match nearestUnits? b places with
    | some units => (units, places)
    | none => coarsestGrid b (places + 1) fuel

/-- The shortest decimal fraction from which the number is read back. -/
def shortest (x : Float) : String :=
  let b := Binary.ofFloat x
  let sign := if b.negative then "-" else ""
  if b.mantissa = 0 then sign ++ "0.0"
  else
    let wholeDigits := (toString b.magnitude.floor.toNat).length
    let (units, places) := coarsestGrid b (-(wholeDigits : Int)) 1500
    sign ++ positional units places

/-- The number with one digit behind the point, where a tie goes to the even digit. -/
def oneDecimal (x : Rat) : String :=
  let tenths := (if x < 0 then -x else x) * 10
  let below := tenths.floor.toNat
  let rest := tenths - (below : Rat)
  let rounded :=
    if rest * 2 < 1 then below
    else if 1 < rest * 2 then below + 1
    else if below % 2 = 0 then below else below + 1
  (if x < 0 then "-" else "") ++ positional rounded 1

end Railroad.Text
