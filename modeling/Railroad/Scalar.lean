/-!
# Lengths

What a length has to offer for a diagram to be laid out with it. Diagrams on a screen use floating
point, and the same layout works in exact fractions. Both have an exact value, from which they are
written.
-/

namespace Railroad

/-- The arithmetic that a layout needs. -/
class Scalar (α : Type) extends Add α, Sub α, Mul α, Div α, Neg α, Max α where
  /-- A whole number as a length. -/
  ofNat : Nat → α
  /-- The exact value of a length. -/
  value : α → Rat

namespace Scalar

/-- The whole number that stands where a length is expected. -/
scoped instance numeral {α : Type} [Scalar α] (n : Nat) : OfNat α n := ⟨Scalar.ofNat n⟩

end Scalar

/-- A power of two with any exponent. -/
def powerOfTwo (e : Int) : Rat :=
  if 0 ≤ e then ((1 <<< e.toNat : Nat) : Rat) else 1 / ((1 <<< (-e).toNat : Nat) : Rat)

/-- A finite number in binary floating point: a whole number times a power of two. -/
structure Binary where
  /-- Whether the number has a minus sign. -/
  negative : Bool
  /-- The whole number. -/
  mantissa : Nat
  /-- The exponent of two. -/
  exponent : Int
  deriving DecidableEq, Repr

namespace Binary

/-- The parts of a floating point number, read off its bits. -/
def ofFloat (x : Float) : Binary :=
  let bits : Nat := x.toBits.toNat
  let fraction : Nat := bits % (1 <<< 52)
  let biased : Nat := (bits >>> 52) % (1 <<< 11)
  let negative : Bool := 1 <<< 63 ≤ bits
  if biased = 0 then ⟨negative, fraction, -1074⟩
  else ⟨negative, fraction + (1 <<< 52), (biased : Int) - 1075⟩

/-- The magnitude of the number. -/
def magnitude (b : Binary) : Rat := (b.mantissa : Rat) * powerOfTwo b.exponent

/-- The value of the number. -/
def value (b : Binary) : Rat := if b.negative then -b.magnitude else b.magnitude

end Binary

instance : Scalar Float where
  ofNat := Float.ofNat
  value x := (Binary.ofFloat x).value

instance : Scalar Rat where
  max a b := if a ≤ b then b else a
  ofNat n := n
  value x := x

end Railroad
