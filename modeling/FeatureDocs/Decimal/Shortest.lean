/-!
# Shortest decimals

A binary floating-point number is an integer times a power of two, and every real number nearer to
it than to its neighbours reads back as it. Its shortest decimal is the one on the coarsest grid of
powers of ten that has a point among them; of two such points the nearer counts, and an even one
when they are equally near.
-/

namespace FeatureDocs

/-- The number `digits * 10 ^ exponent`. -/
structure Decimal where
  digits : Nat
  exponent : Int
  deriving DecidableEq, Repr

namespace Decimal

/-- The number `mantissa * 2 ^ exponent`. -/
structure Binary where
  mantissa : Nat
  exponent : Int
  /-- The neighbour below lies only half as far away as the one above. -/
  nearBelow : Bool
  deriving DecidableEq, Repr

/-- The weight of the sign among the bits of a double-precision number. -/
def signWeight : Nat := 0x8000000000000000

/-- The weight of the last bit of the exponent, which is also that of the leading digit that normal
numbers do not write. -/
def exponentWeight : Nat := 0x10000000000000

/-- Whether the bits stand for a number with a minus sign. -/
def isNegative (bits : UInt64) : Bool := signWeight ≤ bits.toNat

/-- The bits but for the sign. -/
def sizeBits (bits : UInt64) : Nat := bits.toNat % signWeight

/-- The size bits of infinity. -/
def infinityBits : Nat := 0x7FF * exponentWeight

/-- The size of the finite double-precision number with the given bits. -/
def Binary.ofBits (bits : UInt64) : Binary :=
  let fraction := sizeBits bits % exponentWeight
  let biased := sizeBits bits / exponentWeight
  if biased = 0 then ⟨fraction, -1074, false⟩
  else ⟨exponentWeight + fraction, Int.ofNat biased - 1075, fraction = 0 && 1 < biased⟩

/-- The power of a base with a natural exponent; `1` for a negative one. -/
def power (base : Nat) (exponent : Int) : Nat := Nat.pow base exponent.toNat

/-- The point of the grid `10 ^ k` that reads back as `b`, if there is one. All quantities are
multiples of a common unit in which `b` is `4 * mantissa`. -/
def Binary.onGrid? (b : Binary) (k : Int) : Option Nat :=
  let q := b.exponent - 2
  let unit := power 2 q * power 10 (-k)
  let grid := power 10 k * power 2 (-q)
  let value := 4 * b.mantissa * unit
  let low := (4 * b.mantissa - if b.nearBelow then 1 else 2) * unit
  let high := (4 * b.mantissa + 2) * unit
  let reads (d : Nat) : Bool :=
    if b.mantissa % 2 = 0 then low ≤ d * grid && d * grid ≤ high
    else low < d * grid && d * grid < high
  let d := value / grid
  let below := value - d * grid
  let above := (d + 1) * grid - value
  match reads d && 0 < d, reads (d + 1) with
  | true, true =>
    some (if below < above ∨ (below = above ∧ d % 2 = 0) then d else d + 1)
  | true, false => some d
  | false, true => some (d + 1)
  | false, false => none

/-- The first grid with a point that reads back, from `10 ^ (fine + steps)` down to `10 ^ fine`. -/
def Binary.search (b : Binary) (fine : Int) : Nat → Option Decimal
  | 0 => (b.onGrid? fine).map (⟨·, fine⟩)
  | steps + 1 =>
    match b.onGrid? (fine + (steps + 1 : Nat)) with
    | some d => some ⟨d, fine + (steps + 1 : Nat)⟩
    | none => b.search fine steps

/-- The shortest decimal that reads back as a positive number of double precision. -/
def Binary.shortest (b : Binary) : Decimal := (b.search (-345) 660).getD ⟨b.mantissa, 0⟩

end Decimal

end FeatureDocs
