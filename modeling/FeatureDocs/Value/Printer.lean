import FeatureDocs.Text.Quoted
import FeatureDocs.Value.Basic

/-!
# Values as text

How messages show a value. A text stands alone as it is and inside a container between quotes. A
number with a fraction has the fewest digits that read back; it is written out when its leading
digit stands between the fourth place behind the point and the sixteenth before it, and with an
exponent of two digits or more otherwise.
-/

namespace FeatureDocs

namespace Decimal

/-- The digits with a point after the first and the exponent of ten behind. -/
def scientific (digits : Text) (exponent : Int) : Text :=
  let size := Text.ofNat exponent.natAbs
  digits.take 1 ++ (if digits.length ≤ 1 then [] else '.' :: digits.drop 1) ++
    ['e', if exponent < 0 then '-' else '+'] ++ List.replicate (2 - size.length) '0' ++ size

/-- The digits written out, the first one standing for the given power of ten. -/
def positional (digits : Text) (exponent : Int) : Text :=
  if exponent < 0 then
    "0." ++ List.replicate (-exponent - 1).toNat '0' ++ digits
  else
    let whole := exponent.toNat + 1
    let fraction := digits.drop whole
    digits.take whole ++ List.replicate (whole - digits.length) '0' ++
      '.' :: (if fraction.isEmpty then ['0'] else fraction)

/-- A double-precision number in the fewest digits, if it is finite. -/
def ofBits (bits : UInt64) : Text :=
  let sign : Text := if isNegative bits then ['-'] else []
  let size := sizeBits bits
  if size = 0 then sign ++ "0.0"
  else if size = infinityBits then sign ++ "inf"
  else if infinityBits < size then "nan"
  else
    let d := (Binary.ofBits bits).shortest
    let digits := Text.ofNat d.digits
    let exponent := d.exponent + digits.length - 1
    sign ++ if -4 ≤ exponent ∧ exponent < 16 then positional digits exponent
      else scientific digits exponent

end Decimal

/-- A key inside a container. -/
def Key.quoted : Key → Text
  | .null => "None"
  | .bool true => "True"
  | .bool false => "False"
  | .int i => Text.ofInt i
  | .text t => Text.quoted t

/-- A key by itself. -/
def Key.plain : Key → Text
  | .text t => t
  | k => k.quoted

namespace Value

mutual

/-- A value inside a container. -/
def quoted : Value → Text
  | .null => "None"
  | .bool true => "True"
  | .bool false => "False"
  | .int i => Text.ofInt i
  | .real bits => Decimal.ofBits bits
  | .text t => Text.quoted t
  | .list items => '[' :: Text.join ", " (quotedItems items) ++ "]"
  | .mapping entries => '\x7b' :: Text.join ", " (quotedEntries entries) ++ "\x7d"

/-- The items of a list. -/
def quotedItems : List Value → List Text
  | [] => []
  | v :: vs => v.quoted :: quotedItems vs

/-- The entries of a mapping. -/
def quotedEntries : List (Key × Value) → List Text
  | [] => []
  | (k, v) :: es => (k.quoted ++ ": " ++ v.quoted) :: quotedEntries es

end

/-- A value by itself. -/
def plain : Value → Text
  | .text t => t
  | v => v.quoted

end Value

end FeatureDocs
