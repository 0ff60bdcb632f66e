import Consortium.Bytes.Basic
import Consortium.Crypto.Field

/-!
The twisted Edwards curve -x² + y² = 1 + d x² y² over the prime field, in extended coordinates: the
point (x, y) is kept as (X, Y, Z, T) with x = X/Z, y = Y/Z and x y = T/Z. Its formulas for sums hold
for every pair of points.
-/

namespace Consortium.Ed25519

def groupOrder : Nat := Nat.pow 2 252 + 27742317777372353535851937790883648493

def coefficient : Nat :=
  37095705934669439343138083508754565189542113879843219016388785533085940283555

structure Point where
  x : Nat
  y : Nat
  z : Nat
  t : Nat
deriving DecidableEq

namespace Point

open Consortium.Ed25519.Field

def identity : Point := ⟨0, 1, 1, 0⟩

def ofAffine (x y : Nat) : Point := ⟨x, y, 1, mul x y⟩

def base : Point :=
  ofAffine 15112221349535400772501151409588531511454012693041857206046113283949847762202
    46316835694926478169428394003475163141307993866256225615783033603165251855960

def negate (point : Point) : Point := ⟨neg point.x, point.y, point.z, neg point.t⟩

def add (left right : Point) : Point :=
  let a := mul (sub left.y left.x) (sub right.y right.x)
  let b := mul (Field.add left.y left.x) (Field.add right.y right.x)
  let c := mul (mul left.t right.t) (mul 2 coefficient)
  let d := mul (mul left.z right.z) 2
  let e := sub b a
  let f := sub d c
  let g := Field.add d c
  let h := Field.add b a
  ⟨mul e f, mul g h, mul f g, mul e h⟩

def double (point : Point) : Point :=
  let a := mul point.x point.x
  let b := mul point.y point.y
  let c := mul 2 (mul point.z point.z)
  let sum := Field.add point.x point.y
  let e := sub (sub (mul sum sum) a) b
  let g := sub b a
  let f := sub g c
  let h := neg (Field.add a b)
  ⟨mul e f, mul g h, mul f g, mul e h⟩

def multiple (scalar : Nat) (point : Point) : Point :=
  (List.range 255).foldr
    (fun position sum =>
      let doubled := sum.double
      if scalar.testBit position then doubled.add point else doubled)
    identity

/-- What the top bit of 32 bytes counts. -/
def topBit : Nat := Nat.pow 2 255

def compress (point : Point) : Block 32 :=
  let inverse := inv point.z
  let x := mul point.x inverse
  let y := mul point.y inverse
  let value := y + x % 2 * topBit
  Vector.ofFn fun index => UInt8.ofNat (value >>> (8 * index.val))

/-- Reads a compressed point. A y that is too large is reduced, and the top bit may be set when x is
zero. -/
def decompress? (bytes : Block 32) : Option Point :=
  let value := Bytes.toNat bytes.toList
  let y := value % topBit % prime
  let isOdd := value / topBit
  let square := mul y y
  let numerator := sub square 1
  let denominator := Field.add (mul coefficient square) 1
  (sqrtRatio? numerator denominator).map fun x =>
    ofAffine (if x % 2 = isOdd then x else neg x) y

end Point

end Consortium.Ed25519
