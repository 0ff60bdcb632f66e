/-!
Arithmetic modulo the prime 2^255 - 19, on natural numbers below it.
-/

namespace Consortium.Ed25519

def prime : Nat := Nat.pow 2 255 - 19

namespace Field

def add (left right : Nat) : Nat := (left + right) % prime

def sub (left right : Nat) : Nat := (left + prime - right) % prime

def mul (left right : Nat) : Nat := left * right % prime

def neg (value : Nat) : Nat := (prime - value) % prime

/-- The lowest `bits` bits of `exponent` decide which squares are multiplied together. -/
def power (bits base exponent : Nat) : Nat :=
  (List.range bits).foldr
    (fun position product =>
      let square := mul product product
      if exponent.testBit position then mul square base else square)
    1

/-- Every exponent that is needed is below the prime. -/
def pow (base exponent : Nat) : Nat := power 255 base exponent

/-- The inverse of a value other than zero; zero is sent to zero. -/
def inv (value : Nat) : Nat := pow value (prime - 2)

def sqrtMinusOne : Nat :=
  19681161376707505956807079304988542015446066515923890162744021073123829784752

/-- A square root of `numerator / denominator`, if there is one. -/
def sqrtRatio? (numerator denominator : Nat) : Option Nat :=
  let cube := mul denominator (mul denominator denominator)
  let seventh := mul cube (mul cube denominator)
  let root := mul (mul numerator cube) (pow (mul numerator seventh) ((prime - 5) / 8))
  let check := mul denominator (mul root root)
  if check = numerator then some root
  else if check = neg numerator then some (mul root sqrtMinusOne)
  else none

end Field

end Consortium.Ed25519
