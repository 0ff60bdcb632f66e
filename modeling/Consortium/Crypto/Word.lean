/-!
Words of 64 bits, on which both hash functions work.
-/

namespace Consortium.Word

def rotateRight (word : UInt64) (amount : UInt64) : UInt64 :=
  (word >>> amount) ||| (word <<< (64 - amount))

/-- The first 64 bits of the fractional parts of the square roots of the first eight primes. Both
hash functions start from them. -/
def squareRoots : Vector UInt64 8 :=
  #v[0x6a09e667f3bcc908, 0xbb67ae8584caa73b, 0x3c6ef372fe94f82b, 0xa54ff53a5f1d36f1,
    0x510e527fade682d1, 0x9b05688c2b3e6c1f, 0x1f83d9abfb41bd6b, 0x5be0cd19137e2179]

end Consortium.Word
