import Consortium.Bytes.Basic
import Consortium.Crypto.Word

/-!
SHA-512.
-/

namespace Consortium.Sha512

open Consortium.Word

def blockSize : Nat := 128

def roundConstants : List UInt64 :=
  [0x428a2f98d728ae22, 0x7137449123ef65cd, 0xb5c0fbcfec4d3b2f, 0xe9b5dba58189dbbc,
    0x3956c25bf348b538, 0x59f111f1b605d019, 0x923f82a4af194f9b, 0xab1c5ed5da6d8118,
    0xd807aa98a3030242, 0x12835b0145706fbe, 0x243185be4ee4b28c, 0x550c7dc3d5ffb4e2,
    0x72be5d74f27b896f, 0x80deb1fe3b1696b1, 0x9bdc06a725c71235, 0xc19bf174cf692694,
    0xe49b69c19ef14ad2, 0xefbe4786384f25e3, 0x0fc19dc68b8cd5b5, 0x240ca1cc77ac9c65,
    0x2de92c6f592b0275, 0x4a7484aa6ea6e483, 0x5cb0a9dcbd41fbd4, 0x76f988da831153b5,
    0x983e5152ee66dfab, 0xa831c66d2db43210, 0xb00327c898fb213f, 0xbf597fc7beef0ee4,
    0xc6e00bf33da88fc2, 0xd5a79147930aa725, 0x06ca6351e003826f, 0x142929670a0e6e70,
    0x27b70a8546d22ffc, 0x2e1b21385c26c926, 0x4d2c6dfc5ac42aed, 0x53380d139d95b3df,
    0x650a73548baf63de, 0x766a0abb3c77b2a8, 0x81c2c92e47edaee6, 0x92722c851482353b,
    0xa2bfe8a14cf10364, 0xa81a664bbc423001, 0xc24b8b70d0f89791, 0xc76c51a30654be30,
    0xd192e819d6ef5218, 0xd69906245565a910, 0xf40e35855771202a, 0x106aa07032bbd1b8,
    0x19a4c116b8d2d0c8, 0x1e376c085141ab53, 0x2748774cdf8eeb99, 0x34b0bcb5e19b48a8,
    0x391c0cb3c5c95a63, 0x4ed8aa4ae3418acb, 0x5b9cca4f7763e373, 0x682e6ff3d6b2b8a3,
    0x748f82ee5defb2fc, 0x78a5636f43172f60, 0x84c87814a1f0ab72, 0x8cc702081a6439ec,
    0x90befffa23631e28, 0xa4506cebde82bde9, 0xbef9a3f7b2c67915, 0xc67178f2e372532b,
    0xca273eceea26619c, 0xd186b8c721c0c207, 0xeada7dd6cde0eb1e, 0xf57d4f7fee6ed178,
    0x06f067aa72176fba, 0x0a637dc5a2c898a6, 0x113f9804bef90dae, 0x1b710b35131c471b,
    0x28db77f523047d84, 0x32caab7b40c72493, 0x3c9ebe0a15c9bebc, 0x431d67c49c100d4c,
    0x4cc5d4becb3e42b6, 0x597f299cfc657e2a, 0x5fcb6fab3ad6faec, 0x6c44198c4a475817]

def wordOfBytes (bytes : List UInt8) : UInt64 :=
  bytes.foldl (fun word byte => (word <<< 8) ||| byte.toUInt64) 0

/-- The message, a set bit, zeros up to a whole block, and the length in bits in 16 bytes. -/
def pad (message : List UInt8) : List UInt8 :=
  let zeros := (2 * blockSize - (message.length + 17) % blockSize) % blockSize
  message ++ 0x80 :: List.replicate zeros 0 ++
    (Bytes.littleEndian 16 (8 * message.length)).reverse

/-- The message words of the next sixteen rounds, of which the first is used up first. -/
abbrev Window := Vector UInt64 16

def wordsOfBlock (block : List UInt8) : Window :=
  Vector.ofFn fun index => wordOfBytes ((block.drop (8 * index.val)).take 8)

/-- Replaces the word used in round `round` by the one for sixteen rounds later. -/
def extend (round : Nat) (window : Window) : Window :=
  let fifteenBefore := window[(round + 1) % 16]
  let twoBefore := window[(round + 14) % 16]
  let low := rotateRight fifteenBefore 1 ^^^ rotateRight fifteenBefore 8 ^^^ (fifteenBefore >>> 7)
  let high := rotateRight twoBefore 19 ^^^ rotateRight twoBefore 61 ^^^ (twoBefore >>> 6)
  window.set (round % 16) (window[round % 16] + low + window[(round + 9) % 16] + high)

def roundStep (constant word : UInt64) (state : Vector UInt64 8) : Vector UInt64 8 :=
  let a := state[0]
  let e := state[4]
  let choice := (e &&& state[5]) ^^^ (~~~e &&& state[6])
  let majority := (a &&& state[1]) ^^^ (a &&& state[2]) ^^^ (state[1] &&& state[2])
  let first := state[7] + (rotateRight e 14 ^^^ rotateRight e 18 ^^^ rotateRight e 41) +
    choice + constant + word
  let second := (rotateRight a 28 ^^^ rotateRight a 34 ^^^ rotateRight a 39) + majority
  #v[first + second, a, state[1], state[2], state[3] + first, e, state[5], state[6]]

def runRounds : (constants : List UInt64) → (round : Nat) → Window → Vector UInt64 8 →
    Vector UInt64 8
  | [], _, _, state => state
  | constant :: rest, round, window, state =>
      runRounds rest (round + 1) (extend round window)
        (roundStep constant window[round % 16] state)

def compress (chain : Vector UInt64 8) (block : List UInt8) : Vector UInt64 8 :=
  let mixed := runRounds roundConstants 0 (wordsOfBlock block) chain
  Vector.zipWith (· + ·) chain mixed

def finalChain (message : List UInt8) : Vector UInt64 8 :=
  let padded := pad message
  (List.range (padded.length / blockSize)).foldl
    (fun chain index => compress chain ((padded.drop (blockSize * index)).take blockSize))
    squareRoots

def digest (message : List UInt8) : Block 64 :=
  let chain := finalChain message
  Vector.ofFn fun index =>
    (chain[index.val / 8] >>> UInt64.ofNat (56 - 8 * (index.val % 8))).toUInt8

end Consortium.Sha512
