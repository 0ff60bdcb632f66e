import Consortium.Bytes.Basic
import Consortium.Crypto.Word

/-!
BLAKE2b with a digest of 256 bits and no key.
-/

namespace Consortium.Blake2b

open Consortium.Word

def digestSize : Nat := 32

def blockSize : Nat := 128

def schedules : Vector (Vector (Fin 16) 16) 10 :=
  #v[#v[0, 1, 2, 3, 4, 5, 6, 7, 8, 9, 10, 11, 12, 13, 14, 15],
    #v[14, 10, 4, 8, 9, 15, 13, 6, 1, 12, 0, 2, 11, 7, 5, 3],
    #v[11, 8, 12, 0, 5, 2, 15, 13, 10, 14, 3, 6, 7, 1, 9, 4],
    #v[7, 9, 3, 1, 13, 12, 11, 14, 2, 6, 5, 10, 4, 0, 15, 8],
    #v[9, 0, 5, 7, 2, 4, 10, 15, 14, 1, 11, 12, 6, 8, 3, 13],
    #v[2, 12, 6, 10, 0, 11, 8, 3, 4, 13, 7, 5, 15, 14, 1, 9],
    #v[12, 5, 1, 15, 14, 13, 4, 10, 0, 7, 6, 3, 9, 2, 8, 11],
    #v[13, 11, 7, 14, 12, 1, 3, 9, 5, 0, 15, 4, 8, 6, 2, 10],
    #v[6, 15, 14, 9, 11, 3, 0, 8, 12, 2, 13, 7, 1, 4, 10, 5],
    #v[10, 2, 8, 4, 7, 6, 1, 5, 15, 11, 9, 14, 3, 12, 13, 0]]

def rounds : Nat := 12

def wordOfBytes (bytes : List UInt8) : UInt64 :=
  bytes.foldr (fun byte word => (word <<< 8) ||| byte.toUInt64) 0

def wordsOfBlock (block : List UInt8) : Vector UInt64 16 :=
  Vector.ofFn fun index => wordOfBytes ((block.drop (8 * index.val)).take 8)

def mix (a b c d : Fin 16) (first second : UInt64) (state : Vector UInt64 16) :
    Vector UInt64 16 :=
  let a₁ := state[a] + state[b] + first
  let d₁ := rotateRight (state[d] ^^^ a₁) 32
  let c₁ := state[c] + d₁
  let b₁ := rotateRight (state[b] ^^^ c₁) 24
  let a₂ := a₁ + b₁ + second
  let d₂ := rotateRight (d₁ ^^^ a₂) 16
  let c₂ := c₁ + d₂
  let b₂ := rotateRight (b₁ ^^^ c₂) 63
  (((state.set a a₂).set b b₂).set c c₂).set d d₂

def round (message : Vector UInt64 16) (schedule : Vector (Fin 16) 16)
    (state : Vector UInt64 16) : Vector UInt64 16 :=
  state
    |> mix 0 4 8 12 message[schedule[0]] message[schedule[1]]
    |> mix 1 5 9 13 message[schedule[2]] message[schedule[3]]
    |> mix 2 6 10 14 message[schedule[4]] message[schedule[5]]
    |> mix 3 7 11 15 message[schedule[6]] message[schedule[7]]
    |> mix 0 5 10 15 message[schedule[8]] message[schedule[9]]
    |> mix 1 6 11 12 message[schedule[10]] message[schedule[11]]
    |> mix 2 7 8 13 message[schedule[12]] message[schedule[13]]
    |> mix 3 4 9 14 message[schedule[14]] message[schedule[15]]

def scheduleOfRound (index : Nat) : Vector (Fin 16) 16 :=
  schedules[index % 10]

/-- Mixes a block into the chain; `length` counts the bytes up to the end of the block. -/
def compress (chain : Vector UInt64 8) (block : List UInt8) (length : Nat) (isLast : Bool) :
    Vector UInt64 8 :=
  let message := wordsOfBlock block
  let start : Vector UInt64 16 := chain ++ squareRoots
  let counted := start.set 12 (start[12] ^^^ UInt64.ofNat length)
  let flagged := if isLast then counted.set 14 (counted[14] ^^^ 0xffffffffffffffff) else counted
  let mixed := (List.range rounds).foldl
    (fun state index => round message (scheduleOfRound index) state) flagged
  Vector.ofFn fun index =>
    chain[index] ^^^ mixed[index.val] ^^^ mixed[index.val + 8]

def blockCount (length : Nat) : Nat := max 1 ((length + blockSize - 1) / blockSize)

/-- The chain before the first block: its first word tells the size of the digest. -/
def parameters : Vector UInt64 8 :=
  squareRoots.mapIdx fun index word =>
    if index = 0 then word ^^^ 0x01010000 ^^^ UInt64.ofNat digestSize else word

def finalChain (message : List UInt8) : Vector UInt64 8 :=
  let length := message.length
  let count := blockCount length
  (List.range count).foldl
    (fun chain index =>
      let block := (message.drop (blockSize * index)).take blockSize
      compress chain block (min length (blockSize * (index + 1))) (index + 1 == count))
    parameters

def digest (message : List UInt8) : Block 32 :=
  let chain := finalChain message
  Vector.ofFn fun index =>
    (chain[index.val / 8] >>> UInt64.ofNat (8 * (index.val % 8))).toUInt8

def digestParts (parts : List (List UInt8)) : Block 32 := digest parts.flatten

end Consortium.Blake2b
