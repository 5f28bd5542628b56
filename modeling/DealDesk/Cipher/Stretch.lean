import DealDesk.Cipher.Digest

/-!
# Keys from passphrases, with Argon2id

A passphrase and a salt are stretched into a key by filling a memory of blocks,
each made from the one before it and from one that is chosen by what has been
filled so far, or, in the first half of the first pass, by its place alone.
-/

namespace DealDesk
namespace Cipher
namespace Stretch

/-- Blocks of memory. -/
def memory : Nat := 19456

/-- How often the memory is filled. -/
def passes : Nat := 2

/-- Blocks in each of the four slices of the memory. -/
def sliceLength : Nat := memory / 4

/-- A block has 128 words. -/
abbrev Block := Array UInt64

/-- The sum of two words and twice the product of their lower halves. -/
@[inline] def blend (a b : UInt64) : UInt64 :=
  a + b + 2 * (a &&& 0xffffffff) * (b &&& 0xffffffff)

/-- Four words of a block are mixed. -/
def quarter (block : Block) (i j k l : Nat) : Block :=
  let a := block.getD i 0
  let b := block.getD j 0
  let c := block.getD k 0
  let d := block.getD l 0
  let a := blend a b
  let d := rotate64 (d ^^^ a) 32
  let c := blend c d
  let b := rotate64 (b ^^^ c) 24
  let a := blend a b
  let d := rotate64 (d ^^^ a) 16
  let c := blend c d
  let b := rotate64 (b ^^^ c) 63
  (((block.setIfInBounds i a).setIfInBounds j b).setIfInBounds k c).setIfInBounds l d

/-- Sixteen words of a block are mixed: four columns, then four diagonals. -/
def permute (block : Block) (place : Nat → Nat) : Block :=
  let step (block : Block) (i j k l : Nat) := quarter block (place i) (place j) (place k) (place l)
  let block := step (step (step (step block 0 4 8 12) 1 5 9 13) 2 6 10 14) 3 7 11 15
  step (step (step (step block 0 5 10 15) 1 6 11 12) 2 7 8 13) 3 4 9 14

/-- The words of two blocks, added bit by bit. -/
def add (x y : Block) : Block :=
  Array.zipWith (· ^^^ ·) x y

/-- The block made from two others: their sum, mixed by rows and by columns, and the sum again. -/
def compress (x y : Block) : Block :=
  let sum := add x y
  let rows := (List.range 8).foldl (fun b i => permute b fun t => 16 * i + t) sum
  let both := (List.range 8).foldl
    (fun b i => permute b fun t => 2 * i + 16 * (t / 2) + t % 2) rows
  add both sum

/-- A block of zeros. -/
def zero : Block := Array.replicate 128 0

/-- The words that choose the blocks of a stretch of 128 places, where the place alone decides. -/
def addresses (slice counter : Nat) : Block :=
  let seed := [0, 0, slice, memory, passes, 2, counter].map UInt64.ofNat
  let input := (seed ++ List.replicate (128 - seed.length) 0).toArray
  compress zero (compress zero input)

/-- The block that a word chooses, for a place in a slice of a pass. -/
def chosen (pass slice i : Nat) (word : UInt64) : Nat :=
  let area := (if pass = 0 then slice * sliceLength else memory - sliceLength) + i - 1
  let j := (word &&& 0xffffffff).toNat
  let back := area * (j * j / Nat.pow 2 32) / Nat.pow 2 32
  let first := if pass = 0 ∨ slice = 3 then 0 else (slice + 1) * sliceLength
  (first + (area - 1 - back)) % memory

/-- What is carried from place to place: the memory and the words that choose. -/
structure Filling where
  blocks : Array Block
  words : Block

/-- One block is filled. -/
def fill (pass slice : Nat) (f : Filling) (i : Nat) : Filling :=
  let byPlace := pass = 0 ∧ slice < 2
  let words := if byPlace ∧ i % 128 = 0 then addresses slice (i / 128 + 1) else f.words
  if pass = 0 ∧ slice = 0 ∧ i < 2 then { f with words }
  else
    let place := slice * sliceLength + i
    let before := f.blocks.getD ((place + memory - 1) % memory) zero
    let word := if byPlace then words.getD (i % 128) 0 else before.getD 0 0
    let made := compress before (f.blocks.getD (chosen pass slice i word) zero)
    let made := if pass = 0 then made else add made (f.blocks.getD place zero)
    { blocks := f.blocks.setIfInBounds place made, words }

/-- A slice of the memory is filled from front to back. -/
def fillSlice (pass slice : Nat) (f : Filling) : Filling :=
  (List.range sliceLength).foldl (fill pass slice) f

/-- All passes over all slices. -/
def fillAll (f : Filling) : Filling :=
  (List.range passes).foldl
    (fun f pass => (List.range 4).foldl (fun f slice => fillSlice pass slice f) f) f

/-- The rest of a long digest: the front halves of digests of digests, then a whole one. -/
def lengthen : Nat → Nat → Bytes → Bytes
  | 0, length, last => last.take length
  | k + 1, length, last =>
      if length ≤ 64 then last.take length
      else
        last.take 32
          ++ lengthen k (length - 32) (Digest.blake2b (min 64 (length - 32)) last)

/-- A digest of any length. -/
def longDigest (length : Nat) (message : Bytes) : Bytes :=
  lengthen length length
    (Digest.blake2b (min 64 length) (little 4 length ++ message))

/-- Bytes behind their number. -/
def counted (bs : Bytes) : Bytes :=
  little 4 bs.length ++ bs

/-- What the memory is filled from. -/
def seed (passphrase salt : Bytes) : Bytes :=
  Digest.blake2b 64
    ([1, 32, memory, passes, 19, 2].flatMap (little 4) ++ counted passphrase ++ counted salt
      ++ counted [] ++ counted [])

/-- One of the first two blocks. -/
def firstBlock (seed : Bytes) (i : Nat) : Block :=
  (words64 (longDigest 1024 (seed ++ little 4 i ++ little 4 0))).toArray

/-- The shortest salt. -/
def saltLength : Nat := 8

/-- The 32 bytes of a passphrase and a salt that is long enough. -/
def argon2id (passphrase salt : Bytes) : Bytes :=
  let seed := seed passphrase salt
  let blocks := #[firstBlock seed 0, firstBlock seed 1] ++ Array.replicate (memory - 2) zero
  let last := (fillAll ⟨blocks, zero⟩).blocks.getD (memory - 1) zero
  longDigest 32 (last.toList.flatMap fun w => little 8 w.toNat)

end Stretch
end Cipher
end DealDesk
