import DealDesk.Cipher.Word

/-!
# The BLAKE2b digest

A digest of up to 64 bytes of a message, which is taken in pieces of 128 bytes.
Each piece is mixed into eight words of state in twelve rounds.
-/

namespace DealDesk
namespace Cipher
namespace Digest

/-- The state before the first piece, apart from the parameters. -/
def start : List UInt64 :=
  [0x6a09e667f3bcc908, 0xbb67ae8584caa73b, 0x3c6ef372fe94f82b, 0xa54ff53a5f1d36f1,
    0x510e527fade682d1, 0x9b05688c2b3e6c1f, 0x1f83d9abfb41bd6b, 0x5be0cd19137e2179]

/-- In which order the words of a piece are taken, by round. -/
def schedule : List (List Nat) :=
  [[0, 1, 2, 3, 4, 5, 6, 7, 8, 9, 10, 11, 12, 13, 14, 15],
    [14, 10, 4, 8, 9, 15, 13, 6, 1, 12, 0, 2, 11, 7, 5, 3],
    [11, 8, 12, 0, 5, 2, 15, 13, 10, 14, 3, 6, 7, 1, 9, 4],
    [7, 9, 3, 1, 13, 12, 11, 14, 2, 6, 5, 10, 4, 0, 15, 8],
    [9, 0, 5, 7, 2, 4, 10, 15, 14, 1, 11, 12, 6, 8, 3, 13],
    [2, 12, 6, 10, 0, 11, 8, 3, 4, 13, 7, 5, 15, 14, 1, 9],
    [12, 5, 1, 15, 14, 13, 4, 10, 0, 7, 6, 3, 9, 2, 8, 11],
    [13, 11, 7, 14, 12, 1, 3, 9, 5, 0, 15, 4, 8, 6, 2, 10],
    [6, 15, 14, 9, 11, 3, 0, 8, 12, 2, 13, 7, 1, 4, 10, 5],
    [10, 2, 8, 4, 7, 6, 1, 5, 15, 11, 9, 14, 3, 12, 13, 0],
    [0, 1, 2, 3, 4, 5, 6, 7, 8, 9, 10, 11, 12, 13, 14, 15],
    [14, 10, 4, 8, 9, 15, 13, 6, 1, 12, 0, 2, 11, 7, 5, 3]]

/-- The sixteen words that a piece is mixed into. -/
abbrev Grid := Vector UInt64 16

/-- Four words of the grid are mixed with two words of the piece. -/
def quarter (g : Grid) (i j k l : Fin 16) (x y : UInt64) : Grid :=
  let a := g.get i
  let b := g.get j
  let c := g.get k
  let d := g.get l
  let a := a + b + x
  let d := rotate64 (d ^^^ a) 32
  let c := c + d
  let b := rotate64 (b ^^^ c) 24
  let a := a + b + y
  let d := rotate64 (d ^^^ a) 16
  let c := c + d
  let b := rotate64 (b ^^^ c) 63
  place (place (place (place g i a) j b) k c) l d

/-- The places of the columns and of the diagonals. -/
def lines : List (Fin 16 × Fin 16 × Fin 16 × Fin 16) :=
  [(0, 4, 8, 12), (1, 5, 9, 13), (2, 6, 10, 14), (3, 7, 11, 15),
    (0, 5, 10, 15), (1, 6, 11, 12), (2, 7, 8, 13), (3, 4, 9, 14)]

/-- One round: two words of the piece for each column and diagonal, in the order given. -/
def round (piece : Array UInt64) : Grid → List (Fin 16 × Fin 16 × Fin 16 × Fin 16) →
    List Nat → Grid
  | g, (i, j, k, l) :: lines, x :: y :: order =>
      round piece (quarter g i j k l (piece.getD x 0) (piece.getD y 0)) lines order
  | g, _, _ => g

/-- A piece is mixed into the state; `count` bytes have been taken, this piece included. -/
def absorb (state : List UInt64) (piece : Bytes) (count : Nat) (isLast : Bool) :
    List UInt64 :=
  let words := (words64 (piece ++ List.replicate (128 - piece.length) 0)).toArray
  let tail := (start.drop 4).zipWith (· ^^^ ·)
    [UInt64.ofNat count, UInt64.ofNat (count / Nat.pow 2 64),
      if isLast then 0xffffffffffffffff else 0, 0]
  let ws := state ++ start.take 4 ++ tail
  let g : Grid := Vector.ofFn fun i => ws.getD i 0
  let mixed := (schedule.foldl (fun g order => round words g lines order) g).toList
  state.zipWith (· ^^^ ·) (mixed.zipWith (· ^^^ ·) (mixed.drop 8))

/-- All pieces are mixed into the state, of which `count` bytes went before. -/
def absorbAll (state : List UInt64) (count : Nat) : List Bytes → List UInt64
  | [] => absorb state [] count true
  | [p] => absorb state p (count + p.length) true
  | p :: q :: r => absorbAll (absorb state p (count + p.length) false) (count + p.length) (q :: r)

/-- The digest of so many bytes, at most 64. -/
def blake2b (length : Nat) (message : Bytes) : Bytes :=
  let parameters := 0x01010000 ^^^ UInt64.ofNat length
  let state := (start.take 1).map (· ^^^ parameters) ++ start.drop 1
  let final := absorbAll state 0 (pieces 127 message)
  (final.flatMap fun w => little 8 w.toNat).take length

end Digest
end Cipher
end DealDesk
