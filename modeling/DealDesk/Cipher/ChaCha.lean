import DealDesk.Cipher.Word

/-!
# The ChaCha20 stream

A block of 64 bytes is made from sixteen words: four constants, eight of the key,
a counter and three of the nonce.  The stream for a message is one block after
the other, and a message is enciphered by adding the stream bit by bit.

**Results.** Enciphering keeps the length, and enciphering twice gives the message.
-/

namespace DealDesk
namespace Cipher

/-- Sixteen words. -/
abbrev Grid := Vector UInt32 16

namespace Grid

/-- Four words of the grid are mixed. -/
def quarter (g : Grid) (i j k l : Fin 16) : Grid :=
  let a := g.get i
  let b := g.get j
  let c := g.get k
  let d := g.get l
  let a := a + b
  let d := rotate32 (d ^^^ a) 16
  let c := c + d
  let b := rotate32 (b ^^^ c) 12
  let a := a + b
  let d := rotate32 (d ^^^ a) 8
  let c := c + d
  let b := rotate32 (b ^^^ c) 7
  place (place (place (place g i a) j b) k c) l d

/-- The four columns are mixed, then the four diagonals. -/
def doubleRound (g : Grid) : Grid :=
  let g := (((g.quarter 0 4 8 12).quarter 1 5 9 13).quarter 2 6 10 14).quarter 3 7 11 15
  (((g.quarter 0 5 10 15).quarter 1 6 11 12).quarter 2 7 8 13).quarter 3 4 9 14

/-- Twenty rounds, two at a time. -/
def rounds (g : Grid) : Grid :=
  (List.range 10).foldl (fun g _ => g.doubleRound) g

/-- The bytes of some of the words. -/
def bytes (ws : List UInt32) : Bytes :=
  ws.flatMap fun w => little 4 w.toNat

/-- The constants in front of every grid. -/
def constants : List UInt32 := [0x61707865, 0x3320646e, 0x79622d32, 0x6b206574]

/-- The grid of a key and four more words, which are a counter and a nonce. -/
def ofKey (key : Bytes) (tail : List UInt32) : Grid :=
  let ws := constants ++ words32 key ++ tail
  Vector.ofFn fun i => ws.getD i 0

end Grid

/-- A block of the stream: the mixed grid added to the grid before mixing. -/
def block (key nonce : Bytes) (counter : UInt32) : Bytes :=
  let g := Grid.ofKey key (counter :: words32 nonce)
  Grid.bytes (Vector.zipWith (· + ·) g g.rounds).toList

/-- The key for a long nonce: the outer words of the mixed grid. -/
def subkey (key start : Bytes) : Bytes :=
  let ws := (Grid.ofKey key (words32 start)).rounds.toList
  Grid.bytes (ws.take 4 ++ ws.drop 12)

/-- A message with the stream added to it, from a block of the stream on. -/
def encipher (key nonce : Bytes) (counter : UInt32) (message : Bytes) : Bytes :=
  if message = [] then []
  else
    List.zipWith (· ^^^ ·) (message.take 64) (block key nonce counter)
      ++ encipher key nonce (counter + 1) (message.drop 64)
termination_by message.length
decreasing_by
  rename_i h
  simp only [List.length_drop]
  have := List.length_pos_iff.2 h
  omega

theorem length_gridBytes (ws : List UInt32) :
    (Grid.bytes ws).length = 4 * ws.length := by
  induction ws with
  | nil => rfl
  | cons w r ih => simp_all [Grid.bytes]; omega

theorem length_block (key nonce : Bytes) (counter : UInt32) :
    (block key nonce counter).length = 64 := by
  simp [block, length_gridBytes]

theorem zipWith_xor_twice
    {m s : Bytes} (h : m.length ≤ s.length) :
    List.zipWith (· ^^^ ·) (List.zipWith (· ^^^ ·) m s) s = m := by
  induction m generalizing s with
  | nil => rfl
  | cons a m ih =>
      cases s with
      | nil => simp at h
      | cons b s =>
          simp only [List.zipWith_cons_cons, List.cons.injEq]
          refine ⟨?_, ih (by simpa using h)⟩
          rw [UInt8.xor_assoc, UInt8.xor_self, UInt8.xor_zero]

@[simp] theorem length_encipher
    (key nonce : Bytes) (counter : UInt32) (message : Bytes) :
    (encipher key nonce counter message).length = message.length := by
  fun_induction encipher key nonce counter message with
  | case1 => rfl
  | case2 counter message h ih =>
      simp only [List.length_append, List.length_zipWith, List.length_take, length_block, ih,
        List.length_drop]
      omega

/-- The stream added twice leaves the message. -/
theorem encipher_encipher
    (key nonce : Bytes) (counter : UInt32) (message : Bytes) :
    encipher key nonce counter (encipher key nonce counter message) = message := by
  fun_induction encipher key nonce counter message with
  | case1 => simp [encipher]
  | case2 counter message h ih =>
      have hlen : (List.zipWith (· ^^^ ·) (message.take 64) (block key nonce counter)).length
          = min 64 message.length := by
        simp [length_block, Nat.min_comm]
      generalize hs : List.zipWith (· ^^^ ·) (message.take 64) (block key nonce counter) = start
      rw [hs] at hlen
      have hpos := List.length_pos_iff.2 h
      rw [encipher, if_neg (by
        intro hnil
        have := congrArg List.length hnil
        simp only [List.length_append, List.length_nil] at this
        omega)]
      by_cases hm : message.length ≤ 64
      · have hdrop : message.drop 64 = [] := List.drop_eq_nil_of_le hm
        have htake : message.take 64 = message := List.take_of_length_le hm
        rw [hdrop, encipher, if_pos rfl, List.append_nil, List.take_of_length_le (by omega),
          List.drop_eq_nil_of_le (by omega), encipher, if_pos rfl, ← hs, htake,
          zipWith_xor_twice (by rw [length_block]; exact hm), List.append_nil]
      · have h64 : start.length = 64 := by omega
        rw [List.take_append_of_le_length (by omega), List.take_of_length_le (by omega),
          List.drop_append_of_le_length (by omega), List.drop_eq_nil_of_le (by omega),
          List.nil_append, ih, ← hs, zipWith_xor_twice (by rw [length_block, List.length_take]; omega),
          List.take_append_drop]

end Cipher
end DealDesk
