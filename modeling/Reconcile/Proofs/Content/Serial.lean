import Reconcile.Content

/-!
The check taken bit by bit. A shift of the register is linear in exclusive or, so that the bits of a
content can be added to the register one by one, before their shifts, or many at once. Of the eight
shifts of a byte the table holds what they do to the low byte of the register; the bits above it only
move down. `foldl_takeBit` adds up to a register's width of bits at once, and `feed_eq_takeBit` goes
through a content by its bits.
-/

namespace Reconcile.Checksum

/-! ### Shifts -/

theorem bitStep_of_even {register : Register} (even : register.getLsbD 0 = false) :
    bitStep register = register >>> 1 := by
  rw [bitStep, even, if_neg Bool.false_ne_true]

theorem bitStep_of_odd {register : Register} (odd : register.getLsbD 0 = true) :
    bitStep register = register >>> 1 ^^^ polynomial := by
  rw [bitStep, odd, if_pos rfl]

theorem bitStep_xor (left right : Register) :
    bitStep (left ^^^ right) = bitStep left ^^^ bitStep right := by
  have low : (left ^^^ right).getLsbD 0 = (left.getLsbD 0 ^^ right.getLsbD 0) := BitVec.getLsbD_xor
  cases first : left.getLsbD 0 <;> cases second : right.getLsbD 0 <;> rw [first, second] at low
  · rw [bitStep_of_even low, bitStep_of_even first, bitStep_of_even second,
      BitVec.ushiftRight_xor_distrib]
  · rw [bitStep_of_odd low, bitStep_of_even first, bitStep_of_odd second,
      BitVec.ushiftRight_xor_distrib, BitVec.xor_assoc]
  · rw [bitStep_of_odd low, bitStep_of_odd first, bitStep_of_even second,
      BitVec.ushiftRight_xor_distrib]
    ac_rfl
  · -- The polynomial was added twice, which is not at all.
    have cancel : ∀ a b : Register, a ^^^ polynomial ^^^ (b ^^^ polynomial) = a ^^^ b := by
      intro a b
      calc a ^^^ polynomial ^^^ (b ^^^ polynomial)
          = a ^^^ b ^^^ (polynomial ^^^ polynomial) := by ac_rfl
        _ = a ^^^ b := by rw [BitVec.xor_self, BitVec.xor_zero]
    rw [bitStep_of_even low, bitStep_of_odd first, bitStep_of_odd second,
      BitVec.ushiftRight_xor_distrib, cancel]

def shifts (count : Nat) (register : Register) : Register := Nat.repeat bitStep count register

theorem shifts_succ (count : Nat) (register : Register) :
    shifts (count + 1) register = shifts count (bitStep register) := by
  induction count with
  | zero => rfl
  | succ count ih =>
    show bitStep (shifts (count + 1) register) = bitStep (shifts count (bitStep register))
    rw [ih]

theorem shifts_xor (count : Nat) (left right : Register) :
    shifts count (left ^^^ right) = shifts count left ^^^ shifts count right := by
  induction count generalizing left right with
  | zero => rfl
  | succ count ih => rw [shifts_succ, shifts_succ, shifts_succ, bitStep_xor, ih]

theorem shifts_of_clear {count : Nat} {register : Register}
    (clear : ∀ place < count, register.getLsbD place = false) :
    shifts count register = register >>> count := by
  induction count generalizing register with
  | zero => exact (BitVec.ushiftRight_zero register).symm
  | succ count ih =>
    have even : register.getLsbD 0 = false := clear 0 (by omega)
    have rest : ∀ place < count, (register >>> 1).getLsbD place = false := by
      intro place bound
      rw [BitVec.getLsbD_ushiftRight]
      exact clear (1 + place) (by omega)
    rw [shifts_succ, bitStep_of_even even, ih rest, ← BitVec.shiftRight_add, Nat.add_comm]

theorem shifts_shiftLeft {count : Nat} {register : Register}
    (room : ∀ place, 32 ≤ count + place → register.getLsbD place = false) :
    shifts count (register <<< count) = register := by
  rw [shifts_of_clear fun place bound => by simp [bound]]
  refine BitVec.eq_of_getLsbD_eq fun place bound => ?_
  rw [BitVec.getLsbD_ushiftRight, BitVec.getLsbD_shiftLeft]
  by_cases inside : count + place < 32
  · simp [inside]
  · simp [inside, room place (by omega)]

/-! ### Bytes -/

theorem table_get (low : BitVec 8) : table.get low.toFin = shifts 8 (low.setWidth 32) := by
  have bound : low.toNat < 256 := low.isLt
  show table[low.toNat] = _
  rw [← BitVec.ofNat_toNat]
  exact Vector.getElem_ofFn bound

theorem split_low (register : Register) :
    register = (register >>> 8) <<< 8 ^^^ (register.setWidth 8).setWidth 32 := by
  refine BitVec.eq_of_getLsbD_eq fun place bound => ?_
  simp only [BitVec.getLsbD_xor, BitVec.getLsbD_shiftLeft, BitVec.getLsbD_ushiftRight,
    BitVec.getLsbD_setWidth, bound, decide_true, Bool.true_and]
  by_cases low : place < 8
  · simp [low]
  · simp [low, show 8 + (place - 8) = place by omega]

/-- The step of a byte adds it to the register and makes its eight shifts. -/
theorem byteStep_eq (register : Register) (byte : UInt8) :
    byteStep register byte = shifts 8 (register ^^^ byte.toBitVec.setWidth 32) := by
  have above : shifts 8 ((register >>> 8) <<< 8) = register >>> 8 := by
    refine shifts_shiftLeft fun place bound => ?_
    rw [BitVec.getLsbD_ushiftRight]
    exact BitVec.getLsbD_of_ge register (8 + place) bound
  have parts : register ^^^ byte.toBitVec.setWidth 32 =
      (register >>> 8) <<< 8 ^^^ (register.setWidth 8 ^^^ byte.toBitVec).setWidth 32 := by
    rw [BitVec.setWidth_xor, ← BitVec.xor_assoc, ← split_low]
  rw [byteStep, table_get, parts, shifts_xor, above]

/-! ### Bits -/

/-- Takes in one bit: it is added to the low bit of the register, which is shifted out, and the
divisor is added when that bit was set. -/
def takeBit (divisor register : Register) (bit : Bool) : Register :=
  let added := register ^^^ (BitVec.ofBool bit).setWidth 32
  if added.getLsbD 0 then (added >>> 1) ^^^ divisor else added >>> 1

def bitsOf (byte : UInt8) : List Bool := (List.range 8).map byte.toBitVec.getLsbD

theorem length_bitsOf (byte : UInt8) : (bitsOf byte).length = 8 := by simp [bitsOf]

def messageBits (bytes : Bytes) : List Bool := bytes.flatMap bitsOf

def word (bits : List Bool) : Register := (BitVec.ofBoolListLE bits).setWidth 32

theorem getLsbD_word (bits : List Bool) (place : Nat) :
    (word bits).getLsbD place = (decide (place < 32) && bits.getD place false) := by
  rw [word, BitVec.getLsbD_setWidth, BitVec.getLsbD_ofBoolListLE]

theorem word_cons (bit : Bool) (rest : List Bool) :
    word (bit :: rest) = (BitVec.ofBool bit).setWidth 32 ^^^ word rest <<< 1 := by
  refine BitVec.eq_of_getLsbD_eq fun place bound => ?_
  rw [BitVec.getLsbD_xor, BitVec.getLsbD_shiftLeft, getLsbD_word, getLsbD_word]
  cases place with
  | zero => simp
  | succ place => simp [bound, show place < 32 by omega]

theorem word_bitsOf (byte : UInt8) : word (bitsOf byte) = byte.toBitVec.setWidth 32 := by
  refine BitVec.eq_of_getLsbD_eq fun place bound => ?_
  rw [getLsbD_word, BitVec.getLsbD_setWidth, bitsOf]
  by_cases inside : place < 8
  · simp [List.getD_eq_getElem?_getD, inside]
  · simp [List.getD_eq_getElem?_getD, inside, BitVec.getLsbD_of_ge byte.toBitVec place (by omega)]

/-- Bits that fit into a register can be added before all of their shifts. -/
theorem foldl_takeBit {bits : List Bool} (fits : bits.length ≤ 32) (register : Register) :
    bits.foldl (takeBit polynomial) register = shifts bits.length (register ^^^ word bits) := by
  induction bits generalizing register with
  | nil => exact (BitVec.xor_zero (x := register)).symm
  | cons bit rest ih =>
    rw [List.length_cons] at fits
    -- The bits that follow wait one place higher while the first one is shifted out.
    have moved : bitStep (word rest <<< 1) = word rest := by
      show shifts 1 (word rest <<< 1) = word rest
      refine shifts_shiftLeft fun place bound => ?_
      rw [getLsbD_word, List.getD_eq_getElem?_getD, List.getElem?_eq_none (by omega)]
      exact Bool.and_false _
    calc (bit :: rest).foldl (takeBit polynomial) register
        = rest.foldl (takeBit polynomial) (bitStep (register ^^^ (BitVec.ofBool bit).setWidth 32)) := rfl
      _ = shifts rest.length
            (bitStep (register ^^^ (BitVec.ofBool bit).setWidth 32) ^^^ bitStep (word rest <<< 1)) := by
          rw [ih (by omega), moved]
      _ = shifts rest.length (bitStep (register ^^^ word (bit :: rest))) := by
          rw [← bitStep_xor, word_cons, BitVec.xor_assoc]
      _ = shifts (bit :: rest).length (register ^^^ word (bit :: rest)) := (shifts_succ _ _).symm

theorem byteStep_eq_takeBit (register : Register) (byte : UInt8) :
    byteStep register byte = (bitsOf byte).foldl (takeBit polynomial) register := by
  have fits : (bitsOf byte).length ≤ 32 := by
    rw [length_bitsOf]
    decide
  rw [foldl_takeBit fits, byteStep_eq, word_bitsOf, length_bitsOf]

theorem feed_eq_takeBit (register : Register) (bytes : Bytes) :
    feed register bytes = (messageBits bytes).foldl (takeBit polynomial) register := by
  have step : byteStep = fun register byte => (bitsOf byte).foldl (takeBit polynomial) register :=
    funext fun register => funext fun byte => byteStep_eq_takeBit register byte
  rw [feed, messageBits, List.foldl_flatMap, step]

/-- The check through the table is the plain one. It starts with all bits set, takes in the content
bit by bit, of each byte the lowest bit first, under the reflected IEEE polynomial, and flips all
bits at the end. -/
theorem crc32_bit_by_bit (bytes : Bytes) :
    crc32 bytes =
      (messageBits bytes).foldl (takeBit 0xEDB88320#32) 0xFFFFFFFF#32 ^^^ 0xFFFFFFFF#32 := by
  have flipped : ∀ register : Register, ~~~register = register ^^^ 0xFFFFFFFF#32 := fun register =>
    (BitVec.xor_allOnes (x := register)).symm
  rw [crc32, feed_eq_takeBit, flipped]
  rfl

example : crc32 (Bytes.ofText "123456789") = 0xCBF43926#32 := by decide +kernel

end Reconcile.Checksum
