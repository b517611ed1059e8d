/-! Bits of a byte, and addresses made of two bytes, the low one first in memory. -/
namespace Nes

def testBit (byte : UInt8) (i : Nat) : Bool :=
  byte.toNat.testBit i

def word (low high : UInt8) : UInt16 :=
  UInt16.ofNat (256 * high.toNat + low.toNat)

def lowByte (w : UInt16) : UInt8 :=
  UInt8.ofNat w.toNat

def highByte (w : UInt16) : UInt8 :=
  UInt8.ofNat (w.toNat / 256)

def samePage (v w : UInt16) : Bool :=
  highByte v == highByte w

def weight (i : Nat) : Nat :=
  1 <<< i

def field (w : UInt16) (low size : Nat) : Nat :=
  w.toNat / weight low % weight size

def withField (w : UInt16) (low size value : Nat) : UInt16 :=
  UInt16.ofNat
    (w.toNat / weight (low + size) * weight (low + size) + value % weight size * weight low +
      w.toNat % weight low)

instance decidableForallByte {P : UInt8 → Prop} [DecidablePred P] :
    Decidable (∀ byte, P byte) :=
  decidable_of_iff (∀ i : Fin 256, P (UInt8.ofNat i))
    ⟨fun table byte => UInt8.ofNat_toNat (x := byte) ▸ table ⟨byte.toNat, byte.toNat_lt⟩,
      fun all i => all (UInt8.ofNat i)⟩

theorem weightPos (i : Nat) : 0 < weight i := by
  rw [weight, Nat.one_shiftLeft]
  exact Nat.two_pow_pos i

theorem weightAdd (i j : Nat) : weight (i + j) = weight i * weight j := by
  rw [weight, Nat.one_shiftLeft, Nat.pow_add, weight, weight, Nat.one_shiftLeft, Nat.one_shiftLeft]

theorem toNatWord (low high : UInt8) : (word low high).toNat = 256 * high.toNat + low.toNat := by
  have hl := low.toNat_lt
  have hh := high.toNat_lt
  simp [word]
  omega

theorem lowByteWord (low high : UInt8) : lowByte (word low high) = low := by
  apply UInt8.toNat_inj.mp
  have hl := low.toNat_lt
  simp [lowByte, toNatWord]

theorem highByteWord (low high : UInt8) : highByte (word low high) = high := by
  apply UInt8.toNat_inj.mp
  have hl := low.toNat_lt
  have hh := high.toNat_lt
  simp [highByte, toNatWord]
  omega

theorem wordBytes (w : UInt16) : word (lowByte w) (highByte w) = w := by
  apply UInt16.toNat_inj.mp
  have h := w.toNat_lt
  simp [toNatWord, lowByte, highByte]
  omega

theorem toNatWithField (w : UInt16) {low size : Nat} (fits : low + size ≤ 16) (value : Nat) :
    (withField w low size value).toNat =
      w.toNat / weight (low + size) * weight (low + size) + value % weight size * weight low +
        w.toNat % weight low := by
  have below : value % weight size * weight low + w.toNat % weight low < weight (low + size) := by
    have hv := Nat.mod_lt value (weightPos size)
    have hw := Nat.mod_lt w.toNat (weightPos low)
    calc value % weight size * weight low + w.toNat % weight low
        < (value % weight size + 1) * weight low := by rw [Nat.add_mul]; omega
      _ ≤ weight size * weight low := Nat.mul_le_mul_right _ hv
      _ = weight (low + size) := by rw [weightAdd, Nat.mul_comm]
  have whole : weight (16 - (low + size)) * weight (low + size) = 65536 := by
    rw [← weightAdd, Nat.sub_add_cancel fits]
    rfl
  have high : w.toNat / weight (low + size) < weight (16 - (low + size)) :=
    Nat.div_lt_of_lt_mul (by rw [Nat.mul_comm, whole]; exact w.toNat_lt)
  have room := Nat.mul_le_mul_right (weight (low + size)) high
  rw [whole, Nat.succ_mul] at room
  unfold withField
  rw [UInt16.toNat_ofNat']
  exact Nat.mod_eq_of_lt (by omega)

end Nes
