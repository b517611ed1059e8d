import Nes.Word

/-! The processor's status register: six flags, and the break bit and the unused bit, which
exist only in the byte that goes to and comes from the stack. -/
namespace Nes

structure Status where
  carry : Bool := false
  zero : Bool := false
  interruptDisable : Bool := false
  decimal : Bool := false
  brk : Bool := false
  unused : Bool := false
  overflow : Bool := false
  negative : Bool := false
  deriving DecidableEq, Repr, Inhabited

namespace Status

def ofByte (byte : UInt8) : Status where
  carry := testBit byte 0
  zero := testBit byte 1
  interruptDisable := testBit byte 2
  decimal := testBit byte 3
  brk := testBit byte 4
  unused := testBit byte 5
  overflow := testBit byte 6
  negative := testBit byte 7

def bits (s : Status) : UInt8 :=
  s.carry.toUInt8 + 2 * s.zero.toUInt8 + 4 * s.interruptDisable.toUInt8 + 8 * s.decimal.toUInt8 +
    16 * s.brk.toUInt8 + 32 * s.unused.toUInt8 + 64 * s.overflow.toUInt8 + 128 * s.negative.toUInt8

def toByte (s : Status) : UInt8 :=
  { s with unused := true }.bits

def breakByte (s : Status) : UInt8 :=
  { s with brk := true, unused := true }.bits

def interruptByte (s : Status) : UInt8 :=
  { s with brk := false, unused := true }.bits

def ofStack (byte : UInt8) : Status :=
  { ofByte byte with brk := false, unused := true }

def withZeroNegative (s : Status) (result : UInt8) : Status :=
  { s with zero := result == 0, negative := testBit result 7 }

theorem ofByteBits (s : Status) : ofByte s.bits = s := by
  obtain ⟨c, z, i, d, b, u, v, n⟩ := s
  revert c z i d b u v n
  decide

end Status
end Nes
