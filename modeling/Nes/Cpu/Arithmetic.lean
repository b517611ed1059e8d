import Nes.Cpu.Registers

/-! Arithmetic on bytes and its effect on the flags. The adder has no decimal mode. -/
namespace Nes

abbrev Alteration := UInt8 → Status → UInt8 × Status

namespace Alteration

def withFlags (result : UInt8) (s : Status) : UInt8 × Status :=
  (result, s.withZeroNegative result)

def shiftLeft : Alteration := fun value s =>
  withFlags (value <<< 1) { s with carry := testBit value 7 }

def shiftRight : Alteration := fun value s =>
  withFlags (value >>> 1) { s with carry := testBit value 0 }

def rotateLeft : Alteration := fun value s =>
  withFlags (value <<< 1 ||| s.carry.toUInt8) { s with carry := testBit value 7 }

def rotateRight : Alteration := fun value s =>
  withFlags (value >>> 1 ||| s.carry.toUInt8 <<< 7) { s with carry := testBit value 0 }

def increment : Alteration := fun value s =>
  withFlags (value + 1) s

def decrement : Alteration := fun value s =>
  withFlags (value - 1) s

end Alteration

namespace Registers

def add (value : UInt8) (r : Registers) : Registers :=
  let sum := r.a.toNat + value.toNat + r.status.carry.toNat
  let result := UInt8.ofNat sum
  let overflow := !testBit (r.a ^^^ value) 7 && testBit (r.a ^^^ result) 7
  { r with status := { r.status with carry := decide (sum > 0xFF), overflow } }.loadA result

-- Subtraction adds the complement: the carry says that there is no borrow.
def subtract (value : UInt8) (r : Registers) : Registers :=
  r.add (~~~value)

def compare (register value : UInt8) (r : Registers) : Registers :=
  { r with status := { r.status with carry := decide (register ≥ value) } }.setFlags
    (register - value)

def testBits (value : UInt8) (r : Registers) : Registers :=
  { r with
    status :=
      { r.status with
        zero := r.a &&& value == 0
        overflow := testBit value 6
        negative := testBit value 7 } }

def alterA (f : Alteration) (r : Registers) : Registers :=
  let (a, status) := f r.a r.status
  { r with a, status }

end Registers
end Nes
