import Nes.Apu.Timer
import Nes.Word

/-! The delta channel. It does not fetch its samples: every bit it plays is silent and leaves
the level alone. But it uses up its bytes at the selected rate, and so its status and its
interrupt come on time. -/
namespace Nes

structure Dmc where
  irqEnabled : Bool := false
  irq : Bool := false
  loop : Bool := false
  -- Its period is one less than the cycles per bit.
  timer : Timer := ⟨427, 0⟩
  level : Nat := 0
  sampleAddress : UInt16 := 0
  sampleLength : Nat := 0
  currentAddress : UInt16 := 0
  bytes : Nat := 0
  bits : Nat := 0
  deriving DecidableEq, Repr, Inhabited

namespace Dmc

def rates : Array Nat :=
  #[428, 380, 340, 320, 286, 254, 226, 214, 190, 160, 142, 128, 106, 84, 72, 54]

def writeControl (d : Dmc) (value : UInt8) : Dmc :=
  { d with
    irqEnabled := testBit value 7
    irq := d.irq && testBit value 7
    loop := testBit value 6
    timer := { d.timer with period := rates.getD (value.toNat % 16) 0 - 1 } }

def writeLevel (d : Dmc) (value : UInt8) : Dmc :=
  { d with level := value.toNat % 0x80 }

def writeAddress (d : Dmc) (value : UInt8) : Dmc :=
  { d with sampleAddress := 0xC000 + value.toUInt16 * 64 }

def writeLength (d : Dmc) (value : UInt8) : Dmc :=
  { d with sampleLength := value.toNat * 16 + 1 }

def active (d : Dmc) : Bool :=
  d.bytes != 0

def restart (d : Dmc) : Dmc :=
  { d with currentAddress := d.sampleAddress, bytes := d.sampleLength }

def nextAddress (addr : UInt16) : UInt16 :=
  if addr = 0xFFFF then 0x8000 else addr + 1

def consumeByte (d : Dmc) : Dmc :=
  if d.bytes = 0 then d
  else
    let d := { d with currentAddress := nextAddress d.currentAddress, bytes := d.bytes - 1 }
    if d.bytes ≠ 0 then d
    else if d.loop then d.restart
    else { d with irq := d.irq || d.irqEnabled }

def consumeBit (d : Dmc) : Dmc :=
  if d.bits ≤ 1 then { d with bits := 8 }.consumeByte else { d with bits := d.bits - 1 }

def clockTimer (d : Dmc) : Dmc :=
  let due := d.timer.due
  let d := { d with timer := d.timer.clock }
  if due then d.consumeBit else d

def enable (d : Dmc) (enabled : Bool) : Dmc :=
  if !enabled then { d with irq := false, bytes := 0 }
  else if d.active then { d with irq := false }
  else { d with irq := false }.restart

end Dmc
end Nes
