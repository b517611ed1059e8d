import Nes.Cpu.Instruction
import Nes.Cpu.Registers

/-! Operands, and how each addressing mode finds one. -/
namespace Nes

inductive Operand where
  | implied
  | accumulator
  | memory (addr base : UInt16)
  deriving DecidableEq, Repr

namespace Operand
open Transaction

def direct (addr : UInt16) : Operand :=
  memory addr addr

def indexed (base : UInt16) (index : UInt8) : Operand :=
  memory (base + index.toUInt16) base

def zeroPagePointer (low : UInt8) : Transaction UInt16 :=
  readBytes low.toUInt16 (low + 1).toUInt16

def nextInPage (addr : UInt16) : UInt16 :=
  word (lowByte addr + 1) (highByte addr)

def displaced (addr : UInt16) (offset : UInt8) : UInt16 :=
  addr + offset.toInt8.toInt16.toUInt16

def resolve (mode : Mode) (r : Registers) : Transaction (Operand × Registers) :=
  match mode with
  | .implied => do
    wait
    return (implied, r)
  | .accumulator => do
    wait
    return (accumulator, r)
  | .immediate => return (direct r.pc, { r with pc := r.pc + 1 })
  | .zeroPage => do
    let (low, r) ← r.fetch
    return (direct low.toUInt16, r)
  | .zeroPageX => do
    let (low, r) ← r.fetch
    wait
    return (memory (low + r.x).toUInt16 low.toUInt16, r)
  | .zeroPageY => do
    let (low, r) ← r.fetch
    wait
    return (memory (low + r.y).toUInt16 low.toUInt16, r)
  | .relative => do
    let (offset, r) ← r.fetch
    return (memory (displaced r.pc offset) r.pc, r)
  | .absolute => do
    let (addr, r) ← r.fetchWord
    return (direct addr, r)
  | .absoluteX => do
    let (base, r) ← r.fetchWord
    return (indexed base r.x, r)
  | .absoluteY => do
    let (base, r) ← r.fetchWord
    return (indexed base r.y, r)
  | .indirect => do
    let (pointer, r) ← r.fetchWord
    let addr ← readBytes pointer (nextInPage pointer)
    return (direct addr, r)
  | .indirectX => do
    let (low, r) ← r.fetch
    wait
    let addr ← zeroPagePointer (low + r.x)
    return (direct addr, r)
  | .indirectY => do
    let (low, r) ← r.fetch
    let base ← zeroPagePointer low
    return (indexed base r.y, r)

def load (operand : Operand) (r : Registers) : Transaction UInt8 :=
  match operand with
  | implied => return 0
  | accumulator => return r.a
  | memory addr _ => readByte addr

def store (operand : Operand) (value : UInt8) (r : Registers) : Transaction Registers :=
  match operand with
  | implied => return r
  | accumulator => return { r with a := value }
  | memory addr _ => do
    writeByte addr value
    return r

-- The store of the unstable instructions. The high byte of the base address, plus one, masks the
-- value; and if indexing has left the page, the masked value takes the place of the high byte of
-- the address.
def storeUnstable (operand : Operand) (value : UInt8) : Transaction Unit :=
  match operand with
  | implied | accumulator => return ()
  | memory addr base =>
    let masked := value &&& (highByte base + 1)
    writeByte (if samePage addr base then addr else word (lowByte addr) masked) masked

def target? : Operand → Option UInt16
  | implied | accumulator => none
  | memory addr _ => some addr

end Operand
end Nes
