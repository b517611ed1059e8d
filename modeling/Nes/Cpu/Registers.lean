import Nes.Cpu.Status
import Nes.Transaction

/-! The register file, and the stack that it keeps in page 1 of memory. -/
namespace Nes

structure Registers where
  a : UInt8 := 0
  x : UInt8 := 0
  y : UInt8 := 0
  sp : UInt8 := 0xFD
  pc : UInt16 := 0
  status : Status := {}
  halted : Bool := false
  deriving DecidableEq, Repr, Inhabited

namespace Registers
open Transaction

def setFlags (r : Registers) (result : UInt8) : Registers :=
  { r with status := r.status.withZeroNegative result }

def loadA (value : UInt8) (r : Registers) : Registers :=
  { r with a := value }.setFlags value

def loadX (value : UInt8) (r : Registers) : Registers :=
  { r with x := value }.setFlags value

def loadY (value : UInt8) (r : Registers) : Registers :=
  { r with y := value }.setFlags value

def fetch (r : Registers) : Transaction (UInt8 × Registers) := do
  let byte ← readByte r.pc
  return (byte, { r with pc := r.pc + 1 })

def fetchWord (r : Registers) : Transaction (UInt16 × Registers) := do
  let (low, r) ← r.fetch
  let (high, r) ← r.fetch
  return (word low high, r)

def top (r : Registers) : UInt16 :=
  word r.sp 1

def push (value : UInt8) (r : Registers) : Transaction Registers := do
  writeByte r.top value
  return { r with sp := r.sp - 1 }

def pull (r : Registers) : Transaction (UInt8 × Registers) := do
  let r := { r with sp := r.sp + 1 }
  let byte ← readByte r.top
  return (byte, r)

def pushWord (value : UInt16) (r : Registers) : Transaction Registers := do
  let r ← r.push (highByte value)
  r.push (lowByte value)

def pullWord (r : Registers) : Transaction (UInt16 × Registers) := do
  let (low, r) ← r.pull
  let (high, r) ← r.pull
  return (word low high, r)

end Registers
end Nes
