import Nes.Cpu.Action
import Nes.Cpu.Opcode

/-! The processor: its registers and its cycle counters. Every entry point is a bus transaction
on the registers; the counters come from the length of the transaction. -/
namespace Nes

structure Cpu where
  registers : Registers := {}
  cycles : Nat := 0
  totalCycles : Nat := 0
  deriving DecidableEq, Repr, Inhabited

namespace Registers
open Transaction

def resetVector : UInt16 :=
  0xFFFC

def interruptVector : UInt16 :=
  0xFFFE

def nonMaskableVector : UInt16 :=
  0xFFFA

def instruction (r : Registers) : Transaction Registers := do
  let (opcode, r) ← r.fetch
  let { operation, mode } := Instruction.decode opcode
  let (operand, r) ← Operand.resolve mode r
  operation.action.perform operand r

def interrupt (vector : UInt16) (r : Registers) : Transaction Registers := do
  wait
  wait
  Action.enterHandler vector r.pc r.status.interruptByte r

def restart : Transaction Registers := do
  let pc ← readWord resetVector
  return { pc }

end Registers

namespace Cpu
variable {σ : Type} [Device σ]

def spend (cpu : Cpu) (work : Registers → Transaction Registers) (bus : σ) : Nat × Cpu × σ :=
  if cpu.registers.halted then
    (0, cpu, bus)
  else
    let done := (work cpu.registers).run bus
    (done.cycles, ⟨done.result, done.cycles, cpu.totalCycles + done.cycles⟩, done.device)

theorem instructionCycles (r : Registers) (bus : σ) : 0 < (r.instruction.run bus).cycles :=
  Nat.zero_lt_succ _

def step (cpu : Cpu) (bus : σ) : Nat × Cpu × σ :=
  cpu.spend Registers.instruction bus

theorem stepPos {cpu : Cpu} (running : cpu.registers.halted = false) (bus : σ) :
    0 < (cpu.step bus).1 := by
  unfold step spend
  rw [if_neg (by simp [running])]
  exact instructionCycles cpu.registers bus

def requestNmi (cpu : Cpu) (bus : σ) : Nat × Cpu × σ :=
  cpu.spend (Registers.interrupt Registers.nonMaskableVector) bus

def requestInterrupt (cpu : Cpu) (bus : σ) : Nat × Cpu × σ :=
  if cpu.registers.status.interruptDisable then
    (0, cpu, bus)
  else
    cpu.spend (Registers.interrupt Registers.interruptVector) bus

-- A break from outside an instruction. It belongs to the instruction counted last.
def requestBreak (cpu : Cpu) (bus : σ) : Cpu × σ :=
  let done := (Action.enterBreak cpu.registers).run bus
  ({ cpu with registers := done.result, cycles := cpu.cycles + done.cycles }, done.device)

def reset (bus : σ) : Cpu × σ :=
  let done := Registers.restart.run bus
  (⟨done.result, done.cycles, 0⟩, done.device)

end Cpu
end Nes
