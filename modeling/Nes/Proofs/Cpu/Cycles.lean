import Nes.Cpu

/-! Cycle counts. An instruction costs its opcode, what its addressing mode costs and what its
operation costs; over the whole opcode table that is two to eight cycles. -/
namespace Nes

def Mode.cycles : Mode → Nat
  | .implied | .accumulator | .zeroPage | .relative => 1
  | .immediate => 0
  | .zeroPageX | .zeroPageY | .absolute | .absoluteX | .absoluteY => 2
  | .indirectY => 3
  | .indirect | .indirectX => 4

def Mode.addressed : Mode → Bool
  | .implied | .accumulator => false
  | _ => true

namespace Action

def takes (action : Action) (status : Status) : Bool :=
  match action with
  | branch taken => taken status
  | _ => false

def cycles (action : Action) (addressed taken : Bool) : Nat :=
  match action with
  | load _ | store _ | storeUnstable .. => addressed.toNat
  | modify .. | call => 3 * addressed.toNat
  | branch _ => (taken && addressed).toNat
  | internal _ | jump | jam => 0
  | .return | returnFromInterrupt => 4
  | brk => 5
  | push _ => 1
  | pull _ => 2

end Action

def Instruction.cycles (i : Instruction) (taken : Bool) : Nat :=
  1 + i.mode.cycles + i.operation.action.cycles i.mode.addressed taken

variable {σ : Type} [Device σ]

theorem Operand.resolveCycles (mode : Mode) (r : Registers) (s : σ) :
    ((resolve mode r).run s).cycles = mode.cycles := by
  cases mode <;> rfl

theorem Operand.resolveAddressed (mode : Mode) (r : Registers) (s : σ) :
    ((resolve mode r).run s).result.1.target?.isSome = mode.addressed := by
  cases mode <;> rfl

theorem Operand.resolveStatus (mode : Mode) (r : Registers) (s : σ) :
    ((resolve mode r).run s).result.2.status = r.status := by
  cases mode <;> rfl

theorem Action.performCycles (action : Action) (operand : Operand) (r : Registers) (s : σ) :
    ((action.perform operand r).run s).cycles =
      action.cycles operand.target?.isSome (action.takes r.status) := by
  cases action with
  | branch taken =>
    simp only [perform, cycles, takes]
    cases taken r.status <;> cases operand <;> rfl
  | _ => cases operand <;> rfl

theorem Registers.instructionRun (r : Registers) (s : σ) :
    let i := Instruction.decode (Device.read r.pc s).1
    let found := (Operand.resolve i.mode { r with pc := r.pc + 1 }).run (Device.read r.pc s).2
    let performed := (i.operation.action.perform found.result.1 found.result.2).run found.device
    r.instruction.run s =
      ⟨performed.result, performed.device, 1 + (found.cycles + performed.cycles)⟩ := by
  unfold instruction
  simp only [Transaction.runBind]
  rfl

theorem Registers.instructionCycles (r : Registers) (s : σ) :
    let i := Instruction.decode (Device.read r.pc s).1
    (r.instruction.run s).cycles = i.cycles (i.operation.action.takes r.status) := by
  intro i
  rw [instructionRun, Action.performCycles, Operand.resolveCycles, Operand.resolveAddressed,
    Operand.resolveStatus, Instruction.cycles, Nat.add_assoc]

theorem Instruction.cyclesBounds (opcode : UInt8) (taken : Bool) :
    2 ≤ (decode opcode).cycles taken ∧ (decode opcode).cycles taken ≤ 8 := by
  revert opcode taken
  decide +kernel

theorem Registers.instructionBounds (r : Registers) (s : σ) :
    2 ≤ (r.instruction.run s).cycles ∧ (r.instruction.run s).cycles ≤ 8 := by
  rw [instructionCycles]
  exact Instruction.cyclesBounds _ _

theorem Registers.interruptCycles (vector : UInt16) (r : Registers) (s : σ) :
    ((r.interrupt vector).run s).cycles = 7 := rfl

namespace Cpu

theorem spendTotal (cpu : Cpu) (work : Registers → Transaction Registers) (bus : σ) :
    (cpu.spend work bus).2.1.totalCycles = cpu.totalCycles + (cpu.spend work bus).1 := by
  unfold spend
  split <;> rfl

theorem spendHalted {cpu : Cpu} (halted : cpu.registers.halted = true)
    (work : Registers → Transaction Registers) (bus : σ) : cpu.spend work bus = (0, cpu, bus) := by
  unfold spend
  rw [if_pos halted]

theorem stepBounds {cpu : Cpu} (running : cpu.registers.halted = false) (bus : σ) :
    2 ≤ (cpu.step bus).1 ∧ (cpu.step bus).1 ≤ 8 := by
  unfold step spend
  rw [if_neg (by simp [running])]
  exact cpu.registers.instructionBounds bus

theorem stepAtMost (cpu : Cpu) (bus : σ) : (cpu.step bus).1 ≤ 8 := by
  cases halted : cpu.registers.halted with
  | true =>
    rw [step, spendHalted halted]
    exact Nat.zero_le 8
  | false => exact (stepBounds halted bus).2

theorem interruptAtMost (cpu : Cpu) (vector : UInt16) (bus : σ) :
    (cpu.spend (Registers.interrupt vector) bus).1 ≤ 7 := by
  unfold spend
  split
  · exact Nat.zero_le 7
  · exact Nat.le_of_eq (Registers.interruptCycles vector cpu.registers bus)

theorem requestInterruptTotal (cpu : Cpu) (bus : σ) :
    (cpu.requestInterrupt bus).2.1.totalCycles =
      cpu.totalCycles + (cpu.requestInterrupt bus).1 := by
  unfold requestInterrupt
  split
  · rfl
  · exact cpu.spendTotal _ bus

theorem requestInterruptAtMost (cpu : Cpu) (bus : σ) : (cpu.requestInterrupt bus).1 ≤ 7 := by
  unfold requestInterrupt
  split
  · exact Nat.zero_le 7
  · exact cpu.interruptAtMost _ bus

theorem requestInterruptHalted {cpu : Cpu} (halted : cpu.registers.halted = true) (bus : σ) :
    cpu.requestInterrupt bus = (0, cpu, bus) := by
  unfold requestInterrupt
  split
  · rfl
  · exact spendHalted halted _ bus

end Cpu
end Nes
