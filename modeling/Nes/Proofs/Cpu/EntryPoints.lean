import Nes.FlatMemory
import Nes.Proofs.Cpu.Cycles
import Nes.Trace

/-! Histories of calls of the entry points. An instruction and the two interrupt requests add what
they spend to the total, and a halted processor ignores them. A break from outside does neither:
its cycles are missing in the total, and it enters the handler of a halted processor too. -/
namespace Nes

def Transaction.waits {α σ : Type} [Device σ] : Transaction α → σ → Nat
  | done _, _ => 0
  | idle next, s => next.waits s + 1
  | read addr next, s => (next (Device.read addr s).1).waits (Device.read addr s).2
  | write addr value next, s => next.waits (Device.write addr value s)

theorem Transaction.runCycles {α σ : Type} [Device σ] (t : Transaction α) (s : σ) :
    (t.run s).cycles = (t.trace s).length + t.waits s := by
  induction t generalizing s with
  | done result => rfl
  | idle next ih => simp only [run, trace, waits, ih, Nat.add_assoc]
  | read addr next ih =>
    simp only [run, trace, waits, ih, List.length_cons]
    exact Nat.add_right_comm _ _ _
  | write addr value next ih =>
    simp only [run, trace, waits, ih, List.length_cons]
    exact Nat.add_right_comm _ _ _

inductive Call where
  | step
  | nmi
  | irq
  | brk
  deriving DecidableEq, Repr

namespace Call
variable {σ : Type}

structure Broken (state later : Cpu × σ) (breaks : Nat) : Prop where
  registers :
    later.1.registers =
      { state.1.registers with
        sp := state.1.registers.sp - 3 * UInt8.ofNat breaks
        pc := later.1.registers.pc
        status := later.1.registers.status }
  status :
    later.1.registers.status =
      { state.1.registers.status with
        interruptDisable := state.1.registers.status.interruptDisable || decide (0 < breaks) }
  total : later.1.totalCycles = state.1.totalCycles
  cycles : later.1.cycles = state.1.cycles + 5 * breaks
  untouched : breaks = 0 → later = state

namespace Broken
variable {state now : Cpu × σ} {breaks : Nat}

theorem halted (broken : Broken state now breaks) :
    now.1.registers.halted = state.1.registers.halted := by
  rw [broken.registers]

theorem refl (state : Cpu × σ) : Broken state state 0 := by
  refine ⟨?_, ?_, rfl, rfl, fun _ => rfl⟩
  · have none : state.1.registers.sp - 3 * UInt8.ofNat 0 = state.1.registers.sp := by grind
    rw [none]
  · simp

end Broken

variable [Device σ]

def take (state : Cpu × σ) : Call → Cpu × σ
  | step => (state.1.step state.2).2
  | nmi => (state.1.requestNmi state.2).2
  | irq => (state.1.requestInterrupt state.2).2
  | brk => state.1.requestBreak state.2

def work (r : Registers) : Call → Transaction Registers
  | step => if r.halted then pure r else r.instruction
  | nmi => if r.halted then pure r else r.interrupt Registers.nonMaskableVector
  | irq =>
    if r.status.interruptDisable then pure r
    else if r.halted then pure r
    else r.interrupt Registers.interruptVector
  | brk => Action.enterBreak r

def accesses (state : Cpu × σ) (call : Call) : List Access :=
  (take (state.1, (⟨state.2, #[]⟩ : Traced σ)) call).2.log.toList

def spent (state : Cpu × σ) (call : Call) : Nat :=
  (accesses state call).length + (work state.1.registers call).waits state.2

theorem takeWork (state : Cpu × σ) (call : Call) :
    let done := (work state.1.registers call).run state.2
    (take state call).1.registers = done.result ∧ (take state call).2 = done.device ∧
      (take state call).1.totalCycles =
        state.1.totalCycles + if call = .brk then 0 else done.cycles := by
  obtain ⟨cpu, bus⟩ := state
  have spending (request : Registers → Transaction Registers) :
      let done := (if cpu.registers.halted then pure cpu.registers
        else request cpu.registers : Transaction Registers).run bus
      (cpu.spend request bus).2.1.registers = done.result ∧
        (cpu.spend request bus).2.2 = done.device ∧
        (cpu.spend request bus).2.1.totalCycles = cpu.totalCycles + done.cycles := by
    unfold Cpu.spend
    split <;> exact ⟨rfl, rfl, rfl⟩
  cases call with
  | step => exact spending Registers.instruction
  | nmi => exact spending (Registers.interrupt Registers.nonMaskableVector)
  | irq =>
    by_cases masked : cpu.registers.status.interruptDisable = true
    · simp only [take, work, Cpu.requestInterrupt, if_pos masked]
      exact ⟨rfl, rfl, rfl⟩
    · simp only [take, work, Cpu.requestInterrupt, if_neg masked]
      exact spending (Registers.interrupt Registers.interruptVector)
  | brk => exact ⟨rfl, rfl, rfl⟩

section
variable {r : Registers} (running : r.halted = false)
include running

theorem workStep : work r .step = r.instruction := by
  simp only [work, running, Bool.false_eq_true, if_false]

theorem workNmi : work r .nmi = r.interrupt Registers.nonMaskableVector := by
  simp only [work, running, Bool.false_eq_true, if_false]

theorem workIrq (unmasked : r.status.interruptDisable = false) :
    work r .irq = r.interrupt Registers.interruptVector := by
  simp only [work, running, unmasked, Bool.false_eq_true, if_false]

end

theorem takeStep {cpu : Cpu} (running : cpu.registers.halted = false) (bus : σ) :
    take (cpu, bus) .step =
      let done := cpu.registers.instruction.run bus
      (⟨done.result, done.cycles, cpu.totalCycles + done.cycles⟩, done.device) := by
  simp only [take, Cpu.step, Cpu.spend, running, Bool.false_eq_true, if_false]

theorem accessesWork (state : Cpu × σ) (call : Call) :
    accesses state call = (work state.1.registers call).trace state.2 := by
  unfold accesses
  rw [(takeWork (state.1, (⟨state.2, #[]⟩ : Traced σ)) call).2.1, Traced.runTraced]
  simp

theorem spentWork (state : Cpu × σ) (call : Call) :
    spent state call = ((work state.1.registers call).run state.2).cycles := by
  rw [spent, accessesWork, Transaction.runCycles]

theorem takeTotal (state : Cpu × σ) (call : Call) :
    (take state call).1.totalCycles + (if call = .brk then 5 else 0) =
      state.1.totalCycles + spent state call := by
  rw [(takeWork state call).2.2, spentWork]
  by_cases outside : call = .brk
  · rw [if_pos outside, if_pos outside, outside]
    rfl
  · rw [if_neg outside, if_neg outside]
    rfl

theorem takeGated {cpu : Cpu} (halted : cpu.registers.halted = true) {call : Call}
    (gated : call ≠ .brk) (bus : σ) : take (cpu, bus) call = (cpu, bus) := by
  cases call with
  | step => rw [take, Cpu.step, Cpu.spendHalted halted]
  | nmi => rw [take, Cpu.requestNmi, Cpu.spendHalted halted]
  | irq => rw [take, Cpu.requestInterruptHalted halted]
  | brk => exact absurd rfl gated

theorem accessesGated {cpu : Cpu} (halted : cpu.registers.halted = true) {call : Call}
    (gated : call ≠ .brk) (bus : σ) : accesses (cpu, bus) call = [] := by
  rw [accesses, takeGated halted gated]

theorem takeBreak (state : Cpu × σ) :
    (take state .brk).1.registers =
      { state.1.registers with
        sp := state.1.registers.sp - 3
        pc := (take state .brk).1.registers.pc
        status := { state.1.registers.status with interruptDisable := true } } ∧
      (take state .brk).1.totalCycles = state.1.totalCycles ∧
      (take state .brk).1.cycles = state.1.cycles + 5 ∧
      (accesses state .brk).length = 5 := by
  have down (sp : UInt8) : sp - 1 - 1 - 1 = sp - 3 := by grind
  refine ⟨?_, rfl, rfl, rfl⟩
  rw [← down]
  rfl

def takeAll (state : Cpu × σ) (calls : List Call) : Cpu × σ :=
  calls.foldl take state

def spentAll (state : Cpu × σ) : List Call → Nat
  | [] => 0
  | call :: rest => spent state call + spentAll (take state call) rest

def accessesAll (state : Cpu × σ) : List Call → List Access
  | [] => []
  | call :: rest => accesses state call ++ accessesAll (take state call) rest

theorem takeAllTotal (state : Cpu × σ) (calls : List Call) :
    (takeAll state calls).1.totalCycles + 5 * calls.count .brk =
      state.1.totalCycles + spentAll state calls := by
  induction calls generalizing state with
  | nil => rfl
  | cons call rest ih =>
    have one := takeTotal state call
    have others := ih (take state call)
    rw [takeAll, List.foldl_cons, ← takeAll, List.count_cons, spentAll]
    by_cases outside : call = .brk
    · rw [if_pos outside] at one
      rw [if_pos (beq_iff_eq.mpr outside)]
      omega
    · rw [if_neg outside] at one
      rw [if_neg (by simpa using outside)]
      omega

namespace Broken
variable {state now : Cpu × σ} {breaks : Nat}

theorem take (broken : Broken state now breaks) (halted : state.1.registers.halted = true)
    (call : Call) :
    Broken state (call.take now) (breaks + [call].count .brk) ∧
      (accesses now call).length = 5 * [call].count .brk := by
  have halted := broken.halted.trans halted
  by_cases outside : call = .brk
  · subst outside
    obtain ⟨registers, total, cycles, length⟩ := takeBreak now
    have count : [Call.brk].count .brk = 1 := rfl
    rw [count]
    have some : breaks + 1 ≠ 0 := Nat.succ_ne_zero breaks
    refine ⟨⟨?_, ?_, total.trans broken.total, ?_, fun none => absurd none some⟩, length⟩
    · have down (sp : UInt8) :
          sp - 3 * UInt8.ofNat breaks - 3 = sp - 3 * UInt8.ofNat (breaks + 1) := by
        rw [UInt8.ofNat_add]
        grind
      rw [registers, broken.registers, ← down]
    · rw [registers, broken.status]
      simp
    · rw [cycles, broken.cycles]
      omega
  · have count : [call].count .brk = 0 := by simp [outside]
    have same : call.take now = now := takeGated halted outside now.2
    have none : accesses now call = [] := accessesGated halted outside now.2
    rw [same, none, count]
    exact ⟨broken, rfl⟩

theorem takeAll (broken : Broken state now breaks) (halted : state.1.registers.halted = true)
    (calls : List Call) :
    Broken state (Call.takeAll now calls) (breaks + calls.count .brk) ∧
      (accessesAll now calls).length = 5 * calls.count .brk := by
  induction calls generalizing now breaks with
  | nil => exact ⟨broken, rfl⟩
  | cons call rest ih =>
    obtain ⟨first, one⟩ := broken.take halted call
    obtain ⟨others, more⟩ := ih first
    have count : (call :: rest).count .brk = [call].count .brk + rest.count .brk := by
      rw [← List.count_append, List.singleton_append]
    rw [count, ← Nat.add_assoc, accessesAll, List.length_append, one, more, Nat.mul_add]
    exact ⟨others, rfl⟩

end Broken

/-- After a reset and any calls, the total is what the calls have spent less the five cycles of
each break from outside. Once the processor is halted, instructions and interrupt requests change
nothing and reach nothing. A break from outside does what it always does: with each of them five
more accesses, three more bytes on the stack, interrupts masked and five more cycles in the count
of the last instruction. -/
theorem callsAfterReset (bus : σ) (calls later : List Call) :
    let start := Cpu.reset bus
    let state := takeAll start calls
    state.1.totalCycles + 5 * calls.count .brk = spentAll start calls ∧
      (state.1.registers.halted = true →
        Broken state (takeAll state later) (later.count .brk) ∧
          (accessesAll state later).length = 5 * later.count .brk) := by
  intro start state
  have total := takeAllTotal start calls
  refine ⟨total.trans (Nat.zero_add _), fun halted => ?_⟩
  have broken := (Broken.refl state).takeAll halted later
  rwa [Nat.zero_add] at broken

theorem callsAfterResetJammed :
    let bus : FlatMemory := Ram.filled 0x10000 0x02
    let state := takeAll (Cpu.reset bus) [.step]
    state.1.registers.halted = true ∧
      Broken state (takeAll state [.step, .nmi, .irq, .brk]) 1 ∧
      (accessesAll state [.step, .nmi, .irq, .brk]).length = 5 := by
  intro bus state
  have reads (addr : UInt16) : Device.read addr bus = (0x02, bus) :=
    congrArg (·, bus) (Ram.readFilled 0x02 addr.toNat)
  have start : Cpu.reset bus = (⟨{ pc := 0x0202 }, 2, 0⟩, bus) := by
    simp only [Cpu.reset, Registers.restart, Transaction.readWord, Transaction.readBytes,
      Transaction.runBind, Transaction.readByte, Transaction.run, reads]
    rfl
  have halted : state.1.registers.halted = true := by
    have fetched := Registers.instructionRun { pc := 0x0202 } bus
    simp only [reads] at fetched
    simp only [state, takeAll, List.foldl_cons, List.foldl_nil, start, take, Cpu.step, Cpu.spend,
      fetched]
    rfl
  exact ⟨halted, (callsAfterReset bus [.step] [.step, .nmi, .irq, .brk]).2 halted⟩

end Call
end Nes
