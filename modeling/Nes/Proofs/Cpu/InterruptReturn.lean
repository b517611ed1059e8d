import Nes.FlatMemory
import Nes.Proofs.Cpu.Cycles

/-! Interrupts do not show in the program that they interrupt. What an entry leaves on the stack is
what a return takes from it, whatever runs in between, if only that comes back to the bytes left
and has not changed them. -/
namespace Nes

namespace FlatMemory

def byte (memory : FlatMemory) (addr : UInt16) : UInt8 :=
  memory.read addr.toNat

theorem byteWrite (memory : FlatMemory) (addr addr' : UInt16) (value : UInt8) :
    byte (Device.write addr value memory) addr' =
      if addr = addr' then value else memory.byte addr' :=
  memory.readOfWrite addr addr' value

def save (memory : FlatMemory) (sp : UInt8) (returnTo : UInt16) (status : UInt8) : FlatMemory :=
  Device.write (word (sp - 1 - 1) 1) status
    (Device.write (word (sp - 1) 1) (lowByte returnTo)
      (Device.write (word sp 1) (highByte returnTo) memory))

def address (memory : FlatMemory) (vector : UInt16) : UInt16 :=
  word (memory.byte vector) (memory.byte (vector + 1))

end FlatMemory

inductive Turn where
  | step
  | nmi
  | irq
  deriving DecidableEq, Repr

namespace Turn

def take (state : Cpu × FlatMemory) : Turn → Cpu × FlatMemory
  | .step => (state.1.step state.2).2
  | .nmi => (state.1.requestNmi state.2).2
  | .irq => (state.1.requestInterrupt state.2).2

def Interrupts (turn : Turn) (cpu : Cpu) (memory : FlatMemory) : Prop :=
  match turn with
  | .step => memory.byte cpu.registers.pc = 0x00
  | .nmi => True
  | .irq => cpu.registers.status.interruptDisable = false

def resumesAt (turn : Turn) (pc : UInt16) : UInt16 :=
  match turn with
  | .step => pc + 2
  | .nmi | .irq => pc

def saved (turn : Turn) (status : Status) : UInt8 :=
  match turn with
  | .step => status.breakByte
  | .nmi | .irq => status.interruptByte

def vector : Turn → UInt16
  | .step => Action.breakVector
  | .nmi => Registers.nonMaskableVector
  | .irq => Registers.interruptVector

end Turn

theorem wordLow {low low' high : UInt8} : word low high = word low' high ↔ low = low' := by
  constructor
  · intro same
    rw [← lowByteWord low high, same, lowByteWord]
  · rintro rfl
    rfl

namespace FlatMemory
variable (memory : FlatMemory) (sp : UInt8) (returnTo : UInt16) (status : UInt8)

theorem saveOther {addr : UInt16} (first : addr ≠ word sp 1) (second : addr ≠ word (sp - 1) 1)
    (third : addr ≠ word (sp - 1 - 1) 1) :
    (memory.save sp returnTo status).byte addr = memory.byte addr := by
  unfold save
  rw [byteWrite, if_neg third.symm, byteWrite, if_neg second.symm, byteWrite, if_neg first.symm]

theorem saveStatus : (memory.save sp returnTo status).byte (word (sp - 1 - 1) 1) = status := by
  unfold save
  rw [byteWrite, if_pos rfl]

theorem saveLow :
    (memory.save sp returnTo status).byte (word (sp - 1) 1) = lowByte returnTo := by
  have apart : sp - 1 - 1 ≠ sp - 1 := by grind
  unfold save
  rw [byteWrite, if_neg (mt wordLow.mp apart), byteWrite, if_pos rfl]

theorem saveHigh : (memory.save sp returnTo status).byte (word sp 1) = highByte returnTo := by
  have apart : sp - 1 - 1 ≠ sp := by grind
  have apart' : sp - 1 ≠ sp := by grind
  unfold save
  rw [byteWrite, if_neg (mt wordLow.mp apart), byteWrite, if_neg (mt wordLow.mp apart'), byteWrite,
    if_pos rfl]

end FlatMemory

namespace Registers
variable (r : Registers) (memory : FlatMemory)

theorem runInstruction :
    let i := Instruction.decode (memory.byte r.pc)
    let found := (Operand.resolve i.mode { r with pc := r.pc + 1 }).run memory
    let performed := (i.operation.action.perform found.result.1 found.result.2).run found.device
    (r.instruction.run memory).result = performed.result ∧
      (r.instruction.run memory).device = performed.device := by
  rw [instructionRun]
  exact ⟨rfl, rfl⟩

theorem runBreak (opcode : memory.byte r.pc = 0x00) :
    let left := memory.save r.sp (r.pc + 2) r.status.breakByte
    (r.instruction.run memory).result = { r with
        sp := r.sp - 1 - 1 - 1
        pc := left.address Action.breakVector
        status := { r.status with interruptDisable := true } } ∧
      (r.instruction.run memory).device = left := by
  intro left
  have decoded : Instruction.decode 0x00 = ⟨.brk, .implied⟩ := by decide +kernel
  have skipped : r.pc + 1 + 1 = r.pc + 2 := by grind
  obtain ⟨result, device⟩ := r.runInstruction memory
  rw [opcode, decoded] at result device
  rw [result, device]
  unfold left
  rw [← skipped]
  exact ⟨rfl, rfl⟩

theorem runReturn (opcode : memory.byte r.pc = 0x40) :
    (r.instruction.run memory).result = { r with
        sp := r.sp + 1 + 1 + 1
        pc := word (memory.byte (word (r.sp + 1 + 1) 1)) (memory.byte (word (r.sp + 1 + 1 + 1) 1))
        status := .ofStack (memory.byte (word (r.sp + 1) 1)) } ∧
      (r.instruction.run memory).device = memory := by
  have decoded : Instruction.decode 0x40 = ⟨.rti, .implied⟩ := by decide +kernel
  obtain ⟨result, device⟩ := r.runInstruction memory
  rw [opcode, decoded] at result device
  rw [result, device]
  exact ⟨rfl, rfl⟩

end Registers

namespace Turn
variable {cpu : Cpu} {memory : FlatMemory}

theorem takeRunning (running : cpu.registers.halted = false) (turn : Turn)
    (interrupts : turn.Interrupts cpu memory) :
    let left := memory.save cpu.registers.sp (turn.resumesAt cpu.registers.pc)
      (turn.saved cpu.registers.status)
    (turn.take (cpu, memory)).1.registers = { cpu.registers with
        sp := cpu.registers.sp - 1 - 1 - 1
        pc := left.address turn.vector
        status := { cpu.registers.status with interruptDisable := true } } ∧
      (turn.take (cpu, memory)).2 = left := by
  have go : ¬cpu.registers.halted = true := by simp [running]
  cases turn with
  | step =>
    simp only [take, Cpu.step, Cpu.spend, if_neg go]
    exact cpu.registers.runBreak memory interrupts
  | nmi =>
    simp only [take, Cpu.requestNmi, Cpu.spend, if_neg go]
    exact ⟨rfl, rfl⟩
  | irq =>
    have unmasked : cpu.registers.status.interruptDisable = false := interrupts
    have heard : ¬cpu.registers.status.interruptDisable = true := by simp [unmasked]
    simp only [take, Cpu.requestInterrupt, Cpu.spend, if_neg go, if_neg heard]
    exact ⟨rfl, rfl⟩

end Turn

theorem Operand.resolveHalted {σ : Type} [Device σ] (mode : Mode) (r : Registers) (s : σ) :
    ((resolve mode r).run s).result.2.halted = r.halted := by
  cases mode <;> rfl

theorem Action.branchHalted {σ : Type} [Device σ] (taken : Status → Bool) (operand : Operand)
    (r : Registers) (s : σ) :
    (((branch taken).perform operand r).run s).result.halted = r.halted := by
  simp only [perform]
  cases taken r.status <;> cases operand <;> rfl

theorem Operation.performHalted {σ : Type} [Device σ] {operation : Operation}
    (runs : operation ≠ .jam) (operand : Operand) (r : Registers) (s : σ) :
    ((operation.action.perform operand r).run s).result.halted = r.halted := by
  cases operation
  case jam => exact absurd rfl runs
  case bcc | bcs | bne | beq | bpl | bmi | bvc | bvs => exact Action.branchHalted _ operand r s
  all_goals cases operand <;> rfl

theorem Instruction.decodeJam {opcode : UInt8} (jams : (decode opcode).operation = .jam) :
    decode opcode = ⟨.jam, .implied⟩ := by
  revert opcode
  decide +kernel

def Cpu.AtJam (state : Cpu × FlatMemory) : Prop :=
  state.1.registers.halted = true →
    (Instruction.decode (state.2.byte state.1.registers.pc)).operation = .jam

theorem Registers.runHalted {r : Registers} {memory : FlatMemory} (running : r.halted = false)
    (halts : (r.instruction.run memory).result.halted = true) :
    (Instruction.decode ((r.instruction.run memory).device.byte
      (r.instruction.run memory).result.pc)).operation = .jam := by
  obtain ⟨result, device⟩ := r.runInstruction memory
  by_cases jams : (Instruction.decode (memory.byte r.pc)).operation = .jam
  · have back : r.pc + 1 - 1 = r.pc := UInt16.add_sub_cancel _ _
    rw [Instruction.decodeJam jams] at result device
    rw [result, device]
    change (Instruction.decode (memory.byte (r.pc + 1 - 1))).operation = .jam
    rw [back, jams]
  · rw [result, Operation.performHalted jams, Operand.resolveHalted, running] at halts
    cases halts

namespace Turn
variable {cpu : Cpu} {memory : FlatMemory}

theorem takeAtJam {state : Cpu × FlatMemory} (now : Cpu.AtJam state) (turn : Turn) :
    Cpu.AtJam (turn.take state) := by
  obtain ⟨cpu, memory⟩ := state
  cases halted : cpu.registers.halted with
  | true =>
    have same : turn.take (cpu, memory) = (cpu, memory) := by
      cases turn with
      | step => simp only [take, Cpu.step, Cpu.spendHalted halted]
      | nmi => simp only [take, Cpu.requestNmi, Cpu.spendHalted halted]
      | irq => simp only [take, Cpu.requestInterruptHalted halted]
    rwa [same]
  | false =>
    have go : ¬cpu.registers.halted = true := by simp [halted]
    intro halts
    cases turn with
    | step =>
      simp only [take, Cpu.step, Cpu.spend, if_neg go] at halts ⊢
      exact Registers.runHalted halted halts
    | nmi =>
      obtain ⟨registers, -⟩ := @takeRunning cpu memory halted .nmi trivial
      simp [registers, halted] at halts
    | irq =>
      by_cases masked : cpu.registers.status.interruptDisable = true
      · simp only [take, Cpu.requestInterrupt, if_pos masked] at halts
        exact absurd halts go
      · have heard : cpu.registers.status.interruptDisable = false := by simpa using masked
        obtain ⟨registers, -⟩ := @takeRunning cpu memory halted .irq heard
        simp [registers, halted] at halts

theorem takeAllAtJam {state : Cpu × FlatMemory} (now : Cpu.AtJam state) (turns : List Turn) :
    Cpu.AtJam (turns.foldl take state) :=
  List.foldlRecOn turns take now fun _ held turn _ => takeAtJam held turn

theorem returnRuns {state : Cpu × FlatMemory} (now : Cpu.AtJam state)
    (opcode : state.2.byte state.1.registers.pc = 0x40) :
    state.1.registers.halted = false := by
  have decoded : Instruction.decode 0x40 = ⟨.rti, .implied⟩ := by decide +kernel
  cases halted : state.1.registers.halted with
  | false => rfl
  | true =>
    have jams := now halted
    rw [opcode, decoded] at jams
    cases jams

theorem takeReturn {state : Cpu × FlatMemory} {sp : UInt8} {returnTo : UInt16} {status : Status}
    (running : state.1.registers.halted = false)
    (opcode : state.2.byte state.1.registers.pc = 0x40)
    (below : state.1.registers.sp = sp - 1 - 1 - 1)
    (high : state.2.byte (word sp 1) = highByte returnTo)
    (low : state.2.byte (word (sp - 1) 1) = lowByte returnTo)
    (saved : Status.ofStack (state.2.byte (word (sp - 1 - 1) 1)) = status) :
    (take state .step).1.registers =
        { state.1.registers with sp, pc := returnTo, status } ∧
      (take state .step).2 = state.2 := by
  obtain ⟨cpu, memory⟩ := state
  have go : ¬cpu.registers.halted = true := Bool.eq_false_iff.mp running
  obtain ⟨result, device⟩ := cpu.registers.runReturn memory opcode
  have third : cpu.registers.sp + 1 = sp - 1 - 1 := by rw [below, UInt8.sub_add_cancel]
  have second : cpu.registers.sp + 1 + 1 = sp - 1 := by rw [third, UInt8.sub_add_cancel]
  have first : cpu.registers.sp + 1 + 1 + 1 = sp := by rw [second, UInt8.sub_add_cancel]
  simp only [take, Cpu.step, Cpu.spend, if_neg go]
  rw [result, device, first, second, third, saved, low, high, wordBytes]
  exact ⟨rfl, rfl⟩

theorem ofSaved (turn : Turn) (status : Status) :
    Status.ofStack (turn.saved status) = { status with brk := false, unused := true } := by
  cases turn <;>
    simp only [saved, Status.ofStack, Status.breakByte, Status.interruptByte, Status.ofByteBits]

theorem returnAfter (running : cpu.registers.halted = false) {turn : Turn}
    (interrupts : turn.Interrupts cpu memory) {turns : List Turn} {handled : Cpu × FlatMemory}
    (handles : turns.foldl take (turn.take (cpu, memory)) = handled)
    (same : handled.1.registers.sp = (turn.take (cpu, memory)).1.registers.sp)
    (kept : ∀ sp ∈ [cpu.registers.sp, cpu.registers.sp - 1, cpu.registers.sp - 1 - 1],
      handled.2.byte (word sp 1) = (turn.take (cpu, memory)).2.byte (word sp 1))
    (opcode : handled.2.byte handled.1.registers.pc = 0x40) :
    (take handled .step).1.registers =
        { handled.1.registers with
          sp := cpu.registers.sp
          pc := turn.resumesAt cpu.registers.pc
          status := { cpu.registers.status with brk := false, unused := true } } ∧
      (take handled .step).2 = handled.2 := by
  obtain ⟨registers, bytes⟩ := takeRunning running turn interrupts
  have below := same.trans (congrArg Registers.sp registers)
  have atJam : Cpu.AtJam (cpu, memory) := fun halted => by simp [running] at halted
  have runs : handled.1.registers.halted = false :=
    returnRuns (handles ▸ takeAllAtJam (takeAtJam atJam turn) turns) opcode
  obtain ⟨high, low, status⟩ : _ ∧ _ ∧ _ := by simpa using kept
  rw [bytes, FlatMemory.saveHigh] at high
  rw [bytes, FlatMemory.saveLow] at low
  rw [bytes, FlatMemory.saveStatus] at status
  exact takeReturn runs opcode below high low (status ▸ turn.ofSaved cpu.registers.status)

theorem returnAtOnce {state : Cpu × FlatMemory} (running : state.1.registers.halted = false)
    {turn : Turn} (interrupts : turn.Interrupts state.1 state.2)
    (opcode : (turn.take state).2.byte (turn.take state).1.registers.pc = 0x40) :
    (take (turn.take state) .step).1.registers =
        { state.1.registers with
          pc := turn.resumesAt state.1.registers.pc
          status := { state.1.registers.status with brk := false, unused := true } } ∧
      (take (turn.take state) .step).2 = (turn.take state).2 := by
  obtain ⟨registers, -⟩ := takeRunning running turn interrupts
  have handles : [].foldl take (turn.take state) = turn.take state := rfl
  have returned := returnAfter running interrupts handles rfl (fun _ _ => rfl) opcode
  rw [registers] at returned
  exact returned

/-- An interrupt writes three bytes of the stack. Whatever happens from then on: once a return is
the next instruction, with the stack pointer and these three bytes as the interrupt left them, it
leads back to where the program was interrupted, with its stack pointer and its flags. -/
theorem interruptTransparent (cpu : Cpu) (memory : FlatMemory) (turn : Turn)
    (running : cpu.registers.halted = false) (interrupts : turn.Interrupts cpu memory) :
    let r := cpu.registers
    let entered := turn.take (cpu, memory)
    let resumed := { r with
      pc := turn.resumesAt r.pc
      status := { r.status with brk := false, unused := true } }
    (∀ addr, addr ≠ word r.sp 1 → addr ≠ word (r.sp - 1) 1 → addr ≠ word (r.sp - 1 - 1) 1 →
      entered.2.byte addr = memory.byte addr) ∧
    (∀ turns : List Turn,
      let handled := turns.foldl take entered
      handled.1.registers.sp = entered.1.registers.sp →
      (∀ sp ∈ [r.sp, r.sp - 1, r.sp - 1 - 1],
        handled.2.byte (word sp 1) = entered.2.byte (word sp 1)) →
      handled.2.byte handled.1.registers.pc = 0x40 →
      (take handled .step).1.registers =
        { handled.1.registers with sp := r.sp, pc := resumed.pc, status := resumed.status }) ∧
    (entered.2.byte entered.1.registers.pc = 0x40 →
      (take entered .step).1.registers = resumed) := by
  intro r entered resumed
  obtain ⟨registers, bytes⟩ := takeRunning running turn interrupts
  refine ⟨?_, ?_, ?_⟩
  · intro addr first second third
    rw [bytes]
    exact memory.saveOther r.sp _ _ first second third
  · intro turns handled same kept opcode
    exact (returnAfter running interrupts rfl same kept opcode).1
  · intro opcode
    exact (returnAtOnce running interrupts opcode).1

structure Returning (memory : FlatMemory) : Prop where
  low : memory.byte 0xFFFA = 0x00
  high : memory.byte 0xFFFB = 0x80
  opcode : memory.byte 0x8000 = 0x40

def returningMemory : FlatMemory :=
  Ram.ofFn fun addr => if addr = 0x8000 then 0x40 else if addr = 0xFFFB then 0x80 else 0

theorem returningMemoryReturning : Returning returningMemory where
  low := Ram.readOfFn _ _
  high := Ram.readOfFn _ _
  opcode := Ram.readOfFn _ _

theorem nmiReturning (running : cpu.registers.halted = false) (handler : Returning memory) :
    let entered := Turn.nmi.take (cpu, memory)
    entered.1.registers = { cpu.registers with
        sp := cpu.registers.sp - 1 - 1 - 1
        pc := 0x8000
        status := { cpu.registers.status with interruptDisable := true } } ∧
      Returning entered.2 := by
  intro entered
  obtain ⟨registers, bytes⟩ := @takeRunning cpu memory running .nmi trivial
  have kept (addr : UInt16) (elsewhere : highByte addr ≠ 1) :
      entered.2.byte addr = memory.byte addr := by
    have apart (low : UInt8) : addr ≠ word low 1 := by
      rintro rfl
      exact elsewhere (highByteWord low 1)
    rw [bytes]
    exact memory.saveOther _ _ _ (apart _) (apart _) (apart _)
  have same : Returning entered.2 :=
    { low := (kept _ (by decide)).trans handler.low
      high := (kept _ (by decide)).trans handler.high
      opcode := (kept _ (by decide)).trans handler.opcode }
  have target : entered.2.address Turn.nmi.vector = 0x8000 := by
    change word (entered.2.byte 0xFFFA) (entered.2.byte 0xFFFB) = 0x8000
    rw [same.low, same.high]
    decide
  rw [bytes] at target
  rw [registers, target]
  exact ⟨rfl, same⟩

theorem nmiReturned {state : Cpu × FlatMemory} (running : state.1.registers.halted = false)
    (handler : Returning state.2) :
    let handled := [.nmi, .step].foldl take state
    handled.1.registers = { state.1.registers with
        status := { state.1.registers.status with brk := false, unused := true } } ∧
      handled.2 = (Turn.nmi.take state).2 ∧ Returning handled.2 := by
  intro handled
  obtain ⟨registers, same⟩ := nmiReturning running handler
  have opcode : (Turn.nmi.take state).2.byte (Turn.nmi.take state).1.registers.pc = 0x40 := by
    rw [registers]
    exact same.opcode
  obtain ⟨returned, bytes⟩ := @returnAtOnce state running .nmi trivial opcode
  exact ⟨returned, bytes, bytes ▸ same⟩

def wrappingCpu : Cpu where
  registers := { sp := 0x01, pc := 0x1234, status := { carry := true, brk := true } }

theorem interruptTransparentNested :
    (take ([.nmi, .step].foldl take (Turn.nmi.take (wrappingCpu, returningMemory)))
        .step).1.registers =
      { sp := 0x01, pc := 0x1234, status := { carry := true, unused := true } } := by
  have program : wrappingCpu.registers =
      { sp := 0x01, pc := 0x1234, status := { carry := true, brk := true } } := rfl
  have handler := returningMemoryReturning
  -- Nothing else of the two is needed, and evaluation stays away from the memory's cells.
  generalize wrappingCpu = cpu, returningMemory = memory at program handler ⊢
  have running : cpu.registers.halted = false := by rw [program]
  obtain ⟨entry, inside⟩ := nmiReturning running handler
  have running' : (Turn.nmi.take (cpu, memory)).1.registers.halted = false := by rw [entry, running]
  obtain ⟨registers, bytes, returning⟩ := nmiReturned running' inside
  have below : ([.nmi, .step].foldl take (Turn.nmi.take (cpu, memory))).1.registers.sp =
      (Turn.nmi.take (cpu, memory)).1.registers.sp := by
    rw [registers]
  have opcode : ([.nmi, .step].foldl take (Turn.nmi.take (cpu, memory))).2.byte
      ([.nmi, .step].foldl take (Turn.nmi.take (cpu, memory))).1.registers.pc = 0x40 := by
    rw [registers, entry]
    exact returning.opcode
  have kept : ∀ sp ∈ [cpu.registers.sp, cpu.registers.sp - 1, cpu.registers.sp - 1 - 1],
      ([.nmi, .step].foldl take (Turn.nmi.take (cpu, memory))).2.byte (word sp 1) =
        (Turn.nmi.take (cpu, memory)).2.byte (word sp 1) := by
    rw [bytes, (takeRunning running' .nmi trivial).2, entry, program]
    intro sp stacked
    have apart : word sp 1 ≠ word 0xFE 1 ∧ word sp 1 ≠ word 0xFD 1 ∧ word sp 1 ≠ word 0xFC 1 := by
      simp only [List.mem_cons, List.not_mem_nil, or_false] at stacked
      rcases stacked with rfl | rfl | rfl <;> decide
    exact (Turn.nmi.take (cpu, memory)).2.saveOther _ _ _ apart.1 apart.2.1 apart.2.2
  rw [(interruptTransparent cpu memory .nmi running trivial).2.1 [.nmi, .step] below kept opcode,
    registers, entry, program]
  rfl

end Turn

end Nes
