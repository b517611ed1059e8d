import Nes.Proofs.Cpu.Accesses
import Nes.Proofs.Cpu.DeviceMap
import Nes.Proofs.Cpu.EntryPoints
import Nes.Proofs.Cpu.InterruptReturn

/-! The break bit. The status register does not hold it; it is made when the status goes to the
stack, clear by an interrupt request and set by the program, and it is dropped when a byte comes
back. So it tells a break from a request whatever was pulled before. -/
namespace Nes

structure Status.Tells (s : Status) (broken : Bool) (byte : UInt8) : Prop where
  carry : testBit byte 0 = s.carry
  zero : testBit byte 1 = s.zero
  interruptDisable : testBit byte 2 = s.interruptDisable
  decimal : testBit byte 3 = s.decimal
  brk : testBit byte 4 = broken
  unused : testBit byte 5 = true
  overflow : testBit byte 6 = s.overflow
  negative : testBit byte 7 = s.negative

theorem Status.bitsTell (s : Status) (broken : Bool) :
    s.Tells broken { s with brk := broken, unused := true }.bits := by
  have back := ofByteBits { s with brk := broken, unused := true }
  exact ⟨congrArg carry back, congrArg zero back, congrArg interruptDisable back,
    congrArg decimal back, congrArg brk back, congrArg unused back, congrArg overflow back,
    congrArg negative back⟩

section
variable {σ : Type} [Device σ]

theorem Operation.performClear (operation : Operation) (operand : Operand) {r : Registers}
    (clear : r.status.brk = false) (s : σ) :
    ((operation.action.perform operand r).run s).result.status.brk = false := by
  have branch (taken : Status → Bool) :
      (((Action.branch taken).perform operand r).run s).result.status.brk = false := by
    simp only [Action.perform]
    cases taken r.status <;> cases operand <;> exact clear
  cases operation
  -- A status that is pulled has lost the bit, whatever the byte was.
  case plp | rti => rfl
  case bcc | bcs | bne | beq | bpl | bmi | bvc | bvs => exact branch _
  all_goals cases operand <;> exact clear

theorem Registers.instructionClear {r : Registers} (clear : r.status.brk = false) (s : σ) :
    (r.instruction.run s).result.status.brk = false := by
  rw [instructionRun]
  refine Operation.performClear _ _ ?_ _
  rw [Operand.resolveStatus]
  exact clear

namespace Call

theorem workClear {r : Registers} (clear : r.status.brk = false) (call : Call) (s : σ) :
    ((work r call).run s).result.status.brk = false := by
  cases call with
  | step =>
    simp only [work]
    split
    · exact clear
    · exact Registers.instructionClear clear s
  | nmi =>
    simp only [work]
    split <;> exact clear
  | irq =>
    simp only [work]
    split
    · exact clear
    · split <;> exact clear
  | brk => exact clear

theorem takeAllClear {state : Cpu × σ} (clear : state.1.registers.status.brk = false)
    (calls : List Call) : (takeAll state calls).1.registers.status.brk = false := by
  induction calls generalizing state with
  | nil => exact clear
  | cons call rest ih =>
    refine ih ?_
    rw [(takeWork state call).1]
    exact workClear clear call state.2

end Call
end

def Access.writes : Access → Bool
  | read .. => false
  | write .. => true

def Access.lastWrite (accesses : List Access) : Option Access :=
  (accesses.filter writes).getLast?

theorem Access.lastWriteAppend {before after : List Access} {access : Access}
    (last : lastWrite after = some access) : lastWrite (before ++ after) = some access := by
  unfold lastWrite at last ⊢
  rw [List.filter_append, List.getLast?_append, last]
  rfl

section
variable {σ : Type} [Device σ]

def Transaction.Saves (work : Transaction Registers) (s : σ) (byte : UInt8) : Prop :=
  Access.lastWrite (work.trace s) = some (.write (word ((work.run s).result.sp + 1) 1) byte)

theorem Action.enterHandlerSaves (vector returnTo : UInt16) (saved : UInt8) (r : Registers)
    (s : σ) : (enterHandler vector returnTo saved r).Saves s saved := by
  have last : Access.lastWrite ((enterHandler vector returnTo saved r).trace s) =
      some (.write (word (r.sp - 1 - 1) 1) saved) := rfl
  have sp : ((enterHandler vector returnTo saved r).run s).result.sp = r.sp - 1 - 1 - 1 := rfl
  rw [Transaction.Saves, last, sp, UInt8.sub_add_cancel]

theorem Registers.pushSaves (value : UInt8) (r : Registers) (s : σ) :
    (r.push value).Saves s value := by
  have last : Access.lastWrite ((r.push value).trace s) = some (.write (word r.sp 1) value) := rfl
  have sp : ((r.push value).run s).result.sp = r.sp - 1 := rfl
  rw [Transaction.Saves, last, sp, UInt8.sub_add_cancel]

theorem Registers.instructionSaves {r : Registers} {s : σ} {operation : Operation} {byte : UInt8}
    (next : (Instruction.decode (Device.read r.pc s).1).operation = operation)
    (saves : ∀ operand (found : Registers) (s : σ), found.status = r.status →
      (operation.action.perform operand found).Saves s byte) :
    r.instruction.Saves s byte := by
  subst next
  unfold Transaction.Saves
  rw [instructionTrace, instructionRun]
  exact @Access.lastWriteAppend (_ :: _) _ _
    (saves _ _ _ (Operand.resolveStatus _ { r with pc := r.pc + 1 } _))

namespace Call

inductive Pushes (state : Cpu × σ) : Call → Bool → Prop where
  | nmi (running : state.1.registers.halted = false) : Pushes state .nmi false
  | irq (running : state.1.registers.halted = false)
      (unmasked : state.1.registers.status.interruptDisable = false) : Pushes state .irq false
  | php (running : state.1.registers.halted = false)
      (next : (Instruction.decode (Device.read state.1.registers.pc state.2).1).operation = .php) :
      Pushes state .step true
  | brk (running : state.1.registers.halted = false)
      (next : (Instruction.decode (Device.read state.1.registers.pc state.2).1).operation = .brk) :
      Pushes state .step true
  | outside : Pushes state .brk true

theorem pushesSaves {state : Cpu × σ} {call : Call} {broken : Bool}
    (pushes : Pushes state call broken) :
    ∃ byte, (work state.1.registers call).Saves state.2 byte ∧
      state.1.registers.status.Tells broken byte := by
  obtain ⟨⟨r, cycles, total⟩, bus⟩ := state
  cases pushes with
  | nmi running =>
    refine ⟨r.status.interruptByte, ?_, r.status.bitsTell false⟩
    rw [workNmi running]
    exact Action.enterHandlerSaves _ _ _ r bus
  | irq running unmasked =>
    refine ⟨r.status.interruptByte, ?_, r.status.bitsTell false⟩
    rw [workIrq running unmasked]
    exact Action.enterHandlerSaves _ _ _ r bus
  | php running next =>
    refine ⟨r.status.breakByte, ?_, r.status.bitsTell true⟩
    rw [workStep running]
    refine Registers.instructionSaves next fun operand found s same => ?_
    rw [← same]
    exact found.pushSaves _ s
  | brk running next =>
    refine ⟨r.status.breakByte, ?_, r.status.bitsTell true⟩
    rw [workStep running]
    refine Registers.instructionSaves next fun operand found s same => ?_
    rw [← same]
    exact Action.enterHandlerSaves _ _ _ found s
  | outside =>
    exact ⟨r.status.breakByte, Action.enterHandlerSaves _ _ _ r bus, r.status.bitsTell true⟩

end Call
end

theorem Transaction.runWrites {α : Type} (t : Transaction α) (memory : FlatMemory)
    (latest : Access) {addr : UInt16} {value : UInt8}
    (before : latest = .write addr value → memory.byte addr = value)
    (last : ((t.trace memory).filter Access.writes).getLastD latest = .write addr value) :
    (t.run memory).device.byte addr = value := by
  induction t generalizing memory latest with
  | done => exact before last
  | idle next ih => exact ih memory latest before last
  | read asked next ih => exact ih _ memory latest before last
  | write cell written next ih =>
    refine ih (Device.write cell written memory) (.write cell written) ?_ ?_
    · rintro same
      obtain ⟨rfl, rfl⟩ := Access.write.inj same
      rw [FlatMemory.byteWrite, if_pos rfl]
    · rwa [trace, List.filter_cons_of_pos rfl, List.getLastD_cons] at last

theorem Transaction.runLastWrite {α : Type} (t : Transaction α) (memory : FlatMemory)
    {addr : UInt16} {value : UInt8}
    (last : Access.lastWrite (t.trace memory) = some (.write addr value)) :
    (t.run memory).device.byte addr = value := by
  refine t.runWrites memory (.read 0 0) nofun ?_
  unfold Access.lastWrite at last
  rw [List.getLastD_eq_getLast?, last]
  rfl

/-- After a reset and any calls, on any bus: the status register does not hold the break bit. The
last byte that a push of the status writes is at the top of the stack in the end; it tells the
flags, and its break bit is clear if a request has pushed it and set if the program has. In plain
memory it is there, and so a handler can tell. -/
theorem Call.breakBitTells {σ : Type} [Device σ] (bus : σ) (memory : FlatMemory)
    (calls : List Call) :
    let state := takeAll (Cpu.reset bus) calls
    let state' := takeAll (Cpu.reset memory) calls
    state.1.registers.status.brk = false ∧
      (∀ call broken, Pushes state call broken →
        ∃ byte, state.1.registers.status.Tells broken byte ∧
          Access.lastWrite (accesses state call) =
            some (.write (word ((take state call).1.registers.sp + 1) 1) byte)) ∧
      ∀ call broken, Pushes state' call broken →
        testBit ((take state' call).2.byte
          (word ((take state' call).1.registers.sp + 1) 1)) 4 = broken := by
  intro state state'
  refine ⟨takeAllClear rfl calls, fun call broken pushes => ?_, fun call broken pushes => ?_⟩
  · obtain ⟨byte, saves, tells⟩ := pushesSaves pushes
    refine ⟨byte, tells, ?_⟩
    rw [accessesWork, (takeWork state call).1]
    exact saves
  · obtain ⟨byte, saves, tells⟩ := pushesSaves pushes
    obtain ⟨registers, device, -⟩ := takeWork state' call
    rw [registers, device, Transaction.runLastWrite _ _ saves]
    exact tells.brk

theorem Call.breakBitTellsPulled :
    let bus : Script := ⟨[0x00, 0x80, 0x28, 0xFF]⟩
    let state := takeAll (Cpu.reset bus) [.step]
    state.1.registers.status = .ofByte 0xEF ∧ Pushes state .nmi false ∧
      ∃ byte, state.1.registers.status.Tells false byte ∧
        Access.lastWrite (accesses state .nmi) = some (.write 0x01FC byte) := by
  intro bus state
  have running : state.1.registers.halted = false := by decide +kernel
  have top : word ((take state .nmi).1.registers.sp + 1) 1 = 0x01FC := by decide +kernel
  have told := (breakBitTells bus (Ram.filled 0x10000 0) [.step]).2.1 .nmi false (.nmi running)
  rw [top] at told
  exact ⟨by decide +kernel, .nmi running, told⟩

end Nes
