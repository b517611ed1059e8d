import Nes.FlatMemory
import Nes.Proofs.Cpu.Cycles
import Nes.Trace

/-! The accesses of an instruction, in order: its opcode, the bytes by which the addressing mode
finds the operand, and what the operation does there or on the stack. All other cycles are
internal. -/
namespace Nes

inductive Line where
  | read (addr : UInt16)
  | write (addr : UInt16)
  deriving DecidableEq, Repr

def Access.line : Access → Line
  | read addr _ => .read addr
  | write addr _ => .write addr

-- The reads by which a mode finds its operand when the byte after the opcode is at `r.pc`. An
-- immediate operand is in memory and not read yet.
inductive Mode.Finds (r : Registers) : Mode → List Access → Operand → Prop where
  | implied : Finds r .implied [] .implied
  | accumulator : Finds r .accumulator [] .accumulator
  | immediate : Finds r .immediate [] (.memory r.pc r.pc)
  | zeroPage (low : UInt8) :
      Finds r .zeroPage [.read r.pc low] (.memory low.toUInt16 low.toUInt16)
  | zeroPageX (low : UInt8) :
      Finds r .zeroPageX [.read r.pc low] (.memory (low + r.x).toUInt16 low.toUInt16)
  | zeroPageY (low : UInt8) :
      Finds r .zeroPageY [.read r.pc low] (.memory (low + r.y).toUInt16 low.toUInt16)
  | relative (offset : UInt8) :
      Finds r .relative [.read r.pc offset]
        (.memory (Operand.displaced (r.pc + 1) offset) (r.pc + 1))
  | absolute (low high : UInt8) :
      Finds r .absolute [.read r.pc low, .read (r.pc + 1) high]
        (.memory (word low high) (word low high))
  | absoluteX (low high : UInt8) :
      Finds r .absoluteX [.read r.pc low, .read (r.pc + 1) high]
        (.memory (word low high + r.x.toUInt16) (word low high))
  | absoluteY (low high : UInt8) :
      Finds r .absoluteY [.read r.pc low, .read (r.pc + 1) high]
        (.memory (word low high + r.y.toUInt16) (word low high))
  -- The high byte of a pointer comes from the page of the low byte.
  | indirect (low high low' high' : UInt8) :
      Finds r .indirect
        [.read r.pc low, .read (r.pc + 1) high,
          .read (word low high) low', .read (word (low + 1) high) high']
        (.memory (word low' high') (word low' high'))
  | indirectX (low low' high' : UInt8) :
      Finds r .indirectX
        [.read r.pc low, .read (low + r.x).toUInt16 low', .read (low + r.x + 1).toUInt16 high']
        (.memory (word low' high') (word low' high'))
  | indirectY (low low' high' : UInt8) :
      Finds r .indirectY
        [.read r.pc low, .read low.toUInt16 low', .read (low + 1).toUInt16 high']
        (.memory (word low' high' + r.y.toUInt16) (word low' high'))

def Mode.length : Mode → UInt16
  | .implied | .accumulator => 0
  | .absolute | .absoluteX | .absoluteY | .indirect => 2
  | _ => 1

def Mode.internalCycles : Mode → Nat
  | .implied | .accumulator | .zeroPageX | .zeroPageY | .indirectX => 1
  | _ => 0

inductive BusUse where
  | none | read | write | unstableWrite | readWrite
  | branch | call | return | returnFromInterrupt | brk | push | pull
  deriving DecidableEq, Repr

namespace Operation

def busUse : Operation → BusUse
  | lda | ldx | ldy | lax | las | adc | sbc | usbc | and | ora | eor | bit | cmp | cpx | cpy
  | anc | anc2 | alr | arr | ane | lxa | sbx | nop => .read
  | sta | stx | sty | sax => .write
  | sha | shx | shy | tas => .unstableWrite
  | asl | lsr | rol | ror | inc | dec | slo | rla | sre | rra | isc | dcp => .readWrite
  | bcc | bcs | bne | beq | bpl | bmi | bvc | bvs => .branch
  | jsr => .call
  | rts => .return
  | rti => .returnFromInterrupt
  | brk => .brk
  | pha | php => .push
  | pla | plp => .pull
  | jmp | tax | tay | tsx | txa | tya | txs | inx | dex | iny | dey
  | clc | sec | cli | sei | cld | sed | clv | jam => .none

def stored (operation : Operation) (r : Registers) : UInt8 :=
  match operation with
  | shx => r.x
  | shy => r.y
  | _ => r.a &&& r.x

-- Within the page of the base an unstable store goes where it should, and else to the page of the
-- byte stored.
def unstableTarget (addr base : UInt16) (stored : UInt8) : UInt16 :=
  if samePage addr base then addr
  else word (lowByte addr) (stored &&& (highByte base + 1))

def lines (operation : Operation) (r : Registers) (operand : Operand) : List Line :=
  match operation.busUse, operand with
  | .read, .memory addr _ => [.read addr]
  | .write, .memory addr _ => [.write addr]
  | .unstableWrite, .memory addr base =>
    [.write (unstableTarget addr base (operation.stored r))]
  | .readWrite, .memory addr _ => [.read addr, .write addr]
  | .call, .memory _ _ => [.write (word r.sp 1), .write (word (r.sp - 1) 1)]
  | .return, _ => [.read (word (r.sp + 1) 1), .read (word (r.sp + 1 + 1) 1)]
  | .returnFromInterrupt, _ =>
    [.read (word (r.sp + 1) 1), .read (word (r.sp + 1 + 1) 1), .read (word (r.sp + 1 + 1 + 1) 1)]
  | .brk, _ =>
    [.write (word r.sp 1), .write (word (r.sp - 1) 1), .write (word (r.sp - 1 - 1) 1),
      .read 0xFFFE, .read 0xFFFF]
  | .push, _ => [.write (word r.sp 1)]
  | .pull, _ => [.read (word (r.sp + 1) 1)]
  | _, _ => []

def internalCycles (operation : Operation) (operand : Operand) (taken : Bool) : Nat :=
  match operation.busUse, operand with
  | .readWrite, .memory _ _ => 1
  | .branch, .memory _ _ => taken.toNat
  | .call, .memory _ _ => 1
  | .return, _ => 2
  | .returnFromInterrupt, _ => 1
  | .pull, _ => 1
  | _, _ => 0

end Operation

variable {σ : Type} [Device σ]

theorem Operand.nextInPageWord (low high : UInt8) :
    nextInPage (word low high) = word (low + 1) high := by
  rw [nextInPage, lowByteWord, highByteWord]

theorem Operand.resolveFinds (mode : Mode) (r : Registers) (s : σ) :
    mode.Finds r ((resolve mode r).trace s) ((resolve mode r).run s).result.1 := by
  cases mode with
  | implied => exact .implied
  | accumulator => exact .accumulator
  | immediate => exact .immediate
  | zeroPage => exact .zeroPage _
  | zeroPageX => exact .zeroPageX _
  | zeroPageY => exact .zeroPageY _
  | relative => exact .relative _
  | absolute => exact .absolute _ _
  | absoluteX => exact .absoluteX _ _
  | absoluteY => exact .absoluteY _ _
  | indirect =>
    have found := Mode.Finds.indirect (r := r)
    simp only [← nextInPageWord] at found
    exact found _ _ _ _
  | indirectX => exact .indirectX _ _ _
  | indirectY => exact .indirectY _ _ _

theorem Operand.resolveNext (mode : Mode) (r : Registers) (s : σ) :
    ((resolve mode r).run s).result.2 = { r with pc := r.pc + mode.length } := by
  have two : r.pc + 1 + 1 = r.pc + 2 := UInt16.add_assoc r.pc 1 1
  cases mode with
  | implied | accumulator => rw [Mode.length, UInt16.add_zero]; rfl
  | absolute | absoluteX | absoluteY | indirect => rw [Mode.length, ← two]; rfl
  | _ => rfl

theorem Action.branchTrace (taken : Status → Bool) (operand : Operand) (r : Registers) (s : σ) :
    ((branch taken).perform operand r).trace s = [] := by
  simp only [perform]
  cases taken r.status <;> cases operand <;> rfl

theorem Operation.performLines (operation : Operation) (operand : Operand) (r : Registers)
    (s : σ) :
    ((operation.action.perform operand r).trace s).map Access.line = operation.lines r operand := by
  cases operation
  case bcc | bcs | bne | beq | bpl | bmi | bvc | bvs =>
    exact congrArg (List.map Access.line) (Action.branchTrace _ operand r s)
  all_goals cases operand <;> rfl

theorem Operation.cyclesOfLines (operation : Operation) (operand : Operand) (r : Registers)
    (taken : Bool) :
    operation.action.cycles operand.target?.isSome taken =
      (operation.lines r operand).length + operation.internalCycles operand taken := by
  cases operation
  case bcc | bcs | bne | beq | bpl | bmi | bvc | bvs => cases operand <;> cases taken <;> rfl
  all_goals cases operand <;> rfl

theorem Mode.Finds.cycles {mode : Mode} {r : Registers} {found : List Access} {operand : Operand}
    (finds : mode.Finds r found operand) : mode.cycles = found.length + mode.internalCycles := by
  cases finds <;> rfl

theorem Operand.resolveLines (operation : Operation) (mode : Mode) (r : Registers) (s : σ)
    (operand : Operand) :
    operation.lines ((resolve mode r).run s).result.2 operand = operation.lines r operand := by
  cases mode <;> rfl

def Instruction.internalCycles (i : Instruction) (r : Registers) (operand : Operand) : Nat :=
  i.mode.internalCycles +
    i.operation.internalCycles operand (i.operation.action.takes r.status)

theorem Instruction.found (i : Instruction) (r : Registers) (s : σ) :
    let resolve := Operand.resolve i.mode r
    let found := resolve.run s
    let performed := (i.operation.action.perform found.result.1 found.result.2).trace found.device
    i.mode.Finds r (resolve.trace s) found.result.1 ∧
      performed.map Access.line = i.operation.lines r found.result.1 ∧
      i.cycles (i.operation.action.takes r.status) =
        1 + (resolve.trace s).length + performed.length + i.internalCycles r found.result.1 := by
  intro resolve found performed
  have finds : i.mode.Finds r (resolve.trace s) found.result.1 := Operand.resolveFinds i.mode r s
  have lines : performed.map Access.line = i.operation.lines r found.result.1 :=
    (i.operation.performLines _ _ _).trans (Operand.resolveLines _ _ _ _ _)
  have addressed : found.result.1.target?.isSome = i.mode.addressed :=
    Operand.resolveAddressed i.mode r s
  have length := congrArg List.length lines
  rw [List.length_map] at length
  refine ⟨finds, lines, ?_⟩
  rw [cycles, internalCycles, ← addressed, Operation.cyclesOfLines _ _ r, finds.cycles, length]
  omega

theorem Registers.instructionTrace (r : Registers) (s : σ) :
    let opcode := Device.read r.pc s
    let i := Instruction.decode opcode.1
    let resolve := Operand.resolve i.mode { r with pc := r.pc + 1 }
    let found := resolve.run opcode.2
    r.instruction.trace s = .read r.pc opcode.1 :: (resolve.trace opcode.2 ++
      (i.operation.action.perform found.result.1 found.result.2).trace found.device) := by
  unfold instruction
  simp only [Transaction.traceBind]
  rfl

theorem Registers.instructionAccesses (r : Registers) (s : σ) :
    let opcode := (Device.read r.pc s).1
    let i := Instruction.decode opcode
    ∃ operand found data,
      r.instruction.trace s = .read r.pc opcode :: (found ++ data) ∧
      i.mode.Finds { r with pc := r.pc + 1 } found operand ∧
      data.map Access.line = i.operation.lines r operand ∧
      (r.instruction.run s).cycles =
        (r.instruction.trace s).length + i.internalCycles r operand := by
  intro opcode i
  let resolve := Operand.resolve i.mode { r with pc := r.pc + 1 }
  let found := resolve.run (Device.read r.pc s).2
  let data := (i.operation.action.perform found.result.1 found.result.2).trace found.device
  obtain ⟨finds, lines, cost⟩ := i.found { r with pc := r.pc + 1 } (Device.read r.pc s).2
  have trace : r.instruction.trace s =
      .read r.pc opcode :: (resolve.trace (Device.read r.pc s).2 ++ data) := r.instructionTrace s
  have whole : (r.instruction.run s).cycles =
      1 + (resolve.trace (Device.read r.pc s).2).length + data.length +
        i.internalCycles r found.result.1 := (r.instructionCycles s).trans cost
  refine ⟨found.result.1, _, data, trace, finds, lines, ?_⟩
  rw [whole, trace, List.length_cons, List.length_append]
  omega

/-- On any device an instruction reads its opcode and then makes the accesses of its addressing
mode and those of its operation, and nothing else. It takes a cycle for each and its internal
cycles. -/
theorem Cpu.stepAccesses (cpu : Cpu) (running : cpu.registers.halted = false) (bus : σ) :
    let r := cpu.registers
    let opcode := (Device.read r.pc bus).1
    let i := Instruction.decode opcode
    let stepped := cpu.step (⟨bus, #[]⟩ : Traced σ)
    let log := stepped.2.2.log.toList
    cpu.step bus = (stepped.1, stepped.2.1, stepped.2.2.device) ∧
      ∃ operand found data,
        log = .read r.pc opcode :: (found ++ data) ∧
        i.mode.Finds { r with pc := r.pc + 1 } found operand ∧
        data.map Access.line = i.operation.lines r operand ∧
        stepped.1 = log.length + i.internalCycles r operand := by
  intro r opcode i stepped log
  have go : ¬cpu.registers.halted = true := by simp [running]
  have plain := Traced.runTraced cpu.registers.instruction (⟨bus, #[]⟩ : Traced σ)
  have logged : log = r.instruction.trace bus := by
    simp [log, stepped, step, spend, if_neg go, plain, r]
  have cost : stepped.1 = (r.instruction.run bus).cycles := by
    simp [stepped, step, spend, if_neg go, plain, r]
  refine ⟨?_, ?_⟩
  · simp [stepped, step, spend, if_neg go, plain]
  · rw [logged, cost]
    exact r.instructionAccesses bus

def Cpu.wrapping : Cpu where
  registers := { x := 0xF5 }

def FlatMemory.wrapping : FlatMemory :=
  (Ram.filled 0x10000 0).writeAll 0 [0xF6, 0x10]

theorem Cpu.stepAccessesWrapping :
    let stepped := wrapping.step (⟨.wrapping, #[]⟩ : Traced FlatMemory)
    let log := stepped.2.2.log.toList
    log = [.read 0 0xF6, .read 1 0x10, .read 5 0, .write 5 1] ∧
      ∃ operand found data,
        log = .read 0 0xF6 :: (found ++ data) ∧
        Mode.zeroPageX.Finds { x := 0xF5, pc := 1 } found operand ∧
        data.map Access.line = Operation.inc.lines { x := 0xF5 } operand ∧
        stepped.1 = log.length + Instruction.internalCycles ⟨.inc, .zeroPageX⟩ { x := 0xF5 } operand := by
  intro stepped log
  have opcode : (Device.read 0 FlatMemory.wrapping).1 = 0xF6 := by decide +kernel
  have decoded : Instruction.decode 0xF6 = ⟨.inc, .zeroPageX⟩ := by decide +kernel
  have accesses := (stepAccesses wrapping rfl FlatMemory.wrapping).2
  rw [show wrapping.registers.pc = 0 from rfl, opcode, decoded] at accesses
  exact ⟨by decide +kernel, accesses⟩

end Nes
