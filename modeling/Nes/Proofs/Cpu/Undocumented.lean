import Nes.Proofs.Cpu.InterruptReturn

/-! Undocumented operations in terms of the documented ones. Most do two documented operations on
one operand, the second on what the first left there; the others do one and settle some flags their
own way. Only the cycles differ. -/
namespace Nes

def Action.apply (action : Action) (operand : Operand) (state : Registers × FlatMemory) :
    Registers × FlatMemory :=
  let done := (action.perform operand state.1).run state.2
  (done.result, done.device)

namespace Operation

def apply (operation : Operation) (operand : Operand) (state : Registers × FlatMemory) :
    Registers × FlatMemory :=
  operation.action.apply operand state

def settled (state : Registers × FlatMemory) (flags : UInt8 → Status → Status) :
    Registers × FlatMemory :=
  ({ state.1 with status := flags state.1.a state.1.status }, state.2)

def documented (operation : Operation) (operand : Operand) (state : Registers × FlatMemory) :
    Registers × FlatMemory :=
  match operation with
  | slo => ora.apply operand (asl.apply operand state)
  | rla => and.apply operand (rol.apply operand state)
  | sre => eor.apply operand (lsr.apply operand state)
  | rra => adc.apply operand (ror.apply operand state)
  | isc => sbc.apply operand (inc.apply operand state)
  | dcp => cmp.apply operand (dec.apply operand state)
  | lax => ldx.apply operand (lda.apply operand state)
  | alr => lsr.apply .accumulator (and.apply operand state)
  | anc | anc2 => settled (and.apply operand state) fun _ s => { s with carry := s.negative }
  | arr => settled (ror.apply .accumulator (and.apply operand state)) fun a s =>
      { s with carry := testBit a 6, overflow := testBit a 6 != testBit a 5 }
  | sbx =>
    let r := state.1
    let compared := cmp.apply operand ({ r with a := r.a &&& r.x }, state.2)
    let difference := (r.a &&& r.x) - ((operand.load r).run state.2).result
    ({ r with x := difference, status := compared.1.status }, state.2)
  | _ => operation.apply operand state

end Operation

namespace Action
variable (use : UInt8 → Registers → Registers) (addr base : UInt16) (r : Registers)
  (memory : FlatMemory)

theorem applyLoad :
    (load use).apply (.memory addr base) (r, memory) = (use (memory.byte addr) r, memory) :=
  rfl

theorem applyModify (alter : Alteration) :
    (modify alter use).apply (.memory addr base) (r, memory) =
      let altered := alter (memory.byte addr) r.status
      (use altered.1 { r with status := altered.2 }, Device.write addr altered.1 memory) :=
  rfl

theorem applyModifyLoad (alter : Alteration) :
    (modify alter use).apply (.memory addr base) (r, memory) =
      (load use).apply (.memory addr base)
        ((modify alter Operation.ignore).apply (.memory addr base) (r, memory)) := by
  rw [applyModify, applyModify, applyLoad, FlatMemory.byteWrite, if_pos rfl]
  rfl

end Action

namespace Operation

theorem applyDocumented (operation : Operation) (addr base : UInt16)
    (state : Registers × FlatMemory) :
    operation.apply (.memory addr base) state =
      operation.documented (.memory addr base) state := by
  obtain ⟨r, memory⟩ := state
  cases operation
  case slo => exact Action.applyModifyLoad orA addr base r memory Alteration.shiftLeft
  case rla => exact Action.applyModifyLoad andA addr base r memory Alteration.rotateLeft
  case sre => exact Action.applyModifyLoad xorA addr base r memory Alteration.shiftRight
  case rra => exact Action.applyModifyLoad Registers.add addr base r memory Alteration.rotateRight
  -- These two do not set the flags of the first half, which the second half does not read.
  case isc =>
    exact Action.applyModifyLoad Registers.subtract addr base r memory Alteration.increment
  case dcp =>
    exact Action.applyModifyLoad (fun value r => r.compare r.a value) addr base r memory
      Alteration.decrement
  all_goals rfl

theorem documentedOfficial {operation : Operation}
    (official : operation.isUnofficial = false ∨ operation = .jam) (operand : Operand)
    (state : Registers × FlatMemory) :
    operation.apply operand state = operation.documented operand state := by
  cases operation
  case slo | rla | sre | rra | isc | dcp | lax | alr | anc | anc2 | arr | sbx =>
    simp [isUnofficial] at official
  all_goals rfl

end Operation

namespace Instruction

theorem officialOrAddressed (opcode : UInt8) :
    ((decode opcode).operation.isUnofficial = false ∨ (decode opcode).operation = .jam) ∨
      (decode opcode).mode.addressed = true := by
  revert opcode
  decide +kernel

theorem applyDocumented (opcode : UInt8) {operand : Operand}
    (found : operand.target?.isSome = (decode opcode).mode.addressed)
    (state : Registers × FlatMemory) :
    (decode opcode).operation.apply operand state =
      (decode opcode).operation.documented operand state := by
  rcases officialOrAddressed opcode with official | addressed
  · exact Operation.documentedOfficial official operand state
  · cases operand with
    | memory addr base => exact Operation.applyDocumented _ addr base state
    | implied => cases found.trans addressed
    | accumulator => cases found.trans addressed

/-- On any operand that its addressing mode finds, wherever that was, the operation of an opcode
does what the documented ones do there. So does a whole instruction, which finds its operand first. -/
theorem doesDocumented (opcode : UInt8) (state finder : Registers × FlatMemory) :
    let i := decode opcode
    let operand := ((Operand.resolve i.mode finder.1).run finder.2).result.1
    let r := state.1
    let next := decode (state.2.byte r.pc)
    let found := (Operand.resolve next.mode { r with pc := r.pc + 1 }).run state.2
    let done := r.instruction.run state.2
    i.operation.apply operand state = i.operation.documented operand state ∧
      (done.result, done.device) =
        next.operation.documented found.result.1 (found.result.2, found.device) := by
  intro i operand r next found done
  refine ⟨applyDocumented opcode (Operand.resolveAddressed i.mode finder.1 finder.2) state, ?_⟩
  obtain ⟨result, device⟩ := r.runInstruction state.2
  rw [← applyDocumented _ (Operand.resolveAddressed next.mode _ state.2)]
  exact Prod.ext result device

end Instruction
end Nes
