import Nes.Proofs.Cpu.DataAccesses
import Nes.Proofs.Cpu.DeviceMap

/-! What an instruction leaves behind in the registers. It changes its destinations and its flags
and nothing else, and where it sets the zero and the negative flag they tell of the last byte that
it has computed. -/
namespace Nes

inductive Register where
  | a | x | y | sp
  deriving DecidableEq, Repr

inductive Flag where
  | carry | zero | interruptDisable | decimal | brk | unused | overflow | negative
  deriving DecidableEq, Repr

def Registers.get (r : Registers) : Register → UInt8
  | .a => r.a
  | .x => r.x
  | .y => r.y
  | .sp => r.sp

def Status.get (s : Status) : Flag → Bool
  | .carry => s.carry
  | .zero => s.zero
  | .interruptDisable => s.interruptDisable
  | .decimal => s.decimal
  | .brk => s.brk
  | .unused => s.unused
  | .overflow => s.overflow
  | .negative => s.negative

namespace Operation

def destinations : Operation → List Register
  | lda | txa | tya | pla | adc | sbc | usbc | and | ora | eor | slo | rla | sre | rra | isc
  | anc | anc2 | alr | arr | ane => [.a]
  | ldx | tax | tsx | inx | dex | sbx => [.x]
  | ldy | tay | iny | dey => [.y]
  | lax | lxa => [.a, .x]
  | las => [.a, .x, .sp]
  | _ => []

def movesStack : Operation → Bool
  | jsr | rts | rti | brk | pha | php | pla | plp | txs | tas => true
  | _ => false

def flags : Operation → List Flag
  | adc | sbc | usbc | rra | isc | arr => [.carry, .zero, .overflow, .negative]
  | cmp | cpx | cpy | dcp | asl | lsr | rol | ror | slo | rla | sre | alr | anc | anc2 | sbx =>
    [.carry, .zero, .negative]
  | lda | ldx | ldy | tax | tay | tsx | txa | tya | and | ora | eor | ane | inc | dec | inx | dex
  | iny | dey | pla | lax | lxa | las => [.zero, .negative]
  | bit => [.zero, .overflow, .negative]
  | clc | sec => [.carry]
  | cli | sei | brk => [.interruptDisable]
  | cld | sed => [.decimal]
  | clv => [.overflow]
  | plp | rti =>
    [.carry, .zero, .interruptDisable, .decimal, .brk, .unused, .overflow, .negative]
  | _ => []

def settles : Operation → Option (Flag × Bool)
  | clc => some (.carry, false)
  | sec => some (.carry, true)
  | cli => some (.interruptDisable, false)
  | sei | brk => some (.interruptDisable, true)
  | cld => some (.decimal, false)
  | sed => some (.decimal, true)
  | clv => some (.overflow, false)
  | _ => none

def takesFlags : Operation → Bool
  | bit | plp | rti => true
  | _ => false

def altersOperand : Operation → Bool
  | asl | lsr | rol | ror | inc | dec => true
  | _ => false

def result (operation : Operation) (byte : UInt8) (r : Registers) : Option UInt8 :=
  let carry := r.status.carry.toUInt8
  let borrow := (!r.status.carry).toUInt8
  match operation with
  | lda | ldx | ldy | lax | pla => some byte
  | tax | tay => some r.a
  | txa => some r.x
  | tya => some r.y
  | tsx => some r.sp
  | inx => some (r.x + 1)
  | dex => some (r.x - 1)
  | iny => some (r.y + 1)
  | dey => some (r.y - 1)
  | inc => some (byte + 1)
  | dec => some (byte - 1)
  | adc => some (r.a + byte + carry)
  | sbc | usbc => some (r.a - byte - borrow)
  | and | anc | anc2 => some (r.a &&& byte)
  | ora => some (r.a ||| byte)
  | eor => some (r.a ^^^ byte)
  | cmp => some (r.a - byte)
  | cpx => some (r.x - byte)
  | cpy => some (r.y - byte)
  | asl => some (byte <<< 1)
  | lsr => some (byte >>> 1)
  | rol => some (byte <<< 1 ||| carry)
  | ror => some (byte >>> 1 ||| carry <<< 7)
  | slo => some (r.a ||| byte <<< 1)
  | rla => some (r.a &&& (byte <<< 1 ||| carry))
  | sre => some (r.a ^^^ byte >>> 1)
  | rra => some (r.a + (byte >>> 1 ||| carry <<< 7) + (testBit byte 0).toUInt8)
  | isc => some (r.a - (byte + 1) - borrow)
  | dcp => some (r.a - (byte - 1))
  | las => some (byte &&& r.sp)
  | alr => some ((r.a &&& byte) >>> 1)
  | arr => some ((r.a &&& byte) >>> 1 ||| carry <<< 7)
  | ane => some ((r.a ||| 0xEE) &&& r.x &&& byte)
  | lxa => some ((r.a ||| 0xEE) &&& byte)
  | sbx => some ((r.a &&& r.x) - byte)
  | _ => none

end Operation

def Access.lastRead (accesses : List Access) : UInt8 :=
  (accesses.filterMap fun
    | .read _ value => some value
    | .write _ _ => none).getLastD 0

namespace Instruction

def destinations (i : Instruction) : List Register :=
  if i.mode = .accumulator then [.a] else i.operation.destinations

def changes (i : Instruction) : List Register :=
  if i.operation.movesStack then .sp :: i.destinations else i.destinations

def operand (i : Instruction) (data : List Access) (r : Registers) : UInt8 :=
  if i.mode = .accumulator then r.a else Access.lastRead data

structure Effect (i : Instruction) (data : List Access) (r r' : Registers) : Prop where
  registers : ∀ register, register ∉ i.changes → r'.get register = r.get register
  flags : ∀ flag, flag ∉ i.operation.flags → r'.status.get flag = r.status.get flag
  halted : r'.halted = decide (i.operation = .jam)
  settled : ∀ flag value, i.operation.settles = some (flag, value) → r'.status.get flag = value
  pulled : i.operation = .plp ∨ i.operation = .rti →
    ∃ byte rest, data = .read (word (r.sp + 1) 1) byte :: rest ∧ r'.status = .ofStack byte
  computed : .zero ∈ i.operation.flags ∨ .negative ∈ i.operation.flags →
    i.operation.takesFlags = false →
    ∃ result, i.operation.result (i.operand data r) r = some result ∧
      r'.status.zero = (result == 0) ∧ r'.status.negative = testBit result 7 ∧
      ∀ register ∈ i.destinations, r'.get register = result
  altered : i.operation.altersOperand = true → i.mode ≠ .accumulator →
    ∃ addr byte result, data = [.read addr byte, .write addr result] ∧
      i.operation.result byte r = some result

end Instruction

def Registers.besides (r : Registers) (registers : List Register) (flags : List Flag) :
    Registers where
  a := if registers.contains .a then 0 else r.a
  x := if registers.contains .x then 0 else r.x
  y := if registers.contains .y then 0 else r.y
  sp := if registers.contains .sp then 0 else r.sp
  status.carry := if flags.contains .carry then false else r.status.carry
  status.zero := if flags.contains .zero then false else r.status.zero
  status.interruptDisable :=
    if flags.contains .interruptDisable then false else r.status.interruptDisable
  status.decimal := if flags.contains .decimal then false else r.status.decimal
  status.brk := if flags.contains .brk then false else r.status.brk
  status.unused := if flags.contains .unused then false else r.status.unused
  status.overflow := if flags.contains .overflow then false else r.status.overflow
  status.negative := if flags.contains .negative then false else r.status.negative

theorem Registers.getBesides (r : Registers) {registers : List Register} (flags : List Flag)
    {register : Register} (outside : register ∉ registers) :
    (r.besides registers flags).get register = r.get register := by
  cases register <;> simp [besides, get, outside]

theorem Registers.getFlagBesides (r : Registers) (registers : List Register) {flags : List Flag}
    {flag : Flag} (outside : flag ∉ flags) :
    (r.besides registers flags).status.get flag = r.status.get flag := by
  cases flag <;> simp [besides, Status.get, outside]

variable {σ : Type} [Device σ]

theorem Action.branchBesides (taken : Status → Bool) (operand : Operand) (r : Registers) (s : σ)
    (registers : List Register) (flags : List Flag) :
    (((branch taken).perform operand r).run s).result.besides registers flags =
      r.besides registers flags := by
  simp only [perform]
  cases taken r.status <;> cases operand <;> rfl

theorem Operation.performBesides (operation : Operation) {operand : Operand}
    (elsewhere : operand ≠ .accumulator) (r : Registers) (s : σ) :
    ((operation.action.perform operand r).run s).result.besides
        (Instruction.changes ⟨operation, .implied⟩) operation.flags =
      r.besides (Instruction.changes ⟨operation, .implied⟩) operation.flags := by
  cases operation
  case bcc | bcs | bne | beq | bpl | bmi | bvc | bvs =>
    exact Action.branchBesides _ operand r s _ _
  all_goals
    cases operand with
    | accumulator => exact absurd rfl elsewhere
    | implied => rfl
    | memory addr base => rfl

theorem Registers.addResult (r : Registers) (value : UInt8) :
    (r.add value).a = r.a + value + r.status.carry.toUInt8 := by
  change UInt8.ofNat (r.a.toNat + value.toNat + r.status.carry.toNat) = _
  rw [UInt8.ofNat_add, UInt8.ofNat_add, UInt8.ofNat_toNat, UInt8.ofNat_toNat]
  cases r.status.carry <;> rfl

theorem Registers.subtractResult (r : Registers) (value : UInt8) :
    (r.subtract value).a = r.a - value - (!r.status.carry).toUInt8 := by
  have complement : ~~~value = -value - 1 := by
    rw [UInt8.neg_eq_not_add]
    grind
  rw [subtract, addResult, complement]
  cases r.status.carry with
  | false => change r.a + (-value - 1) + 0 = r.a - value - 1; grind
  | true => change r.a + (-value - 1) + 1 = r.a - value - 0; grind

structure Registers.Tells (r : Registers) (result : UInt8) (destinations : List Register) :
    Prop where
  zero : r.status.zero = (result == 0)
  negative : r.status.negative = testBit result 7
  destinations : destinations.map r.get = destinations.map fun _ => result

def Action.outcome (action : Action) (byte : UInt8) (r : Registers) : Registers :=
  match action with
  | load use => use byte r
  | modify alter use =>
    let (result, status) := alter byte r.status
    use result { r with status }
  | internal change => change r
  | pull use => use byte { r with sp := r.sp + 1 }
  | _ => r

theorem Operation.outcomeTells {operation : Operation} {byte result : UInt8} {r : Registers}
    (computes : operation.result byte r = some result) :
    (operation.action.outcome byte r).Tells result operation.destinations := by
  have sum (r : Registers) (value : UInt8) :
      (r.add value).Tells (r.a + value + r.status.carry.toUInt8) [.a] := by
    rw [← r.addResult value]
    exact ⟨rfl, rfl, rfl⟩
  have difference (r : Registers) (value : UInt8) :
      (r.subtract value).Tells (r.a - value - (!r.status.carry).toUInt8) [.a] := by
    rw [← r.subtractResult value]
    exact ⟨rfl, rfl, rfl⟩
  cases operation
  case adc => cases computes; exact sum r byte
  case rra => cases computes; exact sum _ _
  case sbc | usbc => cases computes; exact difference r byte
  case isc => cases computes; exact difference r _
  all_goals cases computes <;> exact ⟨rfl, rfl, rfl⟩

theorem Operation.performOutcome {operation : Operation} {operand : Operand}
    (elsewhere : operand ≠ .accumulator) {byte : UInt8} {r : Registers}
    (computes : (operation.result byte r).isSome = true) (s : σ) :
    let performed := operation.action.perform operand r
    (performed.run s).result =
      operation.action.outcome (Access.lastRead (performed.trace s)) r := by
  cases operation
  all_goals cases computes <;>
    cases operand with
    | accumulator => exact absurd rfl elsewhere
    | implied | memory => rfl

theorem Operation.resultSome (operation : Operation) (byte : UInt8) (r : Registers) :
    (operation.result byte r).isSome =
        (operation.flags.contains .zero && !operation.takesFlags) ∧
      operation.flags.contains .negative = operation.flags.contains .zero := by
  cases operation <;> exact ⟨rfl, rfl⟩

def Operation.shifts : Operation → Bool
  | asl | lsr | rol | ror => true
  | _ => false

theorem Operand.resolveAccumulator (mode : Mode) (r : Registers) (s : σ) :
    ((resolve mode r).run s).result.1 = .accumulator ↔ mode = .accumulator := by
  cases mode
  case accumulator => exact iff_of_true rfl rfl
  all_goals exact iff_of_false nofun nofun

theorem Operation.performAccumulator {operation : Operation} (shifts : operation.shifts = true)
    (r : Registers) (s : σ) :
    let r' := ((operation.action.perform .accumulator r).run s).result
    r'.besides [.a] operation.flags = r.besides [.a] operation.flags ∧
      ∀ result, operation.result r.a r = some result → r'.Tells result [.a] := by
  cases operation <;> cases shifts <;>
    exact ⟨rfl, fun result computes => by cases computes; exact ⟨rfl, rfl, rfl⟩⟩

theorem Operation.performSettled {operation : Operation} {flag : Flag} {value : Bool}
    (settles : operation.settles = some (flag, value)) (operand : Operand) (r : Registers)
    (s : σ) :
    ((operation.action.perform operand r).run s).result.status.get flag = value := by
  cases operation <;> cases settles <;> rfl

theorem Operation.performPulled {operation : Operation}
    (pulls : operation = .plp ∨ operation = .rti) (operand : Operand) (r : Registers) (s : σ) :
    ∃ byte rest,
      (operation.action.perform operand r).trace s = .read (word (r.sp + 1) 1) byte :: rest ∧
        ((operation.action.perform operand r).run s).result.status = .ofStack byte := by
  rcases pulls with rfl | rfl <;> exact ⟨_, _, rfl, rfl⟩

theorem Operation.performAltered {operation : Operation} (alters : operation.altersOperand = true)
    (addr base : UInt16) (r : Registers) (s : σ) :
    ∃ byte result,
      (operation.action.perform (.memory addr base) r).trace s =
          [.read addr byte, .write addr result] ∧
        operation.result byte r = some result := by
  cases operation <;> cases alters <;> exact ⟨_, _, rfl, rfl⟩

namespace Instruction
variable {i : Instruction}

-- Only shifts have the accumulator as operand, and what alters its operand has one.
structure Regular (i : Instruction) : Prop where
  accumulator : i.mode = .accumulator → i.operation.shifts = true
  addressed : i.operation.altersOperand = true → i.mode ≠ .accumulator → i.mode.addressed = true

theorem decodeRegular (opcode : UInt8) : (decode opcode).Regular := by
  have table : ∀ opcode : UInt8,
      ((decode opcode).mode = .accumulator → (decode opcode).operation.shifts = true) ∧
        ((decode opcode).operation.altersOperand = true → (decode opcode).mode ≠ .accumulator →
          (decode opcode).mode.addressed = true) := by
    decide +kernel
  exact ⟨(table opcode).1, (table opcode).2⟩

theorem destinationsElsewhere (elsewhere : i.mode ≠ .accumulator) :
    i.destinations = i.operation.destinations :=
  if_neg elsewhere

theorem changesElsewhere (elsewhere : i.mode ≠ .accumulator) :
    i.changes = changes ⟨i.operation, .implied⟩ := by
  rw [changes, destinationsElsewhere elsewhere]
  rfl

theorem changesAccumulator (here : i.mode = .accumulator) (shifts : i.operation.shifts = true) :
    i.changes = [.a] := by
  have still : i.operation.movesStack = false := by
    generalize i.operation = operation at shifts
    cases operation <;> cases shifts <;> rfl
  rw [changes, still, destinations, if_pos here]
  rfl

section
variable (regular : i.Regular) {operand : Operand}
  (accumulator : operand = .accumulator ↔ i.mode = .accumulator) (r : Registers) (s : σ)
include regular accumulator

theorem performParts :
    let r' := ((i.operation.action.perform operand r).run s).result
    let byte := i.operand ((i.operation.action.perform operand r).trace s) r
    r'.besides i.changes i.operation.flags = r.besides i.changes i.operation.flags ∧
      ∀ result, i.operation.result byte r = some result → r'.Tells result i.destinations := by
  intro r' byte
  by_cases here : i.mode = .accumulator
  · have shifts := regular.accumulator here
    have isA : byte = r.a := if_pos here
    obtain rfl := accumulator.mpr here
    rw [changesAccumulator here shifts, destinations, if_pos here, isA]
    exact Operation.performAccumulator shifts r s
  · have elsewhere : operand ≠ .accumulator := fun found => here (accumulator.mp found)
    have isRead : byte = Access.lastRead _ := if_neg here
    rw [changesElsewhere here, destinationsElsewhere here]
    refine ⟨i.operation.performBesides elsewhere r s, fun result computes => ?_⟩
    have done : r' = i.operation.action.outcome byte r := by
      rw [isRead]
      exact Operation.performOutcome elsewhere (Option.isSome_of_eq_some computes) s
    rw [done]
    exact Operation.outcomeTells computes

theorem performEffect (addressed : operand.target?.isSome = i.mode.addressed)
    (running : r.halted = false) :
    let performed := i.operation.action.perform operand r
    i.Effect (performed.trace s) r (performed.run s).result := by
  intro performed
  obtain ⟨frame, tells⟩ := performParts regular accumulator r s
  refine ⟨?_, ?_, ?_, ?_, ?_, ?_, ?_⟩
  · intro register outside
    rw [← Registers.getBesides _ i.operation.flags outside, frame, r.getBesides _ outside]
  · intro flag outside
    rw [← Registers.getFlagBesides _ i.changes outside, frame, r.getFlagBesides _ outside]
  · by_cases jams : i.operation = .jam
    · unfold performed
      rw [jams]
      rfl
    · rw [decide_eq_false jams, Operation.performHalted jams, running]
  · intro flag value settles
    exact Operation.performSettled settles operand r s
  · intro pulls
    exact Operation.performPulled pulls operand r s
  · intro recomputes plain
    let byte := i.operand (performed.trace s) r
    obtain ⟨some, both⟩ := i.operation.resultSome byte r
    have zero : i.operation.flags.contains .zero = true := by
      rcases recomputes with zero | negative
      · exact List.contains_iff_mem.mpr zero
      · exact both ▸ List.contains_iff_mem.mpr negative
    rw [zero, plain] at some
    obtain ⟨result, computes⟩ := Option.isSome_iff_exists.mp some
    have told := tells result computes
    exact ⟨result, computes, told.zero, told.negative, List.map_inj_left.mp told.destinations⟩
  · intro alters elsewhere
    have inMemory := addressed.trans (regular.addressed alters elsewhere)
    cases operand with
    | memory addr base => exact ⟨addr, Operation.performAltered alters addr base r s⟩
    | implied | accumulator => cases inMemory

end
end Instruction

/-- On any device: besides the program counter an instruction changes the registers and the flags of
its operation and no others. What puts a flag to a fixed value does so, a pulled status is that on
the stack, and only a jam halts the processor. Where the zero and the negative flag are set by a
result they tell of the last byte computed, which is what the destinations hold; an operand in
memory that is altered alone takes it too. -/
theorem Cpu.stepEffect (cpu : Cpu) (running : cpu.registers.halted = false) (bus : σ) :
    let r := cpu.registers
    let i := Instruction.decode (Device.read r.pc bus).1
    i.Effect (r.data bus) r (cpu.step bus).2.1.registers := by
  intro r i
  let fetched : Registers := { r with pc := r.pc + 1 }
  let found := (Operand.resolve i.mode fetched).run (Device.read r.pc bus).2
  let next : Registers := { r with pc := r.pc + 1 + i.mode.length }
  let performed := i.operation.action.perform found.result.1 next
  have resolved : found.result.2 = next := Operand.resolveNext i.mode fetched _
  have stepped : (cpu.step bus).2.1.registers = (performed.run found.device).result := by
    rw [Cpu.step, Cpu.spend, if_neg (Bool.eq_false_iff.mp running), Registers.instructionRun]
    unfold performed
    rw [← resolved]
  have data : r.data bus = performed.trace found.device := by
    unfold performed
    rw [← resolved]
    rfl
  have accumulator : found.result.1 = .accumulator ↔ i.mode = .accumulator :=
    Operand.resolveAccumulator i.mode fetched _
  have addressed : found.result.1.target?.isSome = i.mode.addressed :=
    Operand.resolveAddressed i.mode fetched _
  rw [stepped, data]
  -- Nothing in the effect is about the program counter.
  obtain ⟨registers, flags, halted, settled, pulled, computed, altered⟩ :=
    Instruction.performEffect (Instruction.decodeRegular _) accumulator next found.device addressed
      running
  exact ⟨registers, flags, halted, settled, pulled, computed, altered⟩

theorem Cpu.stepEffectShared :
    let before : Registers := { y := 2, sp := 0x9D, status := { carry := true, decimal := true } }
    let after : Registers :=
      { a := 0x91, x := 0x91, y := 2, sp := 0x91, pc := 3
        status := { carry := true, decimal := true, negative := true } }
    let bus : Script := ⟨[0xBB, 0xFE, 0x02, 0xF3]⟩
    before.halted = false ∧ ((⟨before, 0, 0⟩ : Cpu).step bus).2.1.registers = after ∧
      Instruction.Effect ⟨.las, .absoluteY⟩ [.read 0x0300 0xF3] before after := by
  intro before after bus
  have running : before.halted = false := rfl
  have stepped : ((⟨before, 0, 0⟩ : Cpu).step bus).2.1.registers = after := by decide +kernel
  have decoded : Instruction.decode (Device.read before.pc bus).1 = ⟨.las, .absoluteY⟩ := by
    decide +kernel
  have data : before.data bus = [.read 0x0300 0xF3] := by decide +kernel
  have effect : (Instruction.decode (Device.read before.pc bus).1).Effect (before.data bus) before
      ((⟨before, 0, 0⟩ : Cpu).step bus).2.1.registers := Cpu.stepEffect ⟨before, 0, 0⟩ running bus
  rw [stepped, decoded, data] at effect
  exact ⟨running, stepped, effect⟩

end Nes
