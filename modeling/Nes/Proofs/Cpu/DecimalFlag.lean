import Nes.Proofs.Cpu.DeviceMap
import Nes.Proofs.Cpu.EntryPoints

/-! The decimal flag. There is no decimal arithmetic: two processors that differ in the flag go the
same way on the same bus, and differ in the flag at most, as long as the status is not pushed. -/
namespace Nes

section
variable {α β σ : Type} [Device σ] (f : α → β) (t : Transaction α) (s : σ)

theorem Transaction.runMap :
    (f <$> t).run s = ⟨f (t.run s).result, (t.run s).device, (t.run s).cycles⟩ := by
  rw [map_eq_pure_bind, runBind]
  rfl

theorem Transaction.traceMap : (f <$> t).trace s = t.trace s := by
  rw [map_eq_pure_bind, traceBind]
  exact List.append_nil _

end

def Registers.withDecimal (r : Registers) (decimal : Bool) : Registers :=
  { r with status := { r.status with decimal } }

def Operation.setsDecimal : Operation → Bool
  | cld | sed | plp | rti => true
  | _ => false

def Operation.pushesStatus : Operation → Bool
  | php | brk => true
  | _ => false

def Operation.passDecimal (operation : Operation) (decimal : Bool) (r : Registers) : Registers :=
  if operation.setsDecimal then r else r.withDecimal decimal

theorem Operation.passDecimalSome (operation : Operation) (decimal : Bool) (r : Registers) :
    ∃ decimal', operation.passDecimal decimal r = r.withDecimal decimal' := by
  unfold passDecimal
  split
  · exact ⟨r.status.decimal, rfl⟩
  · exact ⟨decimal, rfl⟩

theorem Operand.resolveDecimal (mode : Mode) (r : Registers) (decimal : Bool) :
    resolve mode (r.withDecimal decimal) =
      (fun found => (found.1, found.2.withDecimal decimal)) <$> resolve mode r := by
  cases mode <;> rfl

theorem Action.branchDecimal (taken : Status → Bool) (operand : Operand) (r : Registers)
    (decimal : Bool) (blind : taken (r.withDecimal decimal).status = taken r.status) :
    (branch taken).perform operand (r.withDecimal decimal) =
      (·.withDecimal decimal) <$> (branch taken).perform operand r := by
  simp only [perform, blind]
  cases taken r.status <;> cases operand <;> rfl

theorem Operation.performDecimal {operation : Operation}
    (quiet : operation.pushesStatus = false) (operand : Operand) (r : Registers)
    (decimal : Bool) :
    operation.action.perform operand (r.withDecimal decimal) =
      operation.passDecimal decimal <$> operation.action.perform operand r := by
  cases operation
  case php | brk => cases quiet
  case bcc | bcs | bne | beq | bpl | bmi | bvc | bvs =>
    exact Action.branchDecimal _ operand r decimal rfl
  all_goals cases operand <;> rfl

def Instruction.execute (i : Instruction) (r : Registers) : Transaction Registers := do
  let (operand, r) ← Operand.resolve i.mode r
  i.operation.action.perform operand r

theorem Instruction.executeDecimal {i : Instruction} (quiet : i.operation.pushesStatus = false)
    (r : Registers) (decimal : Bool) :
    i.execute (r.withDecimal decimal) = i.operation.passDecimal decimal <$> i.execute r := by
  unfold execute
  rw [Operand.resolveDecimal, bind_map_left, map_bind]
  refine bind_congr fun found => ?_
  exact Operation.performDecimal quiet found.1 found.2 decimal

variable {σ : Type} [Device σ]

theorem Registers.instructionDecimal {r : Registers} {s : σ} {operation : Operation}
    (next : (Instruction.decode (Device.read r.pc s).1).operation = operation)
    (quiet : operation.pushesStatus = false) (decimal : Bool) :
    (r.withDecimal decimal).instruction.run s =
        (operation.passDecimal decimal <$> r.instruction).run s ∧
      (r.withDecimal decimal).instruction.trace s = r.instruction.trace s := by
  subst next
  let fetched : Registers := { r with pc := r.pc + 1 }
  let answer := Device.read r.pc s
  let execute := (Instruction.decode answer.1).execute
  have same : execute (fetched.withDecimal decimal) = _ <$> execute fetched :=
    Instruction.executeDecimal quiet fetched decimal
  constructor
  · have here : r.instruction.run s =
        let done := (execute fetched).run answer.2
        { done with cycles := done.cycles + 1 } := rfl
    have there : (r.withDecimal decimal).instruction.run s =
        let done := (execute (fetched.withDecimal decimal)).run answer.2
        { done with cycles := done.cycles + 1 } := rfl
    rw [there, same, Transaction.runMap, Transaction.runMap, here]
  · have here : r.instruction.trace s =
        .read r.pc answer.1 :: (execute fetched).trace answer.2 := rfl
    have there : (r.withDecimal decimal).instruction.trace s =
        .read r.pc answer.1 :: (execute (fetched.withDecimal decimal)).trace answer.2 := rfl
    rw [there, same, Transaction.traceMap, here]

namespace Call

def nextOperation (state : Cpu × σ) : Option Operation :=
  if state.1.registers.halted then none
  else some (Instruction.decode (Device.read state.1.registers.pc state.2).1).operation

end Call

def Cpu.withDecimal (cpu : Cpu) (decimal : Bool) : Cpu :=
  { cpu with registers := cpu.registers.withDecimal decimal }

namespace Call

theorem stepDecimal {state : Cpu × σ}
    (quiet : ∀ operation ∈ nextOperation state, operation.pushesStatus = false)
    (decimal : Bool) :
    let other := (state.1.withDecimal decimal, state.2)
    accesses other .step = accesses state .step ∧
      ∃ decimal', take other .step =
        ((take state .step).1.withDecimal decimal', (take state .step).2) := by
  intro other
  obtain ⟨cpu, bus⟩ := state
  have gated : Call.step ≠ .brk := nofun
  cases halted : cpu.registers.halted with
  | true =>
    have halted' : (cpu.withDecimal decimal).registers.halted = true := halted
    rw [accessesGated halted' gated, accessesGated halted gated, takeGated halted' gated,
      takeGated halted gated]
    exact ⟨rfl, decimal, rfl⟩
  | false =>
    have running : (cpu.withDecimal decimal).registers.halted = false := halted
    have next : nextOperation (cpu, bus) = some _ := if_neg (Bool.eq_false_iff.mp halted)
    obtain ⟨run, trace⟩ := Registers.instructionDecimal rfl (quiet _ next) decimal
    obtain ⟨decimal', passed⟩ := Operation.passDecimalSome _ decimal
      (cpu.registers.instruction.run bus).result
    rw [Transaction.runMap, passed] at run
    refine ⟨?_, decimal', ?_⟩
    · rw [accessesWork, accessesWork, workStep running, workStep halted]
      exact trace
    · rw [takeStep running, takeStep halted]
      change (let done := (cpu.registers.withDecimal decimal).instruction.run bus
        (Cpu.mk done.result done.cycles (cpu.totalCycles + done.cycles), done.device)) = _
      rw [run]
      rfl

theorem stepsDecimal {state : Cpu × σ} {n : Nat}
    (quiet : ∀ k < n, ∀ operation ∈ nextOperation (takeAll state (List.replicate k .step)),
      operation.pushesStatus = false) (decimal : Bool) :
    let steps := List.replicate n Call.step
    let other := (state.1.withDecimal decimal, state.2)
    accessesAll other steps = accessesAll state steps ∧
      ∃ decimal', takeAll other steps =
        ((takeAll state steps).1.withDecimal decimal', (takeAll state steps).2) := by
  induction n generalizing state decimal with
  | zero => exact ⟨rfl, decimal, rfl⟩
  | succ n ih =>
    intro steps other
    have now : ∀ operation ∈ nextOperation state, operation.pushesStatus = false :=
      quiet 0 n.succ_pos
    obtain ⟨seen, decimal', taken⟩ := stepDecimal now decimal
    have later : ∀ k < n, ∀ operation ∈ nextOperation
        (takeAll (take state .step) (List.replicate k .step)), operation.pushesStatus = false :=
      fun k inside => quiet (k + 1) (Nat.succ_lt_succ inside)
    obtain ⟨seen', last, taken'⟩ := ih later decimal'
    have first : steps = .step :: List.replicate n .step := rfl
    rw [first, accessesAll, accessesAll, seen, taken, seen']
    refine ⟨rfl, last, ?_⟩
    rw [takeAll, List.foldl_cons, taken]
    exact taken'

/-- Two processors that differ in the decimal flag, on the same bus. As long as neither PHP nor BRK
is next, their instructions make the same accesses in the same order and leave the bus, the
registers, the counters and the other flags the same. -/
theorem decimalNeverComputes (cpu : Cpu) (decimal : Bool) (bus : σ) (n : Nat)
    (quiet : ∀ k < n, ∀ operation ∈ nextOperation (takeAll (cpu, bus) (List.replicate k .step)),
      operation ≠ .php ∧ operation ≠ .brk) :
    let steps := List.replicate n Call.step
    let done := takeAll (cpu, bus) steps
    let other := takeAll (cpu.withDecimal decimal, bus) steps
    accessesAll (cpu.withDecimal decimal, bus) steps = accessesAll (cpu, bus) steps ∧
      ∃ decimal', other = (done.1.withDecimal decimal', done.2) := by
  refine @stepsDecimal _ _ (cpu, bus) n (fun k inside operation next => ?_) decimal
  obtain ⟨php, brk⟩ := quiet k inside operation next
  cases operation
  case php => exact absurd rfl php
  case brk => exact absurd rfl brk
  all_goals rfl

theorem decimalNeverComputesSum :
    let cpu : Cpu := { registers := { a := 0x19 } }
    let bus : Script := ⟨[0x69, 0x28, 0x6B, 0x7F, 0x67, 0x10, 0x33]⟩
    let steps := List.replicate 3 Call.step
    let done := takeAll (cpu, bus) steps
    let other := takeAll (cpu.withDecimal true, bus) steps
    done.1.registers.a = 0x3A ∧
    accessesAll (cpu.withDecimal true, bus) steps = accessesAll (cpu, bus) steps ∧
      ∃ decimal', other = (done.1.withDecimal decimal', done.2) := by
  intro cpu bus steps done other
  refine ⟨by decide +kernel, decimalNeverComputes cpu true bus 3 ?_⟩
  decide +kernel

end Call

end Nes
