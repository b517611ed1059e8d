import Nes.Proofs.Cpu.Accesses
import Nes.Proofs.Cpu.EntryPoints
import Nes.Proofs.Cpu.InterruptReturn

/-! The data that a row of instructions moves: the bytes that operations read from their operands
and write to them. In plain memory these are the bytes that it holds before and after the row, if
nothing comes to an address again that has been written. -/
namespace Nes

variable {σ : Type} [Device σ]

def Registers.data (r : Registers) (s : σ) : List Access :=
  let opcode := Device.read r.pc s
  let i := Instruction.decode opcode.1
  let found := (Operand.resolve i.mode { r with pc := r.pc + 1 }).run opcode.2
  (i.operation.action.perform found.result.1 found.result.2).trace found.device

namespace Call

def data (state : Cpu × σ) : List Access :=
  if state.1.registers.halted then [] else state.1.registers.data state.2

def steps (state : Cpu × σ) (n : Nat) : Cpu × σ :=
  takeAll state (List.replicate n .step)

def dataAll (state : Cpu × σ) : Nat → List Access
  | 0 => []
  | n + 1 => data state ++ dataAll (take state .step) n

def Next (state : Cpu × σ) (operation : Operation) : Prop :=
  let i := Instruction.decode (Device.read state.1.registers.pc state.2).1
  state.1.registers.halted = false ∧ i.operation = operation ∧ i.mode.addressed = true

def Follows (state : Cpu × σ) : List Operation → Prop
  | [] => True
  | operation :: rest => Next state operation ∧ Follows (take state .step) rest

instance (state : Cpu × σ) (operation : Operation) : Decidable (Next state operation) :=
  inferInstanceAs (Decidable (_ ∧ _ ∧ _))

instance decidableFollows (state : Cpu × σ) : (operations : List Operation) →
    Decidable (Follows state operations)
  | [] => inferInstanceAs (Decidable True)
  | operation :: rest =>
    have := decidableFollows (take state .step) rest
    inferInstanceAs (Decidable (Next state operation ∧ Follows (take state .step) rest))

theorem dataRunning {cpu : Cpu} (running : cpu.registers.halted = false) (bus : σ) :
    data (cpu, bus) = cpu.registers.data bus :=
  if_neg (Bool.eq_false_iff.mp running)

theorem Next.performs {state : Cpu × σ} {operation : Operation} (next : Next state operation) :
    ∃ (addr base pc : UInt16) (device : σ),
      let performed := operation.action.perform (.memory addr base) { state.1.registers with pc }
      data state = performed.trace device ∧
        (take state .step).1.registers = (performed.run device).result := by
  obtain ⟨cpu, bus⟩ := state
  obtain ⟨running, rfl, addressed⟩ := next
  let i := Instruction.decode (Device.read cpu.registers.pc bus).1
  let found := (Operand.resolve i.mode { cpu.registers with pc := cpu.registers.pc + 1 }).run
    (Device.read cpu.registers.pc bus).2
  obtain ⟨addr, base, operand⟩ : ∃ addr base, found.result.1 = .memory addr base := by
    have inMemory : found.result.1.target?.isSome = true :=
      (Operand.resolveAddressed i.mode _ _).trans addressed
    cases operand : found.result.1 with
    | memory addr base => exact ⟨addr, base, rfl⟩
    | implied | accumulator => rw [operand] at inMemory; cases inMemory
  have fetched : found.result.2 =
      { cpu.registers with pc := cpu.registers.pc + 1 + i.mode.length } :=
    Operand.resolveNext i.mode _ _
  refine ⟨addr, base, cpu.registers.pc + 1 + i.mode.length, found.device, ?_, ?_⟩
  · rw [dataRunning running, ← operand, ← fetched]
    rfl
  · rw [takeStep running, Registers.instructionRun, ← operand, ← fetched]

section
variable {state : Cpu × σ} {operation : Operation} (next : Next state operation)
include next

theorem Next.load {use : UInt8 → Registers → Registers} (loads : operation.action = .load use) :
    ∃ addr value pc, data state = [.read addr value] ∧
      (take state .step).1.registers = use value { state.1.registers with pc } := by
  obtain ⟨addr, base, pc, device, data, registers⟩ := next.performs
  rw [loads] at data registers
  exact ⟨addr, _, pc, data, registers⟩

theorem Next.store {value : Registers → UInt8} (stores : operation.action = .store value) :
    ∃ addr pc, data state = [.write addr (value { state.1.registers with pc })] ∧
      (take state .step).1.registers = { state.1.registers with pc } := by
  obtain ⟨addr, base, pc, device, data, registers⟩ := next.performs
  rw [stores] at data registers
  exact ⟨addr, pc, data, registers⟩

theorem Next.modify {alter : Alteration} {use : UInt8 → Registers → Registers}
    (modifies : operation.action = .modify alter use) :
    ∃ addr value pc,
      let altered := alter value state.1.registers.status
      data state = [.read addr value, .write addr altered.1] ∧
        (take state .step).1.registers =
          use altered.1 { state.1.registers with status := altered.2, pc } := by
  obtain ⟨addr, base, pc, device, data, registers⟩ := next.performs
  rw [modifies] at data registers
  exact ⟨addr, _, pc, data, registers⟩

end

theorem followsAppend (state : Cpu × σ) (xs ys : List Operation) :
    Follows state (xs ++ ys) ↔
      Follows state xs ∧ Follows (steps state xs.length) ys := by
  induction xs generalizing state with
  | nil => exact (and_iff_right trivial).symm
  | cons operation rest ih =>
    rw [List.cons_append, Follows, ih, Follows, and_assoc]
    rfl

theorem stepsAdd (state : Cpu × σ) (m n : Nat) :
    steps state (m + n) = steps (steps state m) n := by
  unfold steps takeAll
  rw [← List.replicate_append_replicate, List.foldl_append]

theorem dataAllAdd (state : Cpu × σ) (m n : Nat) :
    dataAll state (m + n) = dataAll state m ++ dataAll (steps state m) n := by
  induction m generalizing state with
  | zero => rw [Nat.zero_add]; rfl
  | succ m ih =>
    rw [Nat.succ_add, dataAll, ih, dataAll, List.append_assoc]
    rfl

end Call

inductive FlatMemory.Replays : FlatMemory → List Access → FlatMemory → Prop where
  | nil (memory : FlatMemory) : Replays memory [] memory
  | read {memory last : FlatMemory} {rest : List Access} (addr : UInt16)
      (next : Replays memory rest last) :
      Replays memory (.read addr (memory.byte addr) :: rest) last
  | write {memory last : FlatMemory} {rest : List Access} (addr : UInt16) (value : UInt8)
      (next : Replays (Device.write addr value memory) rest last) :
      Replays memory (.write addr value :: rest) last

def Access.addr : Access → UInt16
  | read addr _ | write addr _ => addr

def Access.Held (before after : FlatMemory) : Access → Prop
  | read addr value => before.byte addr = value
  | write addr value => after.byte addr = value

def Access.Spares : Access → Access → Prop
  | read .., _ => True
  | write addr _, later => later.addr ≠ addr

instance : (first later : Access) → Decidable (first.Spares later)
  | .read .., _ => inferInstanceAs (Decidable True)
  | .write addr _, later => inferInstanceAs (Decidable (later.addr ≠ addr))

namespace FlatMemory.Replays
variable {memory middle last : FlatMemory} {xs ys : List Access}

theorem append (first : Replays memory xs middle) (second : Replays middle ys last) :
    Replays memory (xs ++ ys) last := by
  induction first with
  | nil => exact second
  | read addr next ih => exact .read addr (ih second)
  | write addr value next ih => exact .write addr value (ih second)

theorem other (replays : Replays memory xs last) {addr : UInt16}
    (elsewhere : ∀ access ∈ xs, access.addr ≠ addr) : last.byte addr = memory.byte addr := by
  induction replays with
  | nil => rfl
  | read asked next ih => exact ih (List.forall_mem_cons.mp elsewhere).2
  | write written value next ih =>
    obtain ⟨here, later⟩ := List.forall_mem_cons.mp elsewhere
    exact (ih later).trans ((byteWrite _ _ _ _).trans (if_neg here))

theorem held (replays : Replays memory xs last) (spared : xs.Pairwise Access.Spares) :
    ∀ access ∈ xs, access.Held memory last := by
  induction replays with
  | nil => exact nofun
  | read asked next ih =>
    exact List.forall_mem_cons.mpr ⟨rfl, ih (List.pairwise_cons.mp spared).2⟩
  | write written value next ih =>
    obtain ⟨elsewhere, later⟩ := List.pairwise_cons.mp spared
    refine List.forall_mem_cons.mpr ⟨?_, fun access member => ?_⟩
    · exact (next.other elsewhere).trans ((byteWrite _ _ _ _).trans (if_pos rfl))
    · have kept := ih later access member
      cases access with
      | read addr byte =>
        have apart : written ≠ addr := (elsewhere _ member).symm
        exact ((byteWrite _ _ _ _).trans (if_neg apart)).symm.trans kept
      | write addr byte => exact kept

end FlatMemory.Replays

theorem Transaction.replays {α : Type} (t : Transaction α) (memory : FlatMemory) :
    FlatMemory.Replays memory (t.trace memory) (t.run memory).device := by
  induction t generalizing memory with
  | done result => exact .nil memory
  | idle next ih => exact ih memory
  | read addr next ih => exact .read addr (ih _ memory)
  | write addr value next ih => exact .write addr value (ih _)

theorem Operand.resolveFlat (mode : Mode) (r : Registers) (memory : FlatMemory) :
    ((resolve mode r).run memory).device = memory := by
  cases mode <;> rfl

namespace Call

theorem replaysData (state : Cpu × FlatMemory) :
    FlatMemory.Replays state.2 (data state) (take state .step).2 := by
  obtain ⟨cpu, memory⟩ := state
  cases halted : cpu.registers.halted with
  | true =>
    have none : data (cpu, memory) = [] := if_pos halted
    have gated : Call.step ≠ .brk := nofun
    rw [none, takeGated halted gated]
    exact .nil memory
  | false =>
    let r := cpu.registers
    let i := Instruction.decode (memory.byte r.pc)
    let found := (Operand.resolve i.mode { r with pc := r.pc + 1 }).run memory
    let performed := i.operation.action.perform found.result.1 found.result.2
    have same : found.device = memory := Operand.resolveFlat _ _ _
    have moved : r.data memory = performed.trace memory := congrArg performed.trace same
    have after : (r.instruction.run memory).device = (performed.run memory).device :=
      (r.runInstruction memory).2.trans (congrArg (fun m => (performed.run m).device) same)
    rw [dataRunning halted, takeStep halted, moved]
    change FlatMemory.Replays memory _ (r.instruction.run memory).device
    rw [after]
    exact performed.replays memory

theorem replaysAll (state : Cpu × FlatMemory) (n : Nat) :
    FlatMemory.Replays state.2 (dataAll state n) (steps state n).2 := by
  induction n generalizing state with
  | zero => exact .nil state.2
  | succ n ih => exact (replaysData state).append (ih (take state .step))

theorem heldAll (state : Cpu × FlatMemory) (n : Nat)
    (spared : (dataAll state n).Pairwise Access.Spares) :
    ∀ access ∈ dataAll state n, access.Held state.2 (steps state n).2 :=
  (replaysAll state n).held spared

end Call

end Nes
