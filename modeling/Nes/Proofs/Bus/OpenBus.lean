import Nes.Proofs.Bus.Signals
import Nes.Proofs.Controller.ShiftProtocol
import Nes.Proofs.Cpu.Accesses

/-! Reads that no device answers. They give the byte that was last on the bus, and to a program
that is the high byte of the address that it wrote down or that its pointer holds: the byte that
the addressing mode fetches last, before it indexes. -/
namespace Nes

def Mode.endsWithAddress : Mode → Bool
  | .absolute | .absoluteX | .absoluteY | .indirectX | .indirectY => true
  | _ => false

theorem Mode.Finds.lastFetch {mode : Mode} {r : Registers} {found : List Access}
    {operand : Operand} (finds : mode.Finds r found operand) (ends : mode.endsWithAddress = true) :
    ∃ addr base last, operand = .memory addr base ∧
      found.getLast? = some (.read last (highByte base)) := by
  have whole (last : UInt16) (low high : UInt8) :
      some (Access.read last high) = some (.read last (highByte (word low high))) := by
    rw [highByteWord]
  cases finds with
  | absolute | absoluteX | absoluteY | indirectX | indirectY =>
    exact ⟨_, _, _, rfl, whole _ _ _⟩
  | _ => cases ends

def Action.useByte (action : Action) (addr : UInt16) (value : UInt8) (r : Registers) :
    Transaction Registers :=
  match action with
  | load use => return use value r
  | modify alter use => do
    Transaction.wait
    let (result, status) := alter value r.status
    Transaction.writeByte addr result
    return use result { r with status }
  | _ => return r

def Operation.reads (operation : Operation) : Bool :=
  match operation.busUse with
  | .read | .readWrite => true
  | _ => false

theorem Operation.readsAction {operation : Operation} (reads : operation.reads = true) :
    (∃ use, operation.action = .load use) ∨ ∃ alter use, operation.action = .modify alter use := by
  cases operation
  all_goals first
    | exact .inl ⟨_, rfl⟩
    | exact .inr ⟨_, _, rfl⟩
    | cases reads

theorem Operation.performReads {operation : Operation} (reads : operation.reads = true)
    (addr base : UInt16) (r : Registers) :
    operation.action.perform (.memory addr base) r =
      Transaction.readByte addr >>= fun value => operation.action.useByte addr value r := by
  obtain ⟨use, load⟩ | ⟨alter, use, modify⟩ := readsAction reads
  · rw [load]
    rfl
  · rw [modify]
    rfl

def Unmapped (addr : UInt16) : Prop :=
  0x4000 ≤ addr ∧ addr ≤ 0x4014 ∨ 0x4018 ≤ addr ∧ addr < 0x8000

instance (addr : UInt16) : Decidable (Unmapped addr) :=
  inferInstanceAs (Decidable (_ ∨ _))

theorem orBit (high : UInt8) {bit : UInt8} (single : bit = 0 ∨ bit = 1) :
    high &&& 0xE0 ||| bit = (high &&& 0xE0) + bit := by
  rcases single with rfl | rfl
  · rw [UInt8.or_zero, UInt8.add_zero]
  · revert high
    decide +kernel

namespace Bus
variable (bus : Bus)

theorem runLatch {α : Type} (t : Transaction α) (bus : Bus) {last : UInt16} {value : UInt8}
    (reads : (t.trace bus).getLast? = some (.read last value)) :
    (t.run bus).device.openBus = value := by
  induction t generalizing bus with
  | done => cases reads
  | idle next ih => exact ih bus reads
  | read addr next ih =>
    have after := (next (bus.read addr).1).replay (bus.read addr).2
    change (Access.read addr (bus.read addr).1 ::
      (next (bus.read addr).1).trace (bus.read addr).2).getLast? = _ at reads
    change ((next (bus.read addr).1).run (bus.read addr).2).device.openBus = value
    cases rest : (next (bus.read addr).1).trace (bus.read addr).2 with
    | nil =>
      rw [rest] at reads after
      cases reads
      rw [← after]
      rfl
    | cons access more =>
      rw [rest, List.getLast?_cons_cons, ← rest] at reads
      exact ih _ _ reads
  | write addr value' next ih =>
    change (Access.write addr value' :: next.trace (bus.write addr value')).getLast? = _ at reads
    change (next.run (bus.write addr value')).device.openBus = value
    cases rest : next.trace (bus.write addr value') with
    | nil =>
      rw [rest] at reads
      cases reads
    | cons access more =>
      rw [rest, List.getLast?_cons_cons, ← rest] at reads
      exact ih _ reads

theorem readUnmapped {addr : UInt16} (unmapped : Unmapped addr) :
    bus.read addr = (bus.openBus, bus) := by
  have place : 0x4000 ≤ addr.toNat ∧ addr.toNat ≤ 0x4014 ∨
      0x4018 ≤ addr.toNat ∧ addr.toNat < 0x8000 := unmapped
  have answered : bus.answer addr = (bus.openBus, bus) := by
    unfold answer
    simp only [UInt16.lt_iff_toNat_lt, UInt16.reduceToNat]
    rw [if_neg (by omega), if_neg (by omega)]
    split
    · split
      case h_4 => rfl
      all_goals omega
    · cases bus.video.cart with
      | none => rfl
      | some cart =>
        have low : addr < 0x8000 := UInt16.lt_iff_toNat_lt.mpr (by simp; omega)
        have below : cart.cpuRead addr = none := if_pos low
        rw [Option.bind_some, below]
        rfl
  rw [read, answered]

theorem readPort :
    bus.read 0x4016 =
      ((bus.openBus &&& 0xE0) + bus.controller.read.1,
        { bus with
          controller := bus.controller.read.2
          openBus := (bus.openBus &&& 0xE0) + bus.controller.read.1 }) := by
  rw [← orBit _ bus.controller.readBit]
  rfl

end Bus

theorem Registers.instructionReads {r : Registers} {bus : Bus} {i : Instruction}
    (decoded : Instruction.decode (bus.read r.pc).1 = i) (reads : i.operation.reads = true)
    (ends : i.mode.endsWithAddress = true) :
    ∃ found addr base last,
      let fetches := Access.read r.pc (bus.read r.pc).1 :: found
      let fetched := fetches.foldl Access.perform bus
      let loaded := fetched.read addr
      let rest := i.operation.action.useByte addr loaded.1 { r with pc := r.pc + 1 + i.mode.length }
      i.mode.Finds { r with pc := r.pc + 1 } found (.memory addr base) ∧
        found.getLast? = some (.read last (highByte base)) ∧
        fetched.openBus = highByte base ∧
        r.instruction.trace bus = fetches ++ .read addr loaded.1 :: rest.trace loaded.2 ∧
        (r.instruction.run bus).result = (rest.run loaded.2).result ∧
        (r.instruction.run bus).device = (rest.run loaded.2).device := by
  subst decoded
  let i := Instruction.decode (bus.read r.pc).1
  let resolve := Operand.resolve i.mode { r with pc := r.pc + 1 }
  let found := resolve.run (bus.read r.pc).2
  have finds : i.mode.Finds { r with pc := r.pc + 1 } (resolve.trace (bus.read r.pc).2)
      found.result.1 := Operand.resolveFinds i.mode _ _
  obtain ⟨addr, base, last, operand, lastFetch⟩ := finds.lastFetch ends
  have next : found.result.2 = { r with pc := r.pc + 1 + i.mode.length } :=
    Operand.resolveNext i.mode { r with pc := r.pc + 1 } (bus.read r.pc).2
  have replayed : (Access.read r.pc (bus.read r.pc).1 :: resolve.trace (bus.read r.pc).2).foldl
      Access.perform bus = found.device := resolve.replay (bus.read r.pc).2
  have performs : i.operation.action.perform found.result.1 found.result.2 =
      Transaction.readByte addr >>= fun value =>
        i.operation.action.useByte addr value { r with pc := r.pc + 1 + i.mode.length } := by
    rw [operand, next, Operation.performReads reads]
  have trace : r.instruction.trace bus = .read r.pc (bus.read r.pc).1 ::
      (resolve.trace (bus.read r.pc).2 ++
        (i.operation.action.perform found.result.1 found.result.2).trace found.device) :=
    r.instructionTrace bus
  have result : (r.instruction.run bus).result =
      ((i.operation.action.perform found.result.1 found.result.2).run found.device).result := by
    rw [instructionRun]
    rfl
  have device : (r.instruction.run bus).device =
      ((i.operation.action.perform found.result.1 found.result.2).run found.device).device := by
    rw [instructionRun]
    rfl
  rw [performs] at trace result device
  rw [operand] at finds
  refine ⟨resolve.trace (bus.read r.pc).2, addr, base, last, ?_⟩
  simp only [replayed]
  exact ⟨finds, lastFetch, Bus.runLatch _ _ lastFetch, trace, result, device⟩

/-- A program that reads where nothing answers gets the byte that it fetched last, which is the
high byte of the address before indexing, and the read changes nothing. Of the port of the
controller it gets the upper three bits from that byte, and the last from one read of the
controller. -/
theorem Bus.openBusLoads (cpu : Cpu) (bus : Bus) (running : cpu.registers.halted = false) :
    let r := cpu.registers
    let i := Instruction.decode (bus.read r.pc).1
    i.operation.reads = true → i.mode.endsWithAddress = true →
    ∃ found addr base last,
      let fetches := Access.read r.pc (bus.read r.pc).1 :: found
      let fetched := fetches.foldl Access.perform bus
      let loaded := fetched.read addr
      let rest := i.operation.action.useByte addr loaded.1 { r with pc := r.pc + 1 + i.mode.length }
      let stepped := cpu.step bus
      i.mode.Finds { r with pc := r.pc + 1 } found (.memory addr base) ∧
        found.getLast? = some (.read last (highByte base)) ∧
        r.instruction.trace bus = fetches ++ .read addr loaded.1 :: rest.trace loaded.2 ∧
        stepped.2.1.registers = (rest.run loaded.2).result ∧
        stepped.2.2 = (rest.run loaded.2).device ∧
        (Unmapped addr → loaded = (highByte base, fetched)) ∧
        (addr = 0x4016 →
          let bit := fetched.controller.read.1
          (bit = 0 ∨ bit = 1) ∧ loaded.1 = (highByte base &&& 0xE0) + bit ∧
            loaded.2 = { fetched with
              controller := fetched.controller.read.2
              openBus := loaded.1 }) := by
  intro r i reads ends
  have go : ¬cpu.registers.halted = true := by simp [running]
  obtain ⟨found, addr, base, last, finds, lastFetch, latch, trace, result, device⟩ :=
    Registers.instructionReads (rfl : _ = i) reads ends
  refine ⟨found, addr, base, last, finds, lastFetch, trace, ?_, ?_, fun unmapped => ?_, ?_⟩
  · rw [Cpu.step, Cpu.spend, if_neg go]
    exact result
  · rw [Cpu.step, Cpu.spend, if_neg go]
    exact device
  · rw [readUnmapped _ unmapped, latch]
  · rintro rfl
    rw [readPort, latch]
    exact ⟨Controller.readBit _, rfl, rfl⟩

def Bus.loading : Bus where
  ram := WorkRam.clear.writeAll 0 [0xBD, 0xFF, 0x4F, 0xB1, 0x05, 0xF6, 0x3F]
  apu := .standard
  controller := { shift := 1 }

theorem Bus.openBusLoadsIndexed :
    let indexed : Cpu := { registers := { x := 1 } }
    let pointed : Cpu := { registers := { pc := 3, y := 0x20 } }
    let fetched := [.read 0 0xBD, .read 1 0xFF, .read 2 0x4F].foldl Access.perform loading
    let fetched' :=
      [.read 3 0xB1, .read 4 0x05, .read 5 0xF6, .read 6 0x3F].foldl Access.perform loading
    fetched.read 0x5000 = (0x4F, fetched) ∧ (indexed.step loading).2.1.registers.a = 0x4F ∧
      (fetched'.read 0x4016).1 = 0x20 + 1 ∧ (pointed.step loading).2.1.registers.a = 0x20 + 1 := by
  intro indexed pointed fetched fetched'
  have first : Instruction.decode (loading.read 0).1 = ⟨.lda, .absoluteX⟩ := by decide +kernel
  have second : Instruction.decode (loading.read 3).1 = ⟨.lda, .indirectY⟩ := by decide +kernel
  have log : indexed.registers.instruction.trace loading =
      [.read 0 0xBD, .read 1 0xFF, .read 2 0x4F, .read 0x5000 0x4F] := by decide +kernel
  have log' : pointed.registers.instruction.trace loading =
      [.read 3 0xB1, .read 4 0x05, .read 5 0xF6, .read 6 0x3F, .read 0x4016 0x21] := by
    decide +kernel
  refine ⟨?_, by decide +kernel, ?_, by decide +kernel⟩
  · have loads := openBusLoads indexed loading rfl
    simp only [show indexed.registers.pc = 0 from rfl, first] at loads
    obtain ⟨found, addr, base, last, finds, -, trace, -, -, unmapped, -⟩ := loads rfl rfl
    cases finds with
    | absoluteX low high =>
      rw [log] at trace
      simp only [List.cons_append, List.cons.injEq, Access.read.injEq] at trace
      obtain ⟨-, ⟨-, rfl⟩, ⟨-, rfl⟩, -⟩ := trace
      exact unmapped (by decide)
  · have loads := openBusLoads pointed loading rfl
    simp only [show pointed.registers.pc = 3 from rfl, second] at loads
    obtain ⟨found, addr, base, last, finds, -, trace, -, -, -, port⟩ := loads rfl rfl
    cases finds with
    | indirectY low low' high' =>
      rw [log'] at trace
      simp only [List.cons_append, List.cons.injEq, Access.read.injEq] at trace
      obtain ⟨-, ⟨-, rfl⟩, ⟨-, rfl⟩, ⟨-, rfl⟩, -⟩ := trace
      have loaded : (fetched'.read 0x4016).1 = 0x20 + fetched'.controller.read.1 :=
        (port (by decide)).2.1
      have pressed : fetched'.controller.read.1 = 1 := by decide +kernel
      rw [loaded, pressed]

end Nes
