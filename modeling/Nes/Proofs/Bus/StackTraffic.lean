import Nes.Proofs.Bus.Mirrors
import Nes.Proofs.Bus.Rejection
import Nes.Proofs.Bus.Signals
import Nes.Proofs.Cpu.Stack

/-! The stack on the bus of the console. Page 1 is in work RAM, and nothing else takes part in what
goes to the stack or comes from it. -/
namespace Nes

structure StackUse where
  fetched : Nat
  moves : List StackMove
  vector : Option UInt16
  deriving DecidableEq, Repr

namespace StackUse

def entry (fetched : Nat) (vector : UInt16) : StackUse where
  fetched
  moves := [.push, .push, .push]
  vector := some vector

def reads (addr : UInt16) : Nat → List Line
  | 0 => []
  | count + 1 => .read addr :: reads (addr + 1) count

def fetches (use : StackUse) (pc : UInt16) : List Line :=
  reads pc use.fetched

def target (use : StackUse) : List Line :=
  match use.vector with
  | some vector => reads vector 2
  | none => []

end StackUse

def Operation.stackUse : Operation → Option StackUse
  | pha | php => some ⟨1, [.push], none⟩
  | pla | plp => some ⟨1, [.pull], none⟩
  | jsr => some ⟨3, [.push, .push], none⟩
  | rts => some ⟨1, [.pull, .pull], none⟩
  | rti => some ⟨1, [.pull, .pull, .pull], none⟩
  | brk => some (.entry 1 Action.breakVector)
  | _ => none

namespace Call
variable {σ : Type} [Device σ]

def stackUse (state : Cpu × σ) : Call → Option StackUse
  | step =>
    if state.1.registers.halted then none
    else (Instruction.decode (Device.read state.1.registers.pc state.2).1).operation.stackUse
  | nmi =>
    if state.1.registers.halted then none
    else some (.entry 0 Registers.nonMaskableVector)
  | irq =>
    if state.1.registers.status.interruptDisable || state.1.registers.halted then none
    else some (.entry 0 Registers.interruptVector)
  | brk => some (.entry 0 Action.breakVector)

end Call

theorem Instruction.decodeStack {opcode : UInt8}
    (uses : (decode opcode).operation.stackUse.isSome = true) :
    (decode opcode).mode = if (decode opcode).operation = .jsr then .absolute else .implied := by
  revert opcode
  decide +kernel

theorem Instruction.stackLines {i : Instruction} {use : StackUse}
    (uses : i.operation.stackUse = some use)
    (mode : i.mode = if i.operation = .jsr then .absolute else .implied) {r : Registers}
    {found : List Access} {operand : Operand}
    (finds : i.mode.Finds { r with pc := r.pc + 1 } found operand) :
    .read r.pc :: (found.map Access.line ++ i.operation.lines r operand) =
      use.fetches r.pc ++ StackMove.lines r.sp use.moves ++ use.target := by
  rw [mode] at finds
  generalize i.operation = operation at uses finds ⊢
  cases operation
  case jsr | pha | php | pla | plp | rts | rti | brk =>
    cases uses
    cases finds
    rfl
  all_goals cases uses

namespace Call
variable {σ : Type} [Device σ]

theorem interruptLines (vector : UInt16) (r : Registers) (s : σ) :
    ((r.interrupt vector).trace s).map Access.line =
      StackMove.lines r.sp (StackUse.entry 0 vector).moves ++ (StackUse.entry 0 vector).target :=
  rfl

theorem stackLines {state : Cpu × σ} {call : Call} {use : StackUse}
    (uses : stackUse state call = some use) :
    let r := state.1.registers
    (accesses state call).map Access.line =
      use.fetches r.pc ++ StackMove.lines r.sp use.moves ++ use.target := by
  intro r
  rw [accessesWork]
  cases call with
  | step =>
    obtain ⟨running, uses⟩ := Option.ite_none_left_eq_some.mp uses
    have running : r.halted = false := by simpa using running
    obtain ⟨operand, found, data, trace, finds, lines, -⟩ := r.instructionAccesses state.2
    rw [workStep running, trace, List.map_cons, List.map_append, lines]
    exact Instruction.stackLines uses (Instruction.decodeStack (Option.isSome_of_eq_some uses)) finds
  | nmi =>
    obtain ⟨running, uses⟩ := Option.ite_none_left_eq_some.mp uses
    cases uses
    rw [workNmi (by simpa using running)]
    exact interruptLines _ r state.2
  | irq =>
    obtain ⟨served, uses⟩ := Option.ite_none_left_eq_some.mp uses
    cases uses
    obtain ⟨unmasked, running⟩ : r.status.interruptDisable = false ∧ r.halted = false := by
      simpa using served
    rw [workIrq running unmasked]
    exact interruptLines _ r state.2
  | brk =>
    cases uses
    rfl

end Call

namespace Bus

structure StackOnly (before after : Bus) : Prop where
  devices : after = { before with ram := after.ram, openBus := after.openBus }
  ram : ∀ addr < 0x800, addr / 0x100 ≠ 1 → after.ram.read addr = before.ram.read addr

theorem readStack (bus : Bus) (low : UInt8) :
    bus.read (word low 1) =
      (bus.ram.read (word low 1).toNat,
        { bus with openBus := bus.ram.read (word low 1).toNat }) := by
  unfold read answer
  rw [if_pos (stackInRam low)]

theorem writeStack (bus : Bus) (low value : UInt8) :
    bus.write (word low 1) value =
      { bus with ram := bus.ram.write (word low 1).toNat value, openBus := value } := by
  unfold write deliver
  rw [if_pos (stackInRam low)]

theorem toNatStack (low : UInt8) : (word low 1).toNat % 0x800 = 0x100 + low.toNat := by
  have bound := low.toNat_lt
  rw [toNatWord, UInt8.toNat_one]
  omega

instance : StackPage Bus where
  cell low bus := bus.ram.read (word low 1).toNat
  read low bus := congrArg Prod.fst (bus.readStack low)
  readKeeps low low' bus := by
    change (bus.read (word low 1)).2.ram.read _ = _
    rw [readStack]
  write low low' value bus := by
    have same : 0x100 + low.toNat = 0x100 + low'.toNat ↔ low = low' := by
      rw [Nat.add_left_cancel_iff, UInt8.toNat_inj]
    change (bus.write (word low 1) value).ram.read _ = _
    rw [writeStack, Ram.readWrite, toNatStack, toNatStack]
    simp only [same]

namespace StackOnly

theorem refl (bus : Bus) : StackOnly bus bus where
  devices := rfl
  ram _ _ _ := rfl

theorem trans {before now after : Bus} (first : StackOnly before now)
    (second : StackOnly now after) : StackOnly before after where
  devices := by rw [second.devices, first.devices]
  ram addr inside page := (second.ram addr inside page).trans (first.ram addr inside page)

theorem fault {before after : Bus} (only : StackOnly before after) : after.fault = before.fault := by
  rw [only.devices]

theorem read (bus : Bus) (low : UInt8) : StackOnly bus (bus.read (word low 1)).2 := by
  rw [readStack]
  exact ⟨rfl, fun _ _ _ => rfl⟩

theorem write (bus : Bus) (low value : UInt8) : StackOnly bus (bus.write (word low 1) value) := by
  rw [writeStack]
  refine ⟨rfl, fun addr inside page => ?_⟩
  have apart : 0x100 + low.toNat ≠ addr := by
    have bound := low.toNat_lt
    omega
  rw [Ram.readWrite, toNatStack, Nat.mod_eq_of_lt inside, if_neg apart]

theorem move {sp : UInt8} {move : StackMove} {access : Access} (line : access.line = move.line sp)
    (bus : Bus) : StackOnly bus (access.perform bus) := by
  cases access with
  | read addr value =>
    cases move <;> cases line
    exact read bus _
  | write addr value =>
    cases move <;> cases line
    exact write bus _ value

theorem moves {sp : UInt8} {moves : List StackMove} {accesses : List Access}
    (lines : accesses.map Access.line = StackMove.lines sp moves) (bus : Bus) :
    StackOnly bus (accesses.foldl Access.perform bus) := by
  induction moves generalizing sp accesses bus with
  | nil =>
    rw [List.map_eq_nil_iff.mp lines]
    exact refl bus
  | cons first rest ih =>
    obtain ⟨access, others, rfl, line, later⟩ := List.map_eq_cons_iff.mp lines
    exact (move line bus).trans (ih later _)

end StackOnly

theorem readsFault {addr : UInt16} {count : Nat} {accesses : List Access}
    (lines : accesses.map Access.line = StackUse.reads addr count) (bus : Bus) :
    (accesses.foldl Access.perform bus).fault = bus.fault := by
  induction count generalizing addr accesses bus with
  | zero => rw [List.map_eq_nil_iff.mp lines, List.foldl_nil]
  | succ n ih =>
    obtain ⟨access, others, rfl, line, later⟩ := List.map_eq_cons_iff.mp lines
    cases access with
    | read addr value => exact (ih later _).trans (bus.readFault addr)
    | write => cases line

theorem targetFault {use : StackUse} {accesses : List Access}
    (lines : accesses.map Access.line = use.target) (bus : Bus) :
    (accesses.foldl Access.perform bus).fault = bus.fault := by
  unfold StackUse.target at lines
  split at lines
  · exact readsFault lines bus
  · rw [List.map_eq_nil_iff.mp lines, List.foldl_nil]

end Bus

theorem Call.stackTraffic {cpu : Cpu} {bus : Bus} {call : Call} {use : StackUse}
    (uses : stackUse (cpu, bus) call = some use) :
    let r := cpu.registers
    ∃ fetched stack target, accesses (cpu, bus) call = fetched ++ stack ++ target ∧
      fetched.map Access.line = use.fetches r.pc ∧
      stack.map Access.line = StackMove.lines r.sp use.moves ∧
      target.map Access.line = use.target ∧
      (∀ now : Bus, now.StackOnly (stack.foldl Access.perform now)) ∧
      (take (cpu, bus) call).2.fault = bus.fault := by
  intro r
  obtain ⟨front, target, whole, fronts, leads⟩ :=
    List.map_eq_append_iff.mp (stackLines uses)
  obtain ⟨fetched, stack, rfl, fetches, moves⟩ := List.map_eq_append_iff.mp fronts
  have only (now : Bus) : now.StackOnly (stack.foldl Access.perform now) :=
    Bus.StackOnly.moves moves now
  have replayed : (take (cpu, bus) call).2 =
      (accesses (cpu, bus) call).foldl Access.perform bus := by
    rw [(takeWork (cpu, bus) call).2.1, accessesWork, Transaction.replay]
  refine ⟨fetched, stack, target, whole, fetches, moves, leads, only, ?_⟩
  rw [replayed, whole, List.foldl_append, List.foldl_append, Bus.targetFault leads,
    (only _).fault, Bus.readsFault fetches]

/-- A device that keeps the bytes of page 1 has a stack there. As long as it holds no more than 256
bytes, items come back whole in the order opposite to that in which they went, the stack pointer is
where it was, and whatever comes and goes in between leaves alone what is below. A word is its two
bytes, the high one first. A push writes at the stack pointer and a pull reads there after it has
moved, on any device. On the bus of the console nothing but work RAM takes part in it, and so the
stack is no way to a fault, whatever instruction or interrupt uses it. -/
theorem Registers.stackLastInFirstOut {σ : Type} [Device σ] [StackPage σ] (r : Registers) (s : σ) :
    (∀ (items : List Stacked) (between : List Transfer), Stacked.size items ≤ 256 →
      Transfer.Stays (256 - Stacked.size items) 0 between 0 →
        ((r.transfers (items.map .push ++ between ++ items.reverse.map Stacked.pulled)).run
          s).result = ((Transfer.onListAll [] between).1 ++ items.reverse, r)) ∧
      (∀ (deep : Nat) (between : List Transfer), deep ≤ 256 →
        Transfer.Stays (256 - deep) 0 between 0 →
          let done := (r.transfers between).run s
          done.result = ((Transfer.onListAll [] between).1, r) ∧
            StackPage.above done.device r.sp deep = StackPage.above s r.sp deep) ∧
      (∀ words : List UInt16,
        r.transfers (words.map fun value => .push (.word value)) =
          r.transfers ((words.flatMap fun value => [highByte value, lowByte value]).map fun value =>
            .push (.byte value))) ∧
      (∀ transfers : List Transfer,
        let moves := transfers.flatMap Transfer.moves
        ((r.transfers transfers).trace s).map Access.line = StackMove.lines r.sp moves ∧
          ((r.transfers transfers).run s).result.2 = { r with sp := StackMove.last r.sp moves }) ∧
      (∀ (transfers : List Transfer) (bus : Bus),
        bus.StackOnly ((r.transfers transfers).run bus).device) ∧
      ∀ (cpu : Cpu) (bus : Bus) (call : Call) (use : StackUse),
        Call.stackUse (cpu, bus) call = some use →
          ∃ fetched stack target, Call.accesses (cpu, bus) call = fetched ++ stack ++ target ∧
            fetched.map Access.line = use.fetches cpu.registers.pc ∧
            stack.map Access.line = StackMove.lines cpu.registers.sp use.moves ∧
            target.map Access.line = use.target ∧
            (∀ now : Bus, now.StackOnly (stack.foldl Access.perform now)) ∧
            (call.take (cpu, bus)).2.fault = bus.fault := by
  refine ⟨fun items between room stays => r.transfersReverse s items room stays,
    fun deep between room stays => r.transfersBalanced s room stays, r.transfersWords,
    fun transfers => ⟨r.transfersLines s transfers, r.transfersRegisters s transfers⟩, ?_,
    fun cpu bus call use uses => Call.stackTraffic uses⟩
  intro transfers bus
  rw [← Transaction.replay]
  exact Bus.StackOnly.moves (r.transfersLines bus transfers) bus

theorem Registers.stackLastInFirstOutFull :
    let r : Registers := { sp := 0x01 }
    let bus : Bus := { apu := .standard }
    let items := List.replicate 126 (Stacked.word 0x1234) ++ [.byte 0x56, .byte 0x78]
    let between := [.push (.word 0xABCD), .pull, .push (.byte 0x07), .pullWord]
    Stacked.size items = 254 ∧ Transfer.Stays 2 0 between 0 ∧
      ((r.transfers (items.map .push ++ between ++ items.reverse.map Stacked.pulled)).run
        bus).result = (.byte 0xCD :: .word 0xAB07 :: items.reverse, r) ∧
      StackPage.above ((r.transfers between).run bus).device 0x01 254 =
        StackPage.above bus 0x01 254 ∧
      ∃ fetched stack target,
        Call.accesses (({ registers := r } : Cpu), bus) .step = fetched ++ stack ++ target ∧
        fetched.map Access.line = [.read 0] ∧
        stack.map Access.line = [.write 0x0101, .write 0x0100, .write 0x01FF] ∧
        target.map Access.line = [.read 0xFFFE, .read 0xFFFF] ∧
        (∀ now : Bus, now.StackOnly (stack.foldl Access.perform now)) ∧
        (Call.step.take (({ registers := r } : Cpu), bus)).2.fault = none := by
  intro r bus items between
  have size : Stacked.size items = 254 := by decide +kernel
  have stays : Transfer.Stays 2 0 between 0 := by decide
  have uses : Call.stackUse (({ registers := r } : Cpu), bus) .step =
      some (.entry 1 Action.breakVector) := by
    decide +kernel
  obtain ⟨reverses, keeps, -, -, -, calls⟩ := stackLastInFirstOut r bus
  have fits : Stacked.size items ≤ 256 := by rw [size]; decide
  have room : Transfer.Stays (256 - Stacked.size items) 0 between 0 := by rwa [size]
  have lines : (StackUse.entry 1 Action.breakVector).fetches 0 = [.read 0] ∧
      StackMove.lines 0x01 (StackUse.entry 1 Action.breakVector).moves =
        [.write 0x0101, .write 0x0100, .write 0x01FF] ∧
      (StackUse.entry 1 Action.breakVector).target = [.read 0xFFFE, .read 0xFFFF] := by
    decide
  have breaks := calls { registers := r } bus .step (.entry 1 Action.breakVector) uses
  rw [lines.1, lines.2.1, lines.2.2] at breaks
  exact ⟨size, stays, reverses items between fits room, (keeps 254 between (by decide) stays).2,
    breaks⟩

end Nes
