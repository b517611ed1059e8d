import Nes.Proofs.Apu.Beats
import Nes.Proofs.Apu.FrameClocks
import Nes.Proofs.Apu.InterruptLine
import Nes.Proofs.Apu.Timers

/-! Channels that are not enabled. A length counter comes above zero in one way only, by a load while
its channel is enabled; up to then the channel is silent, whatever else is written to it. -/
namespace Nes

namespace LengthCounter

def Silenced (l : LengthCounter) : Prop :=
  l.enabled = false → l.value = 0

theorem tablePositive (register : UInt8) : 0 < table.getD (register.toNat / 8) 0 := by
  have entries : ∀ i : Fin 32, 0 < table.getD i 0 := by decide
  exact entries ⟨_, Nat.div_lt_of_lt_mul register.toNat_lt⟩

theorem loadEnabled (l : LengthCounter) (register : UInt8) :
    (l.load register).enabled = l.enabled := by
  unfold load
  split <;> rfl

theorem loadValue (l : LengthCounter) (register : UInt8) :
    (l.load register).value =
      if l.enabled then table.getD (register.toNat / 8) 0 else l.value := by
  unfold load
  split <;> rfl

theorem clocksEnabled (l : LengthCounter) (n : Nat) : (clock^[n] l).enabled = l.enabled := by
  rw [clocksAfter, after]

theorem clocksZero {l : LengthCounter} (zero : l.value = 0) (n : Nat) :
    (clock^[n] l).value = 0 := by
  rw [clocksAfter, after, zero, Nat.zero_sub]
  exact ite_self 0

theorem enableZero {l : LengthCounter} (zero : l.value = 0) (on : Bool) :
    (l.enable on).value = 0 := by
  rw [enable, zero]
  exact ite_self 0

end LengthCounter

namespace Apu

inductive LengthUnit where
  | pulse1
  | pulse2
  | triangle
  | noise
  deriving DecidableEq, Repr

namespace LengthUnit

def controlRegister : LengthUnit → UInt16
  | pulse1 => 0x4000
  | pulse2 => 0x4004
  | triangle => 0x4008
  | noise => 0x400C

def lengthRegister : LengthUnit → UInt16
  | pulse1 => 0x4003
  | pulse2 => 0x4007
  | triangle => 0x400B
  | noise => 0x400F

def bit : LengthUnit → Nat
  | pulse1 => 0
  | pulse2 => 1
  | triangle => 2
  | noise => 3

def disturbedBy (unit : LengthUnit) : Operation → Bool
  | .write addr _ =>
    addr == 0x4015 || addr == unit.lengthRegister || addr == unit.controlRegister
  | .reset => true
  | .readStatus | .tick _ | .drain => false

inductive Moves (unit : LengthUnit) : Operation → LengthCounter → LengthCounter → Prop where
  | clocks {operation} (quiet : unit.disturbedBy operation = false) (l n) :
    Moves unit operation l (LengthCounter.clock^[n] l)
  | enable (value l) : Moves unit (.write 0x4015 value) l (l.enable (testBit value unit.bit))
  | load (value l) : Moves unit (.write unit.lengthRegister value) l (l.load value)
  | halt (value halt l) : Moves unit (.write unit.controlRegister value) l { l with halt }
  | reset (l) : Moves unit .reset l {}

namespace Moves
variable {unit : LengthUnit} {operation : Operation} {l l' : LengthCounter}

theorem zero (moves : unit.Moves operation l l') (zero : l.value = 0)
    (unloaded : ∀ value, operation = .write unit.lengthRegister value → l.enabled = false) :
    l'.value = 0 := by
  cases moves with
  | clocks quiet _ n => exact LengthCounter.clocksZero zero n
  | enable value => exact LengthCounter.enableZero zero _
  | load value => rw [LengthCounter.loadValue, unloaded value rfl]; exact zero
  | halt => exact zero
  | reset => rfl

theorem silenced (moves : unit.Moves operation l l') (now : l.Silenced) : l'.Silenced := by
  cases moves with
  | clocks quiet _ n =>
    intro off
    rw [LengthCounter.clocksEnabled] at off
    exact LengthCounter.clocksZero (now off) n
  | enable value => exact fun off => if_neg (Bool.eq_false_iff.mp off)
  | load value =>
    intro off
    rw [LengthCounter.loadEnabled] at off
    rw [LengthCounter.loadValue, off]
    exact now off
  | halt => exact now
  | reset => exact fun _ => rfl

theorem enabled {addr : UInt16} {value : UInt8} (moves : unit.Moves (.write addr value) l l') :
    l'.enabled = if addr = 0x4015 then testBit value unit.bit else l.enabled := by
  cases moves with
  | clocks quiet _ n =>
    have other : addr ≠ 0x4015 := by
      rintro rfl
      cases quiet
    rw [if_neg other, LengthCounter.clocksEnabled]
  | enable => exact (if_pos rfl).symm
  | load =>
    rw [if_neg (by cases unit <;> decide), LengthCounter.loadEnabled]
  | halt => exact (if_neg (by cases unit <;> decide)).symm

end Moves

def enabledBy (unit : LengthUnit) (operations : List Operation) : Bool :=
  testBit ((lastWrite 0x4015 operations).getD 0) unit.bit

def Loaded (unit : LengthUnit) (operations rest : List Operation) : Prop :=
  ∃ before value after, rest = before ++ .write unit.lengthRegister value :: after ∧
    unit.enabledBy (operations ++ before) = true

theorem loadedNil (unit : LengthUnit) (operations : List Operation) :
    ¬unit.Loaded operations [] := by
  rintro ⟨before, value, after, split, -⟩
  simp at split

theorem loadedCons (unit : LengthUnit) (operations rest : List Operation)
    (operation : Operation) :
    unit.Loaded operations (operation :: rest) ↔
      (∃ value, operation = .write unit.lengthRegister value) ∧
          unit.enabledBy operations = true ∨
        unit.Loaded (operations ++ [operation]) rest := by
  constructor
  · rintro ⟨before, value, after, split, on⟩
    cases before with
    | nil =>
      rw [List.append_nil] at on
      exact .inl ⟨⟨value, (List.cons.inj split).1⟩, on⟩
    | cons first before =>
      obtain ⟨rfl, rfl⟩ := List.cons.inj split
      exact .inr ⟨before, value, after, rfl, by rwa [List.append_assoc]⟩
  · rintro (⟨⟨value, rfl⟩, on⟩ | ⟨before, value, after, rfl, on⟩)
    · exact ⟨[], value, rest, rfl, by rwa [List.append_nil]⟩
    · refine ⟨operation :: before, value, after, rfl, ?_⟩
      rwa [List.append_assoc] at on

end LengthUnit

def counter (apu : Apu) : LengthUnit → LengthCounter
  | .pulse1 => apu.pulse1.length
  | .pulse2 => apu.pulse2.length
  | .triangle => apu.triangle.length
  | .noise => apu.noise.length

def level (apu : Apu) : LengthUnit → Nat
  | .pulse1 => apu.pulse1.level
  | .pulse2 => apu.pulse2.level
  | .triangle => apu.triangle.level
  | .noise => apu.noise.level

section
variable (apu : Apu) (unit : LengthUnit)

theorem statusCounter :
    testBit apu.readStatus.1 unit.bit = (apu.counter unit).active := by
  cases unit <;> exact apu.statusTold (by decide)

theorem silentLevel (tone : unit ≠ .triangle) (zero : (apu.counter unit).value = 0) :
    apu.level unit = 0 := by
  have pulse (p : Pulse) (zero : p.length.value = 0) : p.level = 0 := by
    unfold Pulse.level LengthCounter.active
    rw [zero]
    rfl
  cases unit with
  | pulse1 => exact pulse apu.pulse1 zero
  | pulse2 => exact pulse apu.pulse2 zero
  | triangle => exact absurd rfl tone
  | noise =>
    have inactive : apu.noise.length.active = false := bne_eq_false_iff_eq.mpr zero
    change apu.noise.level = 0
    unfold Noise.level
    rw [inactive]
    rfl

theorem enableCounter (value : UInt8) :
    (apu.write 0x4015 value).counter unit =
      (apu.counter unit).enable (testBit value unit.bit) := by
  cases unit <;> rfl

theorem loadCounter (value : UInt8) :
    (apu.write unit.lengthRegister value).counter unit = (apu.counter unit).load value := by
  cases unit <;> rfl

theorem haltCounter (value : UInt8) :
    ∃ halt, (apu.write unit.controlRegister value).counter unit =
      { apu.counter unit with halt } := by
  cases unit <;> exact ⟨_, rfl⟩

theorem writeCounter {addr : UInt16} (value : UInt8) (sequencer : addr ≠ 0x4017)
    (quiet : unit.disturbedBy (.write addr value) = false) :
    (apu.write addr value).counter unit = apu.counter unit := by
  unfold write
  split
  case h_20 here => exact absurd (registerAt here) sequencer
  case h_21 => rfl
  all_goals
    rename_i here
    rw [registerAt here] at quiet
    cases unit
    all_goals first
      | rfl
      | cases quiet

end

theorem counterPaced (unit : LengthUnit) :
    Paced (·.counter unit) LengthCounter.clock Beat.isHalfFrame unit.disturbedBy where
  beat apu beat := by cases beat <;> cases unit <;> rfl
  timers apu := by
    obtain ⟨pulse1, pulse2⟩ := apu.timersPulses Pulse.length fun _ => rfl
    cases unit with
    | pulse1 => exact pulse1
    | pulse2 => exact pulse2
    | triangle | noise => rfl
  blind _ _ _ := by cases unit <;> rfl
  write apu _ value := apu.writeCounter unit value
  readStatus _ := by cases unit <;> rfl
  reset := rfl

theorem performMoves (apu : Apu) (unit : LengthUnit) (operation : Operation) :
    unit.Moves operation (apu.counter unit) ((apu.perform operation).counter unit) := by
  cases disturbed : unit.disturbedBy operation with
  | false =>
    rw [(counterPaced unit).perform apu disturbed]
    exact .clocks disturbed _ _
  | true =>
    cases operation with
    | write addr value =>
      simp only [LengthUnit.disturbedBy, Bool.or_eq_true, beq_iff_eq] at disturbed
      rw [perform]
      rcases disturbed with (enable | length) | control
      · rw [enable, enableCounter]
        exact .enable value _
      · rw [length, loadCounter]
        exact .load value _
      · obtain ⟨halt, same⟩ := apu.haltCounter unit value
        rw [control, same]
        exact .halt value halt _
    | reset => cases unit <;> exact .reset _
    | readStatus | tick | drain => cases disturbed

theorem enabledSet (unit : LengthUnit) :
    Setting (fun apu => (apu.counter unit).enabled) 0x4015
      fun last => testBit (last.getD 0) unit.bit where
  powerOn _ := by cases unit <;> rfl
  write apu addr value := (apu.performMoves unit (.write addr value)).enabled
  readStatus _ := by cases unit <;> rfl
  cycle apu :=
    (congrArg LengthCounter.enabled ((counterPaced unit).cycle apu)).trans
      (LengthCounter.clocksEnabled _ _)
  drain _ := by cases unit <;> rfl

theorem beatStep (apu : Apu) (beat : Beat) : (apu.beat beat).triangle.step = apu.triangle.step := by
  cases beat <;> rfl

theorem cycleStep {apu : Apu} (zero : (apu.counter .triangle).value = 0) :
    apu.cycle.triangle.step = apu.triangle.step := by
  have clocked := (counterPaced .triangle).beatFramed apu apu.frame.clock.2 apu.frame.clock.1
  have still : (apu.clockFrame.counter .triangle).value = 0 :=
    (congrArg LengthCounter.value clocked).trans (LengthCounter.clocksZero zero _)
  have resting : apu.clockFrame.triangle.running = false := by
    have inactive : apu.clockFrame.triangle.length.active = false := bne_eq_false_iff_eq.mpr still
    rw [Triangle.running, inactive, Bool.false_and]
  rw [cyclePart (·.triangle.step) (fun _ _ => rfl)]
  change (if apu.clockFrame.triangle.timer.due && apu.clockFrame.triangle.running then
    (apu.clockFrame.triangle.step + 1) % 32 else apu.clockFrame.triangle.step) = _
  rw [resting, Bool.and_false]
  exact beatStep _ _

theorem writeStep (apu : Apu) (addr : UInt16) (value : UInt8) :
    (apu.write addr value).triangle.step = apu.triangle.step := by
  unfold write
  split
  case h_20 => exact beatStep _ _
  all_goals rfl

theorem performStep {apu : Apu} (zero : (apu.counter .triangle).value = 0)
    {operation : Operation} (on : operation ≠ .reset) :
    (apu.perform operation).triangle.step = apu.triangle.step := by
  cases operation with
  | write addr value => exact apu.writeStep addr value
  | tick cycles =>
    have kept (now : Apu)
        (held : (now.counter .triangle).value = 0 ∧ now.triangle.step = apu.triangle.step) :
        (now.cycle.counter .triangle).value = 0 ∧
          now.cycle.triangle.step = apu.triangle.step := by
      have clocked := (counterPaced .triangle).cycle now
      exact ⟨(congrArg LengthCounter.value clocked).trans (LengthCounter.clocksZero held.1 _),
        (cycleStep held.1).trans held.2⟩
    exact (tickHolds kept ⟨zero, rfl⟩ cycles).2
  | readStatus | drain => rfl
  | reset => exact absurd rfl on

section
variable (clockHz : Float) (sampleRate : Nat) {unit : LengthUnit} {operations rest : List Operation}

theorem enabledHistory (unit : LengthUnit) (operations : List Operation) :
    (((new clockHz sampleRate).performAll operations).counter unit).enabled =
      unit.enabledBy operations :=
  (enabledSet unit).performAll clockHz sampleRate operations

theorem zeroDisabled (disabled : unit.enabledBy operations = false) :
    (((new clockHz sampleRate).performAll operations).counter unit).value = 0 := by
  have start : ((new clockHz sampleRate).counter unit).Silenced := fun _ => by cases unit <;> rfl
  have held : (((new clockHz sampleRate).performAll operations).counter unit).Silenced :=
    @List.foldlRecOn _ _ (fun apu => (apu.counter unit).Silenced) operations perform _ start
      fun apu now operation _ => (apu.performMoves unit operation).silenced now
  exact held ((enabledHistory clockHz sampleRate unit operations).trans disabled)

theorem silentRun
    (zero : (((new clockHz sampleRate).performAll operations).counter unit).value = 0)
    (unloaded : ¬unit.Loaded operations rest) :
    let apu := (new clockHz sampleRate).performAll operations
    let later := apu.performAll rest
    (later.counter unit).value = 0 ∧
      (unit = .triangle → .reset ∉ rest → later.triangle.step = apu.triangle.step) := by
  induction rest generalizing operations with
  | nil => exact ⟨zero, fun _ _ => rfl⟩
  | cons operation rest ih =>
    rw [LengthUnit.loadedCons, not_or] at unloaded
    have off (value : UInt8) (load : operation = .write unit.lengthRegister value) :
        (((new clockHz sampleRate).performAll operations).counter unit).enabled = false :=
      (enabledHistory clockHz sampleRate unit operations).trans
        (Bool.eq_false_iff.mpr fun on => unloaded.1 ⟨⟨value, load⟩, on⟩)
    have next := (performMoves _ unit operation).zero zero off
    rw [← performAllConcat] at next
    obtain ⟨silent, held⟩ := ih next unloaded.2
    rw [performAllConcat] at silent held
    refine ⟨silent, ?_⟩
    rintro rfl noReset
    obtain ⟨here, later⟩ := not_or.mp (List.mem_cons.not.mp noReset)
    exact (held rfl later).trans (performStep zero fun reset => here reset.symm)

/-- A channel that the last write to the enable register left off, or that was never enabled, is
silent: its counter is zero, the status says so, a pulse or the noise gives nothing to the mixer and
the triangle does not go on, whatever is written, read and run. This lasts until its length is
loaded after it has been enabled. Enabling it alone changes nothing, and the load then starts the
counter. -/
theorem disabledSilent (unit : LengthUnit)
    (disabled : unit.enabledBy operations = false) (unloaded : ¬unit.Loaded operations rest) :
    let apu := (new clockHz sampleRate).performAll operations
    let later := apu.performAll rest
    (later.counter unit).value = 0 ∧
      testBit later.readStatus.1 unit.bit = false ∧
      (unit ≠ .triangle → later.level unit = 0) ∧
      (unit = .triangle → .reset ∉ rest → later.triangle.step = apu.triangle.step) ∧
      (∀ value, ((later.write 0x4015 value).counter unit).value = 0) ∧
      ∀ value, ((later.write unit.lengthRegister value).counter unit).value ≠ 0 ↔
        unit.enabledBy (operations ++ rest) = true := by
  intro apu later
  obtain ⟨zero, held⟩ :=
    silentRun clockHz sampleRate (zeroDisabled clockHz sampleRate disabled) unloaded
  have enabled : (later.counter unit).enabled = unit.enabledBy (operations ++ rest) := by
    have history := enabledHistory clockHz sampleRate unit (operations ++ rest)
    rw [performAll, List.foldl_append] at history
    exact history
  refine ⟨zero, ?_, fun tone => later.silentLevel unit tone zero, held, fun value => ?_,
    fun value => ?_⟩
  · rw [statusCounter]
    exact bne_eq_false_iff_eq.mpr zero
  · rw [enableCounter]
    exact LengthCounter.enableZero zero _
  · rw [loadCounter, LengthCounter.loadValue, enabled, zero]
    split
    · rename_i on
      exact iff_of_true (Nat.pos_iff_ne_zero.mp (LengthCounter.tablePositive value)) on
    · rename_i off
      exact iff_of_false (fun some => some rfl) off

end

theorem disabledSilentTriangle :
    let operations := [Operation.write 0x4015 0x0B, .write 0x400A 2, .tick 5]
    let rest := [Operation.write 0x400B 0x18, .write 0x4008 0x7F, .write 0x4015 0x0F,
      .write 0x4017 0x80]
    let apu := (new 1789773 44100).performAll operations
    let later := apu.performAll rest
    LengthUnit.triangle.enabledBy operations = false ∧
      ¬LengthUnit.triangle.Loaded operations rest ∧
      testBit later.readStatus.1 2 = false ∧
      later.triangle.step = apu.triangle.step ∧
      (later.write 0x400B 0x18).triangle.length.value ≠ 0 := by
  have disabled : LengthUnit.triangle.enabledBy
      [.write 0x4015 0x0B, .write 0x400A 2, .tick 5] = false := by decide
  have unloaded : ¬LengthUnit.triangle.Loaded [.write 0x4015 0x0B, .write 0x400A 2, .tick 5]
      [.write 0x400B 0x18, .write 0x4008 0x7F, .write 0x4015 0x0F, .write 0x4017 0x80] := by
    rw [LengthUnit.loadedCons, LengthUnit.loadedCons, LengthUnit.loadedCons,
      LengthUnit.loadedCons]
    rintro (⟨-, on⟩ | ⟨⟨_, load⟩, -⟩ | ⟨⟨_, load⟩, -⟩ | ⟨⟨_, load⟩, -⟩ | none)
    · exact absurd on (by decide)
    · exact absurd (Operation.write.inj load).1 (by decide)
    · exact absurd (Operation.write.inj load).1 (by decide)
    · exact absurd (Operation.write.inj load).1 (by decide)
    · exact LengthUnit.loadedNil _ _ none
  obtain ⟨-, status, -, held, -, load⟩ := disabledSilent 1789773 44100 .triangle disabled unloaded
  exact ⟨disabled, unloaded, status, held rfl (by decide), (load 0x18).mpr (by decide)⟩

end Apu
end Nes
