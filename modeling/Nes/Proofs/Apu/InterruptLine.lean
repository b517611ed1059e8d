import Nes.Proofs.Apu.FrameSchedule
import Nes.Proofs.Bus.History

/-! The interrupt line of the sound unit. Each of its two sources raises a flag at the end of what
it counts, and the flags tell of their whole history since power on. -/
namespace Nes

namespace Dmc
variable (d : Dmc)

def written (addr : UInt16) (value : UInt8) : Dmc :=
  if addr = 0x4010 then d.writeControl value
  else if addr = 0x4011 then d.writeLevel value
  else if addr = 0x4012 then d.writeAddress value
  else if addr = 0x4013 then d.writeLength value
  else if addr = 0x4015 then d.enable (testBit value 4)
  else d

def Ends (next : Dmc) : Prop :=
  d.irqEnabled = true ∧ d.loop = false ∧ d.bytes ≠ 0 ∧ next.bytes = 0

theorem consumeByteIrq :
    d.consumeByte.irq = true ↔ d.irq = true ∨ d.Ends d.consumeByte := by
  unfold Ends consumeByte
  by_cases empty : d.bytes = 0
  · simp [empty]
  by_cases last : d.bytes - 1 = 0
  · cases d.loop <;> simp [empty, last, restart]
  · simp [empty, last]

theorem consumeBitIrq : d.consumeBit.irq = true ↔ d.irq = true ∨ d.Ends d.consumeBit := by
  unfold consumeBit
  split
  · exact consumeByteIrq { d with bits := 8 }
  · exact (or_iff_left fun ends => ends.2.2.1 ends.2.2.2).symm

theorem clockTimerIrq : d.clockTimer.irq = true ↔ d.irq = true ∨ d.Ends d.clockTimer := by
  unfold clockTimer
  simp only
  split
  · exact consumeBitIrq { d with timer := d.timer.clock }
  · exact (or_iff_left fun ends => ends.2.2.1 ends.2.2.2).symm

theorem clockTimerEnabled : d.clockTimer.irqEnabled = d.irqEnabled := by
  unfold clockTimer consumeBit consumeByte
  grind [restart]

end Dmc

namespace Apu

def FrameEnds (apu : Apu) : Prop :=
  apu.frame.fourStep = true ∧ apu.frame.irqInhibit = false ∧ apu.cycle.frame.cycle = 29829

def SampleEnds (apu : Apu) : Prop :=
  apu.dmc.Ends apu.cycle.dmc

namespace Operation

def clearsFrame : Operation → Bool
  | write addr value => addr == 0x4017 && testBit value 6
  | readStatus | reset => true
  | tick _ | drain => false

def clearsSample : Operation → Bool
  | write addr value => addr == 0x4015 || addr == 0x4010 && !testBit value 7
  | readStatus | reset => true
  | tick _ | drain => false

end Operation

theorem frameEnds (apu : Apu) : apu.FrameEnds ↔ apu.frame.raises = true := by
  unfold FrameEnds
  rw [cycleFrame]
  unfold FrameSequencer.clock FrameSequencer.raises
  rw [Bool.and_eq_true, Bool.and_eq_true, Bool.not_eq_true', beq_iff_eq, and_assoc]
  refine and_congr_right fun four => and_congr_right fun _ => ?_
  rw [four]
  simp only [FrameSequencer.length, if_true]
  split <;> omega

theorem writeSequencer (apu : Apu) (addr : UInt16) (value : UInt8) :
    (apu.write addr value).frame =
      if addr = 0x4017 then (apu.frame.write value).2 else apu.frame := by
  split
  · rename_i here
    rw [here]
    exact beatFrame _ _
  · rename_i other
    unfold write
    split
    case h_20 here => exact absurd (UInt16.toNat_inj.mp here) other
    all_goals rfl

theorem writeDmc (apu : Apu) (addr : UInt16) (value : UInt8) :
    (apu.write addr value).dmc = apu.dmc.written addr value := by
  have apart (register : UInt16) (other : addr.toNat = register.toNat → False) :
      addr ≠ register :=
    fun same => other (congrArg UInt16.toNat same)
  unfold write
  split
  case h_20 here => rw [registerAt here]; exact beatDmc _ _
  case h_21 =>
    rename_i control level address length enable _
    rw [Dmc.written, if_neg (apart 0x4010 control), if_neg (apart 0x4011 level),
      if_neg (apart 0x4012 address), if_neg (apart 0x4013 length), if_neg (apart 0x4015 enable)]
  all_goals
    rename_i here
    rw [registerAt here]
    rfl

theorem writeSampleFlags (apu : Apu) (addr : UInt16) (value : UInt8) :
    let written := apu.write addr value
    (written.dmc.irqEnabled, written.dmc.irq) =
      if addr = 0x4010 then (testBit value 7, apu.dmc.irq && testBit value 7)
      else (apu.dmc.irqEnabled, apu.dmc.irq && addr != 0x4015) := by
  intro written
  by_cases control : addr = 0x4010
  · unfold written
    rw [if_pos control, control]
    rfl
  by_cases status : addr = 0x4015
  · have enabled (d : Dmc) (on : Bool) :
        ((d.enable on).irqEnabled, (d.enable on).irq) = (d.irqEnabled, false) := by
      unfold Dmc.enable
      split
      · rfl
      · split <;> rfl
    unfold written
    rw [if_neg control, status, bne_self_eq_false, Bool.and_false]
    exact enabled apu.dmc (testBit value 4)
  · have other : (addr != 0x4015) = true := bne_iff_ne.mpr status
    unfold written
    rw [if_neg control, other, Bool.and_true, writeDmc, Dmc.written, if_neg control]
    repeat' split
    all_goals rfl

theorem frameLatch : Latch (·.frame.irq) FrameEnds Operation.clearsFrame where
  cycle apu := by
    rw [cycleFrame, FrameSequencer.clockIrq, Bool.or_eq_true, frameEnds]
  tick _ := rfl
  write apu addr value := by
    change _ = (apu.frame.irq && !(addr == 0x4017 && testBit value 6))
    rw [writeSequencer]
    split
    · rename_i here
      rw [here]
      rfl
    · rename_i other
      rw [beq_false_of_ne other, Bool.false_and, Bool.not_false, Bool.and_true]
  readStatus apu := (Bool.and_false _).symm
  drain apu := (Bool.and_true _).symm
  reset apu := (Bool.and_false _).symm

theorem sampleLatch : Latch (·.dmc.irq) SampleEnds Operation.clearsSample where
  cycle apu := by
    unfold SampleEnds
    rw [cycleDmc]
    exact apu.dmc.clockTimerIrq
  tick _ := rfl
  write apu addr value := by
    change _ = (apu.dmc.irq && !(addr == 0x4015 || addr == 0x4010 && !testBit value 7))
    have flags := congrArg Prod.snd (apu.writeSampleFlags addr value)
    simp only at flags
    rw [flags]
    split
    · rename_i here
      rw [here]
      cases testBit value 7 <;> rfl
    · rename_i other
      rw [beq_false_of_ne other, Bool.false_and, Bool.or_false]
      rfl
  readStatus apu := (Bool.and_false _).symm
  drain apu := (Bool.and_true _).symm
  reset apu := (Bool.and_false _).symm

theorem statusBits (apu : Apu) :
    testBit apu.status 6 = apu.frame.irq ∧ testBit apu.status 7 = apu.dmc.irq ∧
      apu.readStatus.2.status = apu.status &&& 0x1F := by
  have masked (pulse1 pulse2 triangle noise dmc frame sample : Bool) :
      let low := pulse1.toUInt8 + 2 * pulse2.toUInt8 + 4 * triangle.toUInt8 + 8 * noise.toUInt8 +
        16 * dmc.toUInt8
      low + 64 * false.toUInt8 + 128 * false.toUInt8 =
        (low + 64 * frame.toUInt8 + 128 * sample.toUInt8) &&& 0x1F := by
    revert pulse1 pulse2 triangle noise dmc frame sample
    decide
  exact ⟨apu.statusTold (by decide), apu.statusTold (by decide), masked _ _ _ _ _ _ _⟩

theorem keptFree : Kept fun apu => apu.frame.irq = true → apu.frame.irqInhibit = false where
  reset apu _ := nofun
  readStatus apu _ := nofun
  write apu addr value free := by
    rw [writeSequencer]
    split
    · intro raised
      have set : (apu.frame.irq && !testBit value 6) = true := raised
      rw [Bool.and_eq_true, Bool.not_eq_true'] at set
      exact set.2
    · exact free
  tick apu cycles free := by
    have kept (now : Apu) (free : now.frame.irq = true → now.frame.irqInhibit = false) :
        now.cycle.frame.irq = true → now.cycle.frame.irqInhibit = false := by
      rw [cycleFrame, FrameSequencer.clockIrq, Bool.or_eq_true]
      rintro (before | raises)
      · exact free before
      · exact (frameEnds now).mpr raises |>.2.1
    exact tickHolds kept free cycles
  drain apu free := free

theorem keptEnabled : Kept fun apu => apu.dmc.irq = true → apu.dmc.irqEnabled = true where
  reset apu _ := nofun
  readStatus apu _ := nofun
  write apu addr value enabled := by
    intro raised
    have flags := apu.writeSampleFlags addr value
    simp only [raised] at flags
    split at flags
    · obtain ⟨enable, set⟩ := Prod.mk.inj flags
      rw [enable]
      exact (Bool.and_eq_true _ _ ▸ set.symm).2
    · obtain ⟨enable, set⟩ := Prod.mk.inj flags
      rw [enable]
      exact enabled (Bool.and_eq_true _ _ ▸ set.symm).1
  tick apu cycles enabled := by
    have kept (now : Apu) (enabled : now.dmc.irq = true → now.dmc.irqEnabled = true) :
        now.cycle.dmc.irq = true → now.cycle.dmc.irqEnabled = true := by
      rw [cycleDmc, Dmc.clockTimerEnabled, Dmc.clockTimerIrq]
      rintro (before | ends)
      · exact enabled before
      · exact ends.1
    exact tickHolds kept enabled cycles
  drain apu enabled := enabled

theorem Kept.perform {holds : Apu → Prop} (kept : Kept holds) {apu : Apu} (now : holds apu)
    (operation : Operation) : holds (apu.perform operation) := by
  cases operation with
  | write addr value => exact kept.write apu addr value now
  | readStatus => exact kept.readStatus apu now
  | tick cycles => exact kept.tick apu cycles now
  | drain => exact kept.drain apu now
  | reset => exact kept.reset apu now

theorem Kept.performAll {holds : Apu → Prop} (kept : Kept holds) {apu : Apu} (now : holds apu)
    (operations : List Operation) : holds (apu.performAll operations) :=
  List.foldlRecOn operations Apu.perform now fun _ held operation _ => kept.perform held operation

/-- From power on, the line is raised exactly if since the last beat of a sequence of four that
did not inhibit it, or since the last byte of a sample that enabled it and did not loop, nothing
has cleared the flag of that source. The status tells both flags and clears them, and nothing else
that it tells. No flag stands against its register, and of the writes to the sequencer only those
that inhibit the interrupt clear it. -/
theorem interruptHistory (clockHz : Float) (sampleRate : Nat) (operations : List Operation) :
    let fresh := Apu.new clockHz sampleRate
    let apu := fresh.performAll operations
    let frame := Since FrameEnds Operation.clearsFrame fresh operations
    let sample := Since SampleEnds Operation.clearsSample fresh operations
    (apu.irqPending = true ↔ frame ∨ sample) ∧
      (testBit apu.readStatus.1 6 = true ↔ frame) ∧
      (testBit apu.readStatus.1 7 = true ↔ sample) ∧
      apu.readStatus.2.readStatus.1 = apu.readStatus.1 &&& 0x1F ∧
      (apu.frame.irq && apu.frame.irqInhibit) = false ∧
      (apu.dmc.irq && !apu.dmc.irqEnabled) = false ∧
      ∀ value, (apu.write 0x4017 value).frame.irq = (apu.frame.irq && !testBit value 6) := by
  intro fresh apu frame sample
  have ofFrame : apu.frame.irq = true ↔ frame := frameLatch.history rfl operations
  have ofSample : apu.dmc.irq = true ↔ sample := sampleLatch.history rfl operations
  obtain ⟨sixth, seventh, again⟩ := apu.statusBits
  have free : apu.frame.irq = true → apu.frame.irqInhibit = false :=
    @Kept.performAll _ keptFree fresh nofun operations
  have enabled : apu.dmc.irq = true → apu.dmc.irqEnabled = true :=
    @Kept.performAll _ keptEnabled fresh nofun operations
  refine ⟨?_, ?_, ?_, again, ?_, ?_, fun value => ?_⟩
  · rw [irqPending, Bool.or_eq_true, ofFrame, ofSample]
  · rw [← ofFrame, ← sixth]
    rfl
  · rw [← ofSample, ← seventh]
    rfl
  · cases raised : apu.frame.irq with
    | false => rfl
    | true => exact free raised
  · cases raised : apu.dmc.irq with
    | false => rfl
    | true => rw [enabled raised]; rfl
  · rw [writeSequencer, if_pos rfl]
    rfl

end Apu
end Nes
