import Nes.Proofs.Apu.InterruptLine

/-! The ranges of the sound unit. Every number that a channel keeps stays within the bits of its
register or within its table, whatever is written and however long the unit runs. -/
namespace Nes

structure Envelope.Within (e : Envelope) : Prop where
  volume : e.volume ≤ 15
  divider : e.divider ≤ 15
  decay : e.decay ≤ 15

theorem Envelope.powerOnWithin : ({} : Envelope).Within :=
  ⟨Nat.zero_le _, Nat.zero_le _, Nat.zero_le _⟩

namespace Envelope.Within
variable {e : Envelope} (within : e.Within)
include within

theorem write (value : UInt8) : (e.write value).Within :=
  ⟨Nat.le_of_lt_succ (Nat.mod_lt _ (Nat.succ_pos 15)), within.divider, within.decay⟩

theorem restart : e.restart.Within :=
  ⟨within.volume, within.divider, within.decay⟩

theorem clock : e.clock.Within := by
  obtain ⟨volume, divider, decay⟩ := within
  unfold Envelope.clock
  split
  · exact ⟨volume, volume, Nat.le_refl 15⟩
  · split
    · exact ⟨volume, Nat.le_trans (Nat.sub_le _ 1) divider, decay⟩
    · split
      · exact ⟨volume, volume, Nat.le_trans (Nat.sub_le _ 1) decay⟩
      · split
        · exact ⟨volume, volume, Nat.le_refl 15⟩
        · exact ⟨volume, volume, decay⟩

theorem output : e.output ≤ 15 := by
  unfold Envelope.output
  split
  · exact within.volume
  · exact within.decay

end Envelope.Within

structure LengthCounter.Within (l : LengthCounter) : Prop where
  value : l.value ≤ 254

namespace LengthCounter

theorem powerOnWithin : ({} : LengthCounter).Within :=
  ⟨Nat.zero_le _⟩

theorem tableAtMost (register : UInt8) : table.getD (register.toNat / 8) 0 ≤ 254 := by
  have entries : ∀ i : Fin 32, table.getD i 0 ≤ 254 := by decide
  have index : register.toNat / 8 < 32 := Nat.div_lt_of_lt_mul register.toNat_lt
  exact entries ⟨_, index⟩

namespace Within
variable {l : LengthCounter} (within : l.Within)
include within

theorem load (register : UInt8) : (l.load register).Within := by
  unfold LengthCounter.load
  split
  · exact ⟨tableAtMost register⟩
  · exact within

theorem enable (enabled : Bool) : (l.enable enabled).Within := by
  cases enabled with
  | true => exact ⟨within.value⟩
  | false => exact ⟨Nat.zero_le _⟩

theorem clock : l.clock.Within := by
  unfold LengthCounter.clock
  split
  · exact within
  · exact ⟨Nat.le_trans (Nat.sub_le _ 1) within.value⟩

theorem halted (halt : Bool) : { l with halt }.Within :=
  ⟨within.value⟩

end Within
end LengthCounter

structure Timer.Within (t : Timer) (limit : Nat) : Prop where
  period : t.period ≤ limit
  count : t.count ≤ limit

theorem Timer.powerOnWithin (limit : Nat) : ({} : Timer).Within limit :=
  ⟨Nat.zero_le _, Nat.zero_le _⟩

namespace Timer.Within
variable {t : Timer} {limit : Nat}

theorem clock (within : t.Within limit) : t.clock.Within limit := by
  unfold Timer.clock
  split
  · exact ⟨within.period, within.period⟩
  · exact ⟨within.period, Nat.le_trans (Nat.sub_le _ 1) within.count⟩

theorem writeLow (within : t.Within 0x7FF) (value : UInt8) : (t.writeLow value).Within 0x7FF := by
  obtain ⟨period, count⟩ := within
  have byte := value.toNat_lt
  refine ⟨?_, count⟩
  simp only [Timer.writeLow]
  omega

theorem writeHigh (within : t.Within 0x7FF) (value : UInt8) : (t.writeHigh value).Within 0x7FF := by
  refine ⟨?_, within.count⟩
  simp only [Timer.writeHigh]
  omega

end Timer.Within

structure Sweep.Within (s : Sweep) : Prop where
  period : s.period ≤ 7
  shift : s.shift ≤ 7
  divider : s.divider ≤ 7

namespace Sweep

theorem ofByteWithin (value : UInt8) {divider : Nat} (inside : divider ≤ 7) :
    (ofByte value divider).Within :=
  ⟨Nat.le_of_lt_succ (Nat.mod_lt _ (Nat.succ_pos 7)),
    Nat.le_of_lt_succ (Nat.mod_lt _ (Nat.succ_pos 7)), inside⟩

theorem Within.clockDivider {s : Sweep} (within : s.Within) : s.clockDivider.Within := by
  unfold Sweep.clockDivider
  split
  · exact ⟨within.period, within.shift, within.period⟩
  · exact ⟨within.period, within.shift, Nat.le_trans (Nat.sub_le _ 1) within.divider⟩

end Sweep

structure Pulse.Within (p : Pulse) : Prop where
  duty : p.duty < 4
  step : p.step < 8
  timer : p.timer.Within 0x7FF
  sweep : p.sweep.Within
  envelope : p.envelope.Within
  length : p.length.Within

namespace Pulse

theorem notMuted {p : Pulse} (sounds : p.muted = false) : p.target ≤ 0x7FF := by
  unfold muted at sounds
  simpa [maxPeriod] using (Bool.or_eq_false_iff.mp sounds).2

theorem clockSweepInside {p : Pulse} (inside : p.timer.period ≤ maxPeriod) :
    p.clockSweep.timer.period ≤ maxPeriod := by
  change (if p.sweeping then p.target else p.timer.period) ≤ maxPeriod
  split
  · next sweeping =>
    have sounds : p.muted = false := by simpa using (Bool.and_eq_true_iff.mp sweeping).2
    exact notMuted sounds
  · exact inside

theorem powerOnWithin (negation : Negation) : ({ negation } : Pulse).Within where
  duty := Nat.succ_pos 3
  step := Nat.succ_pos 7
  timer := Timer.powerOnWithin _
  sweep := ⟨Nat.zero_le _, Nat.zero_le _, Nat.zero_le _⟩
  envelope := Envelope.powerOnWithin
  length := LengthCounter.powerOnWithin

namespace Within
variable {p : Pulse} (within : p.Within)
include within

theorem writeControl (value : UInt8) : (p.writeControl value).Within :=
  { within with
    duty := Nat.div_lt_of_lt_mul value.toNat_lt
    envelope := within.envelope.write value
    length := within.length.halted _ }

theorem writeSweep (value : UInt8) : (p.writeSweep value).Within :=
  { within with sweep := Sweep.ofByteWithin value within.sweep.divider }

theorem writeTimerLow (value : UInt8) : (p.writeTimerLow value).Within :=
  { within with timer := within.timer.writeLow value }

theorem writeTimerHigh (value : UInt8) : (p.writeTimerHigh value).Within :=
  { within with
    step := Nat.succ_pos 7
    timer := within.timer.writeHigh value
    envelope := within.envelope.restart
    length := within.length.load value }

theorem enable (enabled : Bool) : (p.enable enabled).Within :=
  { within with length := within.length.enable enabled }

theorem clockEnvelope : { p with envelope := p.envelope.clock }.Within :=
  { within with envelope := within.envelope.clock }

theorem clockLength : { p with length := p.length.clock }.Within :=
  { within with length := within.length.clock }

theorem clockSweep : p.clockSweep.Within :=
  { within with
    timer := ⟨clockSweepInside within.timer.period, within.timer.count⟩
    sweep := within.sweep.clockDivider }

theorem clockTimer : p.clockTimer.Within := by
  have stepped : (if p.timer.due then (p.step + 1) % 8 else p.step) < 8 := by
    split
    · exact Nat.mod_lt _ (Nat.succ_pos 7)
    · exact within.step
  exact { within with step := stepped, timer := within.timer.clock }

theorem level : p.level ≤ 15 := by
  unfold Pulse.level
  split
  · exact within.envelope.output
  · exact Nat.zero_le 15

end Within
end Pulse

structure Triangle.Within (t : Triangle) : Prop where
  step : t.step < 32
  linearLoad : t.linearLoad ≤ 127
  linear : t.linear ≤ 127
  timer : t.timer.Within 0x7FF
  length : t.length.Within

namespace Triangle

theorem waveAtMost {step : Nat} (inside : step < 32) : wave step ≤ 15 := by
  unfold wave
  split <;> omega

theorem powerOnWithin : ({} : Triangle).Within where
  step := Nat.succ_pos 31
  linearLoad := Nat.zero_le _
  linear := Nat.zero_le _
  timer := Timer.powerOnWithin _
  length := LengthCounter.powerOnWithin

namespace Within
variable {t : Triangle} (within : t.Within)
include within

theorem writeLinear (value : UInt8) : (t.writeLinear value).Within :=
  { within with
    linearLoad := Nat.le_of_lt_succ (Nat.mod_lt _ (Nat.succ_pos 127))
    length := within.length.halted _ }

theorem writeTimerLow (value : UInt8) : (t.writeTimerLow value).Within :=
  { within with timer := within.timer.writeLow value }

theorem writeTimerHigh (value : UInt8) : (t.writeTimerHigh value).Within :=
  { within with timer := within.timer.writeHigh value, length := within.length.load value }

theorem enable (enabled : Bool) : (t.enable enabled).Within :=
  { within with length := within.length.enable enabled }

theorem clockLength : { t with length := t.length.clock }.Within :=
  { within with length := within.length.clock }

theorem clockLinear : t.clockLinear.Within := by
  have counted : (if t.linearReload then t.linearLoad else t.linear - 1) ≤ 127 := by
    split
    · exact within.linearLoad
    · exact Nat.le_trans (Nat.sub_le _ 1) within.linear
  exact { within with linear := counted }

theorem clockTimer : t.clockTimer.Within := by
  have stepped : (if t.timer.due && t.running then (t.step + 1) % 32 else t.step) < 32 := by
    split
    · exact Nat.mod_lt _ (Nat.succ_pos 31)
    · exact within.step
  exact { within with step := stepped, timer := within.timer.clock }

theorem level : t.level ≤ 15 := by
  unfold Triangle.level
  split
  · exact Nat.zero_le 15
  · exact waveAtMost within.step

end Within
end Triangle

structure Noise.Within (n : Noise) : Prop where
  period : n.timer.period ∈ Noise.periods
  timer : n.timer.Within 4068
  positive : 0 < n.shift.toNat
  fits : n.shift.toNat < 0x8000
  envelope : n.envelope.Within
  length : n.length.Within

namespace Noise

theorem memPeriods (value : UInt8) : periods.getD (value.toNat % 16) 0 ∈ periods := by
  have entries : ∀ i : Fin 16, periods.getD i 0 ∈ periods := by decide +kernel
  exact entries ⟨_, Nat.mod_lt _ (Nat.succ_pos 15)⟩

theorem periodAtMost {period : Nat} (entry : period ∈ periods) : period ≤ 4068 := by
  have entries : periods.all (· ≤ 4068) = true := by decide +kernel
  exact of_decide_eq_true (Array.all_eq_true_iff_forall_mem.mp entries period entry)

def feedback (short : Bool) (shift : UInt16) : Nat :=
  (shift.toNat &&& 1) ^^^ (shift.toNat >>> (if short then 6 else 1) &&& 1)

theorem feedbackBit (short : Bool) (shift : UInt16) : feedback short shift < 2 :=
  Nat.xor_lt_two_pow (n := 1) (Nat.and_lt_two_pow _ (n := 1) (by omega))
    (Nat.and_lt_two_pow _ (by omega))

theorem toNatNextShift (short : Bool) (shift : UInt16) :
    (nextShift short shift).toNat = shift.toNat >>> 1 ||| feedback short shift <<< 14 := by
  have bit := feedbackBit short shift
  have tapped : (if short then shift >>> 6 else shift >>> 1).toNat =
      shift.toNat >>> (if short then 6 else 1) := by
    cases short <;> exact UInt16.toNat_shiftRight _ _
  have fed : ((shift ^^^ if short then shift >>> 6 else shift >>> 1) &&& 1).toNat =
      feedback short shift := by
    rw [UInt16.toNat_and, UInt16.toNat_xor, tapped]
    exact Nat.and_xor_distrib_right
  have high : feedback short shift <<< 14 < 65536 := by
    rw [Nat.shiftLeft_eq]
    omega
  unfold nextShift
  rw [UInt16.toNat_or, UInt16.toNat_shiftRight, UInt16.toNat_shiftLeft, fed]
  exact congrArg (shift.toNat >>> 1 ||| ·) (Nat.mod_eq_of_lt high)

theorem nextShiftRange (short : Bool) {shift : UInt16} (positive : 0 < shift.toNat)
    (fits : shift.toNat < 0x8000) :
    0 < (nextShift short shift).toNat ∧ (nextShift short shift).toNat < 0x8000 := by
  have bit := feedbackBit short shift
  rw [toNatNextShift]
  constructor
  · apply Nat.pos_of_ne_zero
    intro none
    obtain ⟨rest, fed⟩ := Nat.or_eq_zero_iff.mp none
    rw [Nat.shiftRight_eq_div_pow] at rest
    -- Where the last 1 is shifted out, a 1 is shifted in.
    have last : shift.toNat = 1 := by omega
    rw [feedback, last] at fed
    cases short <;> cases fed
  · have low : shift.toNat >>> 1 < 2 ^ 15 := by
      rw [Nat.shiftRight_eq_div_pow]
      omega
    have high : feedback short shift <<< 14 < 2 ^ 15 := by
      rw [Nat.shiftLeft_eq]
      omega
    exact Nat.or_lt_two_pow low high

theorem powerOnWithin : ({} : Noise).Within where
  period := by decide +kernel
  timer := ⟨by decide, Nat.zero_le _⟩
  positive := by decide
  fits := by decide
  envelope := Envelope.powerOnWithin
  length := LengthCounter.powerOnWithin

namespace Within
variable {n : Noise} (within : n.Within)
include within

theorem writeControl (value : UInt8) : (n.writeControl value).Within :=
  { within with
    envelope := within.envelope.write value
    length := within.length.halted _ }

theorem writePeriod (value : UInt8) : (n.writePeriod value).Within :=
  { within with
    period := memPeriods value
    timer := ⟨periodAtMost (memPeriods value), within.timer.count⟩ }

theorem writeLength (value : UInt8) : (n.writeLength value).Within :=
  { within with
    envelope := within.envelope.restart
    length := within.length.load value }

theorem enable (enabled : Bool) : (n.enable enabled).Within :=
  { within with length := within.length.enable enabled }

theorem clockEnvelope : { n with envelope := n.envelope.clock }.Within :=
  { within with envelope := within.envelope.clock }

theorem clockLength : { n with length := n.length.clock }.Within :=
  { within with length := within.length.clock }

theorem clockTimer : n.clockTimer.Within := by
  have shifted : 0 < n.clockTimer.shift.toNat ∧ n.clockTimer.shift.toNat < 0x8000 := by
    unfold Noise.clockTimer
    simp only
    split
    · exact nextShiftRange n.short within.positive within.fits
    · exact ⟨within.positive, within.fits⟩
  exact { within with
    period := n.timer.clockPeriod ▸ within.period
    timer := within.timer.clock
    positive := shifted.1
    fits := shifted.2 }

theorem level : n.level ≤ 15 := by
  unfold Noise.level
  split
  · exact within.envelope.output
  · exact Nat.zero_le 15

end Within
end Noise

structure Dmc.Within (d : Dmc) : Prop where
  rate : d.timer.period + 1 ∈ Dmc.rates
  timer : d.timer.Within 427
  level : d.level ≤ 127
  sampleLength : d.sampleLength ≤ 4081
  bytes : d.bytes ≤ 4081
  bits : d.bits ≤ 8

namespace Dmc

theorem memRates (value : UInt8) :
    rates.getD (value.toNat % 16) 0 - 1 + 1 ∈ rates ∧
      rates.getD (value.toNat % 16) 0 - 1 ≤ 427 := by
  have entries : ∀ i : Fin 16, rates.getD i 0 - 1 + 1 ∈ rates ∧ rates.getD i 0 - 1 ≤ 427 := by
    decide +kernel
  exact entries ⟨_, Nat.mod_lt _ (Nat.succ_pos 15)⟩

theorem powerOnWithin : ({} : Dmc).Within where
  rate := by decide +kernel
  timer := ⟨by decide, Nat.zero_le _⟩
  level := Nat.zero_le _
  sampleLength := Nat.zero_le _
  bytes := Nat.zero_le _
  bits := Nat.zero_le _

namespace Within
variable {d : Dmc} (within : d.Within)
include within

theorem writeControl (value : UInt8) : (d.writeControl value).Within :=
  { within with
    rate := (memRates value).1
    timer := ⟨(memRates value).2, within.timer.count⟩ }

theorem writeLevel (value : UInt8) : (d.writeLevel value).Within :=
  { within with level := Nat.le_of_lt_succ (Nat.mod_lt _ (Nat.succ_pos 127)) }

theorem writeAddress (value : UInt8) : (d.writeAddress value).Within :=
  { within with }

theorem writeLength (value : UInt8) : (d.writeLength value).Within := by
  have byte := value.toNat_lt
  have length : value.toNat * 16 + 1 ≤ 4081 := by omega
  exact { within with sampleLength := length }

theorem acknowledged (irq : Bool) : { d with irq }.Within :=
  { within with }

theorem restart : d.restart.Within :=
  { within with bytes := within.sampleLength }

theorem consumeByte : d.consumeByte.Within := by
  have fewer : d.bytes - 1 ≤ 4081 := Nat.le_trans (Nat.sub_le _ 1) within.bytes
  have consumed : { d with
      currentAddress := nextAddress d.currentAddress, bytes := d.bytes - 1 }.Within :=
    { within with bytes := fewer }
  unfold Dmc.consumeByte
  split
  · exact within
  · simp only
    split
    · exact consumed
    · split
      · exact consumed.restart
      · exact consumed.acknowledged _

theorem consumeBit : d.consumeBit.Within := by
  unfold Dmc.consumeBit
  split
  · have full : { d with bits := 8 }.Within := { within with bits := Nat.le_refl 8 }
    exact full.consumeByte
  · exact { within with bits := Nat.le_trans (Nat.sub_le _ 1) within.bits }

theorem clockTimer : d.clockTimer.Within := by
  have clocked : { d with timer := d.timer.clock }.Within :=
    { within with rate := d.timer.clockPeriod ▸ within.rate, timer := within.timer.clock }
  unfold Dmc.clockTimer
  simp only
  split
  · exact clocked.consumeBit
  · exact clocked

theorem enable (enabled : Bool) : (d.enable enabled).Within := by
  unfold Dmc.enable
  split
  · exact { within with bytes := Nat.zero_le _ }
  · split
    · exact within.acknowledged false
    · exact (within.acknowledged false).restart

end Within
end Dmc

structure FrameSequencer.Within (f : FrameSequencer) : Prop where
  cycle : f.cycle < FrameSequencer.length f.fourStep

namespace FrameSequencer

theorem lengthPos (fourStep : Bool) : 0 < length fourStep := by
  cases fourStep <;> decide

theorem lengthAtMost (fourStep : Bool) : length fourStep ≤ 37282 := by
  cases fourStep <;> decide

theorem Within.clock {f : FrameSequencer} (_ : f.Within) : f.clock.2.Within := by
  have wrapped : (if f.cycle + 1 < length f.fourStep then f.cycle + 1 else 0) <
      length f.fourStep := by
    split
    · assumption
    · exact lengthPos _
  exact ⟨wrapped⟩

theorem writeWithin (f : FrameSequencer) (value : UInt8) : (f.write value).2.Within :=
  ⟨lengthPos _⟩

end FrameSequencer

structure Apu.Within (apu : Apu) : Prop where
  pulse1 : apu.pulse1.Within
  pulse2 : apu.pulse2.Within
  triangle : apu.triangle.Within
  noise : apu.noise.Within
  dmc : apu.dmc.Within
  frame : apu.frame.Within

namespace Apu

theorem powerOnWithin (output : Resampler) : ({ output } : Apu).Within where
  pulse1 := Pulse.powerOnWithin .onesComplement
  pulse2 := Pulse.powerOnWithin .twosComplement
  triangle := Triangle.powerOnWithin
  noise := Noise.powerOnWithin
  dmc := Dmc.powerOnWithin
  frame := ⟨FrameSequencer.lengthPos true⟩

namespace Within
variable {apu : Apu} (within : apu.Within)
include within

theorem quarterFrame : apu.quarterFrame.Within :=
  { within with
    pulse1 := within.pulse1.clockEnvelope
    pulse2 := within.pulse2.clockEnvelope
    noise := within.noise.clockEnvelope
    triangle := within.triangle.clockLinear }

theorem halfFrame : apu.halfFrame.Within :=
  { within with
    pulse1 := within.pulse1.clockLength.clockSweep
    pulse2 := within.pulse2.clockLength.clockSweep
    triangle := within.triangle.clockLength
    noise := within.noise.clockLength }

theorem beat (beat : Beat) : (apu.beat beat).Within := by
  cases beat with
  | rest => exact within
  | quarter => exact within.quarterFrame
  | half => exact within.quarterFrame.halfFrame

theorem writeFrame (value : UInt8) : (apu.writeFrame value).Within := by
  have started : { apu with frame := (apu.frame.write value).2 }.Within :=
    { within with frame := apu.frame.writeWithin value }
  exact started.beat _

theorem enableChannels (value : UInt8) : (apu.enableChannels value).Within :=
  { within with
    pulse1 := within.pulse1.enable _
    pulse2 := within.pulse2.enable _
    triangle := within.triangle.enable _
    noise := within.noise.enable _
    dmc := within.dmc.enable _ }

theorem write (addr : UInt16) (value : UInt8) : (apu.write addr value).Within := by
  unfold Apu.write
  split
  · exact { within with pulse1 := within.pulse1.writeControl value }
  · exact { within with pulse1 := within.pulse1.writeSweep value }
  · exact { within with pulse1 := within.pulse1.writeTimerLow value }
  · exact { within with pulse1 := within.pulse1.writeTimerHigh value }
  · exact { within with pulse2 := within.pulse2.writeControl value }
  · exact { within with pulse2 := within.pulse2.writeSweep value }
  · exact { within with pulse2 := within.pulse2.writeTimerLow value }
  · exact { within with pulse2 := within.pulse2.writeTimerHigh value }
  · exact { within with triangle := within.triangle.writeLinear value }
  · exact { within with triangle := within.triangle.writeTimerLow value }
  · exact { within with triangle := within.triangle.writeTimerHigh value }
  · exact { within with noise := within.noise.writeControl value }
  · exact { within with noise := within.noise.writePeriod value }
  · exact { within with noise := within.noise.writeLength value }
  · exact { within with dmc := within.dmc.writeControl value }
  · exact { within with dmc := within.dmc.writeLevel value }
  · exact { within with dmc := within.dmc.writeAddress value }
  · exact { within with dmc := within.dmc.writeLength value }
  · exact within.enableChannels value
  · exact within.writeFrame value
  · exact within

theorem readStatus : apu.readStatus.2.Within :=
  { within with dmc := within.dmc.acknowledged false, frame := ⟨within.frame.cycle⟩ }

theorem resampled (output : Resampler) : { apu with output }.Within :=
  { within with }

theorem clockFrame : apu.clockFrame.Within := by
  have clocked : { apu with frame := apu.frame.clock.2 }.Within :=
    { within with frame := within.frame.clock }
  exact clocked.beat _

theorem clockTimers : apu.clockTimers.Within := by
  have pulse {p : Pulse} (inside : p.Within) (odd : Bool) :
      (if odd then p.clockTimer else p).Within := by
    split
    · exact inside.clockTimer
    · exact inside
  exact { within with
    pulse1 := pulse within.pulse1 apu.oddCycle
    pulse2 := pulse within.pulse2 apu.oddCycle
    triangle := within.triangle.clockTimer
    noise := within.noise.clockTimer
    dmc := within.dmc.clockTimer }

theorem cycle : apu.cycle.Within := by
  have clocked := within.clockFrame.clockTimers
  unfold Apu.cycle
  simp only
  split <;> exact clocked.resampled _

theorem tick (cycles : Nat) : (apu.tick cycles).Within :=
  tickHolds (fun _ inside => cycle inside) within cycles

end Within

theorem keptWithin : Kept Within where
  reset apu _ := powerOnWithin apu.output.restart
  readStatus _ within := within.readStatus
  write _ addr value within := within.write addr value
  tick _ cycles within := within.tick cycles
  drain _ within := within.resampled _

theorem performAllWithin (clockHz : Float) (sampleRate : Nat) (operations : List Operation) :
    ((new clockHz sampleRate).performAll operations).Within :=
  keptWithin.performAll (powerOnWithin _) operations

end Apu
end Nes
