import Nes.Proofs.Apu.Bounds
import Nes.Proofs.Checked

/-! The sound unit on machine words. Each operation again, with every sum, difference, product,
shift and table entry checked; within the ranges of the unit no check fails, and so the checked
operation is the operation itself. -/
namespace Nes
open Width

namespace Envelope
variable (e : Envelope)

def clock? : Option Envelope := do
  if e.start then
    return { e with start := false, decay := 15, divider := e.volume }
  else if e.divider > 0 then
    let divider ← bits8.sub e.divider 1
    return { e with divider }
  else if e.decay > 0 then
    let decay ← bits8.sub e.decay 1
    return { e with divider := e.volume, decay }
  else if e.looping then
    return { e with divider := e.volume, decay := 15 }
  else
    return { e with divider := e.volume }

theorem clockChecked : e.clock? = some e.clock := by
  unfold clock? clock
  split
  · rfl
  · split
    · next more => rw [subSome bits8 more]; rfl
    · split
      · next more => rw [subSome bits8 more]; rfl
      · split <;> rfl

end Envelope

namespace LengthCounter
variable (l : LengthCounter)

def load? (register : UInt8) : Option LengthCounter := do
  if l.enabled then
    let index ← bits8.shiftRight register.toNat 3
    let value ← table[index]?
    return { l with value }
  else
    return l

def clock? : Option LengthCounter := do
  if !l.halt && l.value > 0 then
    let value ← bits8.sub l.value 1
    return { l with value }
  else
    return l

theorem loadChecked (register : UInt8) : l.load? register = some (l.load register) := by
  have inside : register.toNat / 8 < table.size := Nat.div_lt_of_lt_mul register.toNat_lt
  have entry : table[register.toNat >>> 3]? = some (table.getD (register.toNat / 8) 0) := by
    rw [Nat.shiftRight_eq_div_pow]
    exact entrySome inside 0
  unfold load? load
  by_cases enabled : l.enabled = true
  · rw [if_pos enabled, if_pos enabled, shiftRightSome (by decide)]
    simp only [Option.bind_eq_bind, Option.bind_some, entry]
    rfl
  · rw [if_neg enabled, if_neg enabled]
    rfl

theorem clockChecked : l.clock? = some l.clock := by
  obtain ⟨enabled, halt, value⟩ := l
  unfold clock? clock
  cases halt with
  | true => rfl
  | false =>
    cases value with
    | zero => rfl
    | succ n => rfl

end LengthCounter

namespace Timer
variable (t : Timer)

def clock? : Option Timer := do
  if t.count > 0 then
    let count ← bits16.sub t.count 1
    return { t with count }
  else
    return { t with count := t.period }

def writeHigh? (value : UInt8) : Option Timer := do
  let high ← bits16.shiftLeft (value.toNat % 8) 8
  return { t with period := high ||| t.period % 0x100 }

theorem clockChecked : t.clock? = some t.clock := by
  unfold clock? clock
  obtain ⟨period, count⟩ := t
  cases count with
  | zero => rfl
  | succ n => rfl

theorem writeHighChecked (value : UInt8) : t.writeHigh? value = some (t.writeHigh value) := by
  have fits : (value.toNat % 8) <<< 8 < bits16.limit := by
    rw [Nat.shiftLeft_eq, limit]
    omega
  have joined : (value.toNat % 8) <<< 8 ||| t.period % 0x100 =
      value.toNat % 8 * 0x100 + t.period % 0x100 := by
    rw [← Nat.shiftLeft_add_eq_or_of_lt (Nat.mod_lt _ (by decide)), Nat.shiftLeft_eq]
  unfold writeHigh? writeHigh
  rw [shiftLeftSome (by decide) fits]
  exact congrArg (fun period => some { t with period }) joined

end Timer

namespace Sweep

def ofByte? (value : UInt8) (divider : Nat) : Option Sweep := do
  let period ← bits8.shiftRight value.toNat 4
  return { ofByte value divider with period := period % 8 }

def clockDivider? (s : Sweep) : Option Sweep := do
  if s.divider = 0 ∨ s.reload then
    return { s with divider := s.period, reload := false }
  else
    let divider ← bits8.sub s.divider 1
    return { s with divider }

theorem ofByteChecked (value : UInt8) (divider : Nat) :
    ofByte? value divider = some (ofByte value divider) := by
  unfold ofByte?
  rw [shiftRightSome (by decide), Nat.shiftRight_eq_div_pow]
  rfl

theorem clockDividerChecked (s : Sweep) : s.clockDivider? = some s.clockDivider := by
  unfold clockDivider? clockDivider
  by_cases restarts : s.divider = 0 ∨ s.reload = true
  · rw [if_pos restarts, if_pos restarts]
    rfl
  · have more : 1 ≤ s.divider := by omega
    rw [if_neg restarts, if_neg restarts, subSome bits8 more]
    rfl

end Sweep

namespace Pulse

def writeControl? (p : Pulse) (value : UInt8) : Option Pulse := do
  let duty ← bits8.shiftRight value.toNat 6
  return { p.writeControl value with duty }

def writeSweep? (p : Pulse) (value : UInt8) : Option Pulse := do
  let sweep ← Sweep.ofByte? value p.sweep.divider
  return { p with sweep }

def writeTimerHigh? (p : Pulse) (value : UInt8) : Option Pulse := do
  let timer ← p.timer.writeHigh? value
  let length ← p.length.load? value
  return { p with timer, length, envelope := p.envelope.restart, step := 0 }

def target? (p : Pulse) : Option Nat := do
  let delta ← bits16.shiftRight p.timer.period p.sweep.shift
  if p.sweep.negate then
    let delta ← if p.negation = .onesComplement then bits16.add delta 1 else some delta
    return p.timer.period - delta
  else
    bits16.add p.timer.period delta

def muted? (p : Pulse) : Option Bool := do
  if p.timer.period < 8 then
    return true
  else
    let target ← p.target?
    return target > maxPeriod

def clockSweep? (p : Pulse) : Option Pulse := do
  let due := p.sweep.divider == 0 && p.sweep.enabled && p.sweep.shift != 0
  let muted ← if due then p.muted? else some true
  let period ← if muted then some p.timer.period else p.target?
  let sweep ← p.sweep.clockDivider?
  return { p with timer := { p.timer with period }, sweep }

def clockTimer? (p : Pulse) : Option Pulse := do
  let timer ← p.timer.clock?
  if p.timer.due then
    let next ← bits8.add p.step 1
    return { p with timer, step := next % 8 }
  else
    return { p with timer }

def clockTimerOn? (p : Pulse) (odd : Bool) : Option Pulse :=
  if odd then p.clockTimer? else some p

def level? (p : Pulse) : Option Nat := do
  if p.length.active then
    let muted ← p.muted?
    if muted then
      return 0
    else
      let sequence ← dutySequences[p.duty]?
      let high ← sequence[p.step]?
      return if high then p.envelope.output else 0
  else
    return 0

theorem writeControlChecked (p : Pulse) (value : UInt8) :
    p.writeControl? value = some (p.writeControl value) := by
  unfold writeControl?
  rw [shiftRightSome (by decide), Nat.shiftRight_eq_div_pow]
  rfl

theorem writeSweepChecked (p : Pulse) (value : UInt8) :
    p.writeSweep? value = some (p.writeSweep value) := by
  rw [writeSweep?, Sweep.ofByteChecked]
  rfl

theorem writeTimerHighChecked (p : Pulse) (value : UInt8) :
    p.writeTimerHigh? value = some (p.writeTimerHigh value) := by
  unfold writeTimerHigh?
  rw [Timer.writeHighChecked, LengthCounter.loadChecked]
  rfl

theorem dutyEntry {duty step : Nat} (duties : duty < 4) (steps : step < 8) :
    dutySequences[duty]? = some (dutySequences.getD duty #[]) ∧
      (dutySequences.getD duty #[])[step]? =
        some ((dutySequences.getD duty #[]).getD step false) := by
  have sizes : ∀ duty : Fin 4, (dutySequences.getD duty #[]).size = 8 := by decide
  have size : (dutySequences.getD duty #[]).size = 8 := sizes ⟨duty, duties⟩
  exact ⟨entrySome duties #[], entrySome (by rw [size]; exact steps) false⟩

namespace Within
variable {p : Pulse} (within : p.Within)
include within

theorem targetChecked : p.target? = some p.target := by
  have period := within.timer.period
  have shift : p.sweep.shift < bits16.bits := Nat.lt_of_le_of_lt within.sweep.shift (by decide)
  have delta : p.timer.period >>> p.sweep.shift ≤ p.timer.period := Nat.shiftRight_le _ _
  have more : p.timer.period >>> p.sweep.shift + 1 < bits16.limit := by
    rw [limit]
    omega
  have sum : p.timer.period + p.timer.period >>> p.sweep.shift < bits16.limit := by
    rw [limit]
    omega
  unfold target? Pulse.target
  rw [shiftRightSome shift]
  cases p.sweep.negate with
  | false => exact addSome sum
  | true =>
    cases p.negation with
    | onesComplement =>
      simp only [Option.bind_eq_bind, Option.bind_some, if_true, addSome more]
      rfl
    | twosComplement => rfl

theorem mutedChecked : p.muted? = some p.muted := by
  unfold muted? Pulse.muted
  rw [within.targetChecked]
  by_cases short : p.timer.period < 8
  · simp [short]
  · simp [short]

theorem clockSweepChecked : p.clockSweep? = some p.clockSweep := by
  unfold clockSweep? Pulse.clockSweep sweeping
  rw [within.mutedChecked, within.targetChecked, Sweep.clockDividerChecked]
  cases p.sweep.divider == 0 && p.sweep.enabled && p.sweep.shift != 0 with
  | false => rfl
  | true => cases p.muted <;> rfl

theorem clockTimerChecked : p.clockTimer? = some p.clockTimer := by
  have next : p.step + 1 < bits8.limit := by
    have step := within.step
    rw [limit]
    omega
  unfold clockTimer? Pulse.clockTimer
  rw [Timer.clockChecked]
  cases due : p.timer.due with
  | false => rfl
  | true =>
    simp only [addSome next, if_true]
    rfl

theorem clockTimerOnChecked (odd : Bool) :
    p.clockTimerOn? odd = some (if odd then p.clockTimer else p) := by
  cases odd with
  | true => exact within.clockTimerChecked
  | false => rfl

theorem levelChecked : p.level? = some p.level := by
  obtain ⟨sequence, entry⟩ := dutyEntry within.duty within.step
  unfold level? Pulse.level high
  rw [within.mutedChecked, sequence]
  cases p.length.active with
  | false => rfl
  | true =>
    cases p.muted with
    | true => rfl
    | false =>
      simp only [Option.bind_eq_bind, Option.bind_some, entry]
      rfl

end Within
end Pulse

namespace Triangle

def waveTable : Array Nat :=
  #[15, 14, 13, 12, 11, 10, 9, 8, 7, 6, 5, 4, 3, 2, 1, 0,
    0, 1, 2, 3, 4, 5, 6, 7, 8, 9, 10, 11, 12, 13, 14, 15]

def writeTimerHigh? (t : Triangle) (value : UInt8) : Option Triangle := do
  let timer ← t.timer.writeHigh? value
  let length ← t.length.load? value
  return { t with timer, length, linearReload := true }

def clockLinear? (t : Triangle) : Option Triangle := do
  let linear ←
    if t.linearReload then some t.linearLoad
    else if t.linear > 0 then bits8.sub t.linear 1
    else some t.linear
  return { t with linear, linearReload := t.linearReload && t.control }

def clockTimer? (t : Triangle) : Option Triangle := do
  let timer ← t.timer.clock?
  if t.timer.due && t.running then
    let next ← bits8.add t.step 1
    return { t with timer, step := next % 32 }
  else
    return { t with timer }

def level? (t : Triangle) : Option Nat :=
  if t.timer.period < 2 then some 0 else waveTable[t.step]?

theorem writeTimerHighChecked (t : Triangle) (value : UInt8) :
    t.writeTimerHigh? value = some (t.writeTimerHigh value) := by
  unfold writeTimerHigh?
  rw [Timer.writeHighChecked, LengthCounter.loadChecked]
  rfl

theorem clockLinearChecked (t : Triangle) : t.clockLinear? = some t.clockLinear := by
  obtain ⟨length, control, linearLoad, linear, linearReload, timer, step⟩ := t
  unfold clockLinear? clockLinear
  cases linearReload with
  | true => rfl
  | false => cases linear <;> rfl

theorem waveEntry {step : Nat} (inside : step < 32) : waveTable[step]? = some (wave step) := by
  have entries : ∀ step : Fin 32, waveTable[step.val]? = some (wave step) := by decide
  exact entries ⟨step, inside⟩

namespace Within
variable {t : Triangle} (within : t.Within)
include within

theorem clockTimerChecked : t.clockTimer? = some t.clockTimer := by
  have next : t.step + 1 < bits8.limit := by
    have step := within.step
    rw [limit]
    omega
  unfold clockTimer? Triangle.clockTimer
  rw [Timer.clockChecked]
  cases t.timer.due && t.running with
  | false => rfl
  | true =>
    simp only [addSome next, if_true]
    rfl

theorem levelChecked : t.level? = some t.level := by
  unfold level? Triangle.level
  rw [waveEntry within.step]
  split <;> rfl

end Within
end Triangle

namespace Noise

def nextShift? (short : Bool) (shift : UInt16) : Option UInt16 := do
  let tap ← bits16.shiftRight shift.toNat (if short then 6 else 1)
  let low ← bits16.shiftRight shift.toNat 1
  let high ← bits16.shiftLeft ((shift.toNat &&& 1) ^^^ (tap &&& 1)) 14
  return UInt16.ofNat (low ||| high)

def writePeriod? (n : Noise) (value : UInt8) : Option Noise := do
  let period ← periods[value.toNat % 16]?
  return { n with short := testBit value 7, timer := { n.timer with period } }

def writeLength? (n : Noise) (value : UInt8) : Option Noise := do
  let length ← n.length.load? value
  return { n with length, envelope := n.envelope.restart }

def clockTimer? (n : Noise) : Option Noise := do
  let timer ← n.timer.clock?
  let shift ← if n.timer.due then nextShift? n.short n.shift else some n.shift
  return { n with timer, shift }

theorem nextShiftChecked (short : Bool) (shift : UInt16) :
    nextShift? short shift = some (nextShift short shift) := by
  have narrow : (if short then 6 else 1) < bits16.bits := by cases short <;> decide
  have bit := feedbackBit short shift
  have fits : feedback short shift <<< 14 < bits16.limit := by
    rw [Nat.shiftLeft_eq, limit]
    omega
  have next : UInt16.ofNat (shift.toNat >>> 1 ||| feedback short shift <<< 14) =
      nextShift short shift := by
    rw [← toNatNextShift, UInt16.ofNat_toNat]
  unfold nextShift?
  rw [shiftRightSome narrow, shiftRightSome (by decide)]
  simp only [Option.bind_eq_bind, Option.bind_some]
  rw [← feedback, shiftLeftSome (by decide) fits, Option.bind_some, next, Option.pure_def]

theorem writePeriodChecked (n : Noise) (value : UInt8) :
    n.writePeriod? value = some (n.writePeriod value) := by
  have inside : value.toNat % 16 < periods.size := Nat.mod_lt _ (Nat.succ_pos 15)
  unfold writePeriod? writePeriod
  rw [entrySome inside 0]
  rfl

theorem writeLengthChecked (n : Noise) (value : UInt8) :
    n.writeLength? value = some (n.writeLength value) := by
  rw [writeLength?, LengthCounter.loadChecked]
  rfl

theorem clockTimerChecked (n : Noise) : n.clockTimer? = some n.clockTimer := by
  unfold clockTimer? clockTimer
  rw [Timer.clockChecked, nextShiftChecked]
  cases n.timer.due <;> rfl

end Noise

namespace Dmc

def writeControl? (d : Dmc) (value : UInt8) : Option Dmc := do
  let rate ← rates[value.toNat % 16]?
  return { d.writeControl value with timer := { d.timer with period := rate - 1 } }

def writeAddress? (d : Dmc) (value : UInt8) : Option Dmc := do
  let offset ← bits16.mul value.toNat 64
  let addr ← bits16.add 0xC000 offset
  return { d with sampleAddress := UInt16.ofNat addr }

def writeLength? (d : Dmc) (value : UInt8) : Option Dmc := do
  let length ← bits16.mul value.toNat 16
  let sampleLength ← bits16.add length 1
  return { d with sampleLength }

def consumeByte? (d : Dmc) : Option Dmc := do
  if d.bytes = 0 then
    return d
  else
    let bytes ← bits16.sub d.bytes 1
    let d := { d with currentAddress := nextAddress d.currentAddress, bytes }
    if d.bytes ≠ 0 then
      return d
    else if d.loop then
      return d.restart
    else
      return { d with irq := d.irq || d.irqEnabled }

def consumeBit? (d : Dmc) : Option Dmc := do
  let bits ← if d.bits > 0 then bits8.sub d.bits 1 else some d.bits
  if bits = 0 then
    let full := { d with bits := 8 }
    full.consumeByte?
  else
    return { d with bits }

def clockTimer? (d : Dmc) : Option Dmc := do
  let timer ← d.timer.clock?
  let clocked := { d with timer }
  if d.timer.due then clocked.consumeBit? else some clocked

theorem writeControlChecked (d : Dmc) (value : UInt8) :
    d.writeControl? value = some (d.writeControl value) := by
  have inside : value.toNat % 16 < rates.size := Nat.mod_lt _ (Nat.succ_pos 15)
  unfold writeControl?
  rw [entrySome inside 0]
  rfl

theorem writeAddressChecked (d : Dmc) (value : UInt8) :
    d.writeAddress? value = some (d.writeAddress value) := by
  have byte := value.toNat_lt
  have offset : value.toNat * 64 < bits16.limit := by
    rw [limit]
    omega
  have addr : 0xC000 + value.toNat * 64 < bits16.limit := by
    rw [limit]
    omega
  have same : UInt16.ofNat (0xC000 + value.toNat * 64) = 0xC000 + value.toUInt16 * 64 := by
    apply UInt16.toNat_inj.mp
    simp
  unfold writeAddress?
  rw [mulSome offset]
  simp only [Option.bind_eq_bind, Option.bind_some, addSome addr, same]
  rfl

theorem writeLengthChecked (d : Dmc) (value : UInt8) :
    d.writeLength? value = some (d.writeLength value) := by
  have byte := value.toNat_lt
  have bytes : value.toNat * 16 < bits16.limit := by
    rw [limit]
    omega
  have length : value.toNat * 16 + 1 < bits16.limit := by
    rw [limit]
    omega
  unfold writeLength?
  rw [mulSome bytes]
  simp only [Option.bind_eq_bind, Option.bind_some, addSome length]
  rfl

theorem consumeByteChecked (d : Dmc) : d.consumeByte? = some d.consumeByte := by
  unfold consumeByte? consumeByte
  by_cases empty : d.bytes = 0
  · rw [if_pos empty, if_pos empty]
    rfl
  · rw [if_neg empty, if_neg empty, subSome bits16 (Nat.one_le_iff_ne_zero.mpr empty)]
    simp only [Option.bind_eq_bind, Option.bind_some]
    split
    · rfl
    · split <;> rfl

theorem consumeBitChecked (d : Dmc) : d.consumeBit? = some d.consumeBit := by
  unfold consumeBit? consumeBit
  by_cases more : d.bits > 0
  · rw [if_pos more, subSome bits8 more]
    simp only [Option.bind_eq_bind, Option.bind_some]
    by_cases last : d.bits ≤ 1
    · rw [if_pos last, if_pos (Nat.sub_eq_zero_of_le last)]
      exact consumeByteChecked _
    · rw [if_neg last, if_neg (by omega)]
      rfl
  · rw [if_neg more, if_pos (by omega)]
    simp only [Option.bind_eq_bind, Option.bind_some]
    rw [if_pos (Nat.eq_zero_of_not_pos more)]
    exact consumeByteChecked _

theorem clockTimerChecked (d : Dmc) : d.clockTimer? = some d.clockTimer := by
  unfold clockTimer? clockTimer
  rw [Timer.clockChecked]
  simp only [Option.bind_eq_bind, Option.bind_some]
  split
  · exact consumeBitChecked _
  · rfl

end Dmc

namespace FrameSequencer

def clock? (f : FrameSequencer) : Option (Beat × FrameSequencer) := do
  let cycle ← bits32.add f.cycle 1
  let raised := f.fourStep && !f.irqInhibit && cycle == lastBeat f.fourStep
  return (beatAt f.fourStep cycle,
    { f with
      cycle := if cycle < length f.fourStep then cycle else 0
      irq := f.irq || raised })

theorem Within.clockChecked {f : FrameSequencer} (within : f.Within) :
    f.clock? = some f.clock := by
  have next : f.cycle + 1 < bits32.limit := by
    have cycle := within.cycle
    have length := lengthAtMost f.fourStep
    rw [limit]
    omega
  unfold clock?
  rw [addSome next]
  rfl

end FrameSequencer

namespace Apu

def quarterFrame? (apu : Apu) : Option Apu := do
  let envelope1 ← apu.pulse1.envelope.clock?
  let envelope2 ← apu.pulse2.envelope.clock?
  let envelope ← apu.noise.envelope.clock?
  let triangle ← apu.triangle.clockLinear?
  return { apu with
    pulse1 := { apu.pulse1 with envelope := envelope1 }
    pulse2 := { apu.pulse2 with envelope := envelope2 }
    noise := { apu.noise with envelope }
    triangle }

def halfFrame? (apu : Apu) : Option Apu := do
  let length1 ← apu.pulse1.length.clock?
  let length2 ← apu.pulse2.length.clock?
  let length3 ← apu.triangle.length.clock?
  let length4 ← apu.noise.length.clock?
  let pulse1 ← { apu.pulse1 with length := length1 }.clockSweep?
  let pulse2 ← { apu.pulse2 with length := length2 }.clockSweep?
  return { apu with
    pulse1
    pulse2
    triangle := { apu.triangle with length := length3 }
    noise := { apu.noise with length := length4 } }

def beat? (apu : Apu) : Beat → Option Apu
  | .rest => some apu
  | .quarter => apu.quarterFrame?
  | .half => apu.quarterFrame?.bind halfFrame?

def writeFrame? (apu : Apu) (value : UInt8) : Option Apu :=
  let (beat, frame) := apu.frame.write value
  { apu with frame }.beat? beat

def write? (apu : Apu) (addr : UInt16) (value : UInt8) : Option Apu :=
  match addr.toNat with
  | 0x4000 => (apu.pulse1.writeControl? value).map fun pulse1 => { apu with pulse1 }
  | 0x4001 => (apu.pulse1.writeSweep? value).map fun pulse1 => { apu with pulse1 }
  | 0x4003 => (apu.pulse1.writeTimerHigh? value).map fun pulse1 => { apu with pulse1 }
  | 0x4004 => (apu.pulse2.writeControl? value).map fun pulse2 => { apu with pulse2 }
  | 0x4005 => (apu.pulse2.writeSweep? value).map fun pulse2 => { apu with pulse2 }
  | 0x4007 => (apu.pulse2.writeTimerHigh? value).map fun pulse2 => { apu with pulse2 }
  | 0x400B => (apu.triangle.writeTimerHigh? value).map fun triangle => { apu with triangle }
  | 0x400E => (apu.noise.writePeriod? value).map fun noise => { apu with noise }
  | 0x400F => (apu.noise.writeLength? value).map fun noise => { apu with noise }
  | 0x4010 => (apu.dmc.writeControl? value).map fun dmc => { apu with dmc }
  | 0x4012 => (apu.dmc.writeAddress? value).map fun dmc => { apu with dmc }
  | 0x4013 => (apu.dmc.writeLength? value).map fun dmc => { apu with dmc }
  | 0x4017 => apu.writeFrame? value
  | _ => some (apu.write addr value)

def sample? (apu : Apu) : Option Int16 := do
  let pulse1 ← apu.pulse1.level?
  let pulse2 ← apu.pulse2.level?
  let triangle ← apu.triangle.level?
  return Mixer.mix pulse1 pulse2 triangle apu.noise.level apu.dmc.level

def clockFrame? (apu : Apu) : Option Apu := do
  let clocked ← apu.frame.clock?
  { apu with frame := clocked.2 }.beat? clocked.1

def clockTimers? (apu : Apu) : Option Apu := do
  let pulse1 ← apu.pulse1.clockTimerOn? apu.oddCycle
  let pulse2 ← apu.pulse2.clockTimerOn? apu.oddCycle
  let triangle ← apu.triangle.clockTimer?
  let noise ← apu.noise.clockTimer?
  let dmc ← apu.dmc.clockTimer?
  return { apu with pulse1, pulse2, oddCycle := !apu.oddCycle, triangle, noise, dmc }

def cycle? (apu : Apu) : Option Apu := do
  let framed ← apu.clockFrame?
  let apu ← framed.clockTimers?
  if apu.output.due then
    let sample ← apu.sample?
    return { apu with output := apu.output.emit sample }
  else
    return { apu with output := apu.output.skip }

def tick? (apu : Apu) : Nat → Option Apu
  | 0 => some apu
  | n + 1 => apu.cycle?.bind (·.tick? n)

def perform? (apu : Apu) : Operation → Option Apu
  | .write addr value => apu.write? addr value
  | .tick cycles => apu.tick? cycles
  | .readStatus => some apu.readStatus.2
  | .drain => some apu.drain.2
  | .reset => some apu.reset

def performAll? (apu : Apu) (operations : List Operation) : Option Apu :=
  operations.foldlM perform? apu

theorem quarterFrameChecked (apu : Apu) : apu.quarterFrame? = some apu.quarterFrame := by
  unfold quarterFrame?
  simp only [Envelope.clockChecked, Triangle.clockLinearChecked]
  rfl

namespace Within
variable {apu : Apu} (within : apu.Within)
include within

theorem halfFrameChecked : apu.halfFrame? = some apu.halfFrame := by
  unfold halfFrame?
  simp only [LengthCounter.clockChecked, Option.bind_eq_bind, Option.bind_some,
    within.pulse1.clockLength.clockSweepChecked, within.pulse2.clockLength.clockSweepChecked]
  rfl

theorem beatChecked (beat : Beat) : apu.beat? beat = some (apu.beat beat) := by
  cases beat with
  | rest => rfl
  | quarter => exact quarterFrameChecked apu
  | half =>
    unfold beat?
    rw [quarterFrameChecked]
    exact within.quarterFrame.halfFrameChecked

theorem writeFrameChecked (value : UInt8) :
    apu.writeFrame? value = some (apu.writeFrame value) := by
  have started : { apu with frame := (apu.frame.write value).2 }.Within :=
    { within with frame := apu.frame.writeWithin value }
  exact started.beatChecked _

theorem writeChecked (addr : UInt16) (value : UInt8) :
    apu.write? addr value = some (apu.write addr value) := by
  unfold write? Apu.write
  generalize addr.toNat = register
  split
  · exact congrArg (Option.map fun pulse1 => { apu with pulse1 })
      (apu.pulse1.writeControlChecked value)
  · exact congrArg (Option.map fun pulse1 => { apu with pulse1 })
      (apu.pulse1.writeSweepChecked value)
  · exact congrArg (Option.map fun pulse1 => { apu with pulse1 })
      (apu.pulse1.writeTimerHighChecked value)
  · exact congrArg (Option.map fun pulse2 => { apu with pulse2 })
      (apu.pulse2.writeControlChecked value)
  · exact congrArg (Option.map fun pulse2 => { apu with pulse2 })
      (apu.pulse2.writeSweepChecked value)
  · exact congrArg (Option.map fun pulse2 => { apu with pulse2 })
      (apu.pulse2.writeTimerHighChecked value)
  · exact congrArg (Option.map fun triangle => { apu with triangle })
      (apu.triangle.writeTimerHighChecked value)
  · exact congrArg (Option.map fun noise => { apu with noise })
      (apu.noise.writePeriodChecked value)
  · exact congrArg (Option.map fun noise => { apu with noise })
      (apu.noise.writeLengthChecked value)
  · exact congrArg (Option.map fun dmc => { apu with dmc })
      (apu.dmc.writeControlChecked value)
  · exact congrArg (Option.map fun dmc => { apu with dmc })
      (apu.dmc.writeAddressChecked value)
  · exact congrArg (Option.map fun dmc => { apu with dmc })
      (apu.dmc.writeLengthChecked value)
  · exact within.writeFrameChecked value
  · rfl

theorem sampleChecked : apu.sample? = some apu.sample := by
  unfold sample?
  rw [within.pulse1.levelChecked, within.pulse2.levelChecked, within.triangle.levelChecked]
  rfl

theorem clockFrameChecked : apu.clockFrame? = some apu.clockFrame := by
  have clocked : { apu with frame := apu.frame.clock.2 }.Within :=
    { within with frame := within.frame.clock }
  unfold clockFrame?
  rw [within.frame.clockChecked]
  exact clocked.beatChecked _

theorem clockTimersChecked : apu.clockTimers? = some apu.clockTimers := by
  unfold clockTimers?
  simp only [within.pulse1.clockTimerOnChecked, within.pulse2.clockTimerOnChecked,
    within.triangle.clockTimerChecked, Noise.clockTimerChecked, Dmc.clockTimerChecked,
    Option.bind_eq_bind, Option.bind_some]
  rfl

theorem cycleChecked : apu.cycle? = some apu.cycle := by
  have clocked := within.clockFrame.clockTimers
  unfold cycle? Apu.cycle
  simp only [within.clockFrameChecked, within.clockFrame.clockTimersChecked,
    clocked.sampleChecked, Option.bind_eq_bind, Option.bind_some]
  split <;> rfl

theorem tickChecked (cycles : Nat) : apu.tick? cycles = some (apu.tick cycles) := by
  induction cycles generalizing apu with
  | zero => rfl
  | succ n ih =>
    rw [tick?, within.cycleChecked, Option.bind_some]
    exact ih within.cycle

theorem performChecked (operation : Operation) :
    apu.perform? operation = some (apu.perform operation) := by
  cases operation with
  | write addr value => exact within.writeChecked addr value
  | tick cycles => exact within.tickChecked cycles
  | readStatus | drain | reset => rfl

end Within

/-- After any history since power on, at any clock and any rate, every number of the unit is in its
range. Nothing in the history overflowed, went below zero or left its table, and neither does a
sample now, which is made of levels that fit the mixer. -/
theorem soundNeverOverflows (clockHz : Float) (sampleRate : Nat) (operations : List Operation) :
    let start := new clockHz sampleRate
    let apu := start.performAll operations
    apu.Within ∧ start.performAll? operations = some apu ∧ apu.sample? = some apu.sample ∧
      apu.pulse1.level ≤ 15 ∧ apu.pulse2.level ≤ 15 ∧ apu.triangle.level ≤ 15 ∧
      apu.noise.level ≤ 15 ∧ apu.dmc.level ≤ 127 := by
  intro start apu
  have within : apu.Within := performAllWithin clockHz sampleRate operations
  have follows (apu : Apu) (operation : Operation) (inside : apu.Within) :
      apu.perform? operation = some (apu.perform operation) := inside.performChecked operation
  have kept (apu : Apu) (operation : Operation) (inside : apu.Within) :
      (apu.perform operation).Within := keptWithin.perform inside operation
  have followed : start.performAll? operations = some apu :=
    followAll id follows kept (performAllWithin clockHz sampleRate []) operations
  exact ⟨within, followed, within.sampleChecked, within.pulse1.level, within.pulse2.level,
    within.triangle.level, within.noise.level, within.dmc.level⟩

end Apu
end Nes
