import Nes.Proofs.Apu.InterruptLine
import Nes.Proofs.Apu.Timers

/-! How long a sample lasts. Three counters in a row divide the clock of the delta channel, into
bits, bytes and samples, and what is left of a sample is a matter of division. -/
namespace Nes

namespace Dmc

def bitTimer (d : Dmc) : Timer :=
  ⟨7, d.bits - 1⟩

def undivided (d : Dmc) : Dmc :=
  { d with timer := {}, bits := 0 }

def bytesDue (d : Dmc) (n : Nat) : Nat :=
  d.bitTimer.expiries (d.timer.expiries n)

def firstDue (d : Dmc) : Nat :=
  d.timer.count + 1 + (max d.bits 1 - 1) * (d.timer.period + 1)

theorem consumeByteUndivided (d : Dmc) : d.consumeByte.undivided = d.undivided.consumeByte := by
  unfold consumeByte undivided restart
  simp only
  split
  · rfl
  · split
    · rfl
    · split <;> rfl

theorem consumeByteParts (d : Dmc) :
    ∃ irq currentAddress bytes, d.consumeByte = { d with irq, currentAddress, bytes } := by
  unfold consumeByte restart
  simp only
  split
  · exact ⟨_, _, _, rfl⟩
  · split
    · exact ⟨_, _, _, rfl⟩
    · split <;> exact ⟨_, _, _, rfl⟩

theorem consumeByteCounters (d : Dmc) :
    d.consumeByte.timer = d.timer ∧ d.consumeByte.bitTimer = d.bitTimer := by
  obtain ⟨irq, currentAddress, bytes, same⟩ := d.consumeByteParts
  rw [same]
  exact ⟨rfl, rfl⟩

theorem consumeByteSettings (d : Dmc) :
    d.consumeByte.loop = d.loop ∧ d.consumeByte.irqEnabled = d.irqEnabled ∧
      d.consumeByte.sampleLength = d.sampleLength := by
  obtain ⟨irq, currentAddress, bytes, same⟩ := d.consumeByteParts
  rw [same]
  exact ⟨rfl, rfl, rfl⟩

theorem consumeBitCounters (d : Dmc) :
    d.consumeBit.timer = d.timer ∧ d.consumeBit.bitTimer = d.bitTimer.clock ∧
      d.consumeBit.undivided = consumeByte^[d.bitTimer.due.toNat] d.undivided := by
  have due : d.bitTimer.due = true ↔ d.bits ≤ 1 := by
    simp only [bitTimer, Timer.due, beq_iff_eq]
    omega
  cases last : d.bitTimer.due with
  | true =>
    have ended : d.consumeBit = { d with bits := 8 }.consumeByte := if_pos (due.mp last)
    have full : d.bitTimer.clock = ⟨7, 7⟩ := if_pos last
    obtain ⟨timer, bits⟩ := consumeByteCounters { d with bits := 8 }
    rw [ended, full, consumeByteUndivided]
    exact ⟨timer, bits, rfl⟩
  | false =>
    have less : d.consumeBit = { d with bits := d.bits - 1 } :=
      if_neg fun one => Bool.false_ne_true (last.symm.trans (due.mpr one))
    have fewer : d.bitTimer.clock = ⟨7, d.bits - 1 - 1⟩ :=
      if_neg fun one => Bool.false_ne_true (last.symm.trans one)
    rw [less, fewer]
    exact ⟨rfl, rfl, rfl⟩

theorem clockTimerCounters (d : Dmc) :
    d.clockTimer.timer = d.timer.clock ∧
      d.clockTimer.bitTimer = Timer.clock^[d.timer.due.toNat] d.bitTimer ∧
      d.clockTimer.undivided =
        consumeByte^[(d.timer.due && d.bitTimer.due).toNat] d.undivided := by
  unfold clockTimer
  cases d.timer.due with
  | true => exact consumeBitCounters { d with timer := d.timer.clock }
  | false => exact ⟨rfl, rfl, rfl⟩

theorem clocksUndivided (d : Dmc) (n : Nat) :
    (clockTimer^[n] d).undivided = consumeByte^[d.bytesDue n] d.undivided := by
  induction n generalizing d with
  | zero => rfl
  | succ n ih =>
    obtain ⟨timer, bits, undivided⟩ := d.clockTimerCounters
    rw [Function.iterate_succ_apply, ih, bytesDue, bytesDue, timer, bits, undivided,
      Timer.expiriesSucc, ← Function.iterate_add_apply]
    cases d.timer.due with
    | true => rw [Bool.toNat_true, Timer.expiriesSucc, Bool.true_and]; rfl
    | false => rfl

section
variable (d : Dmc)

theorem bytesDueTotal (n : Nat) :
    d.bytesDue n =
      ((n + d.timer.period - d.timer.count) / (d.timer.period + 1) + 7 - (d.bits - 1)) / 8 := by
  rw [bytesDue, Timer.expiriesTotal, Timer.expiriesTotal]
  rfl

theorem firstDueBits :
    d.firstDue = d.timer.count + 1 + (d.timer.period + 1) * (d.bits - 1) := by
  have bits : max d.bits 1 - 1 = d.bits - 1 := by omega
  rw [firstDue, bits, Nat.mul_comm]

theorem bytesDueBefore {n : Nat} (before : n < d.firstDue) : d.bytesDue n = 0 := by
  have bits : (n + d.timer.period - d.timer.count) / (d.timer.period + 1) < d.bits - 1 + 1 := by
    rw [firstDueBits] at before
    apply Nat.div_lt_of_lt_mul
    rw [Nat.mul_succ]
    omega
  rw [bytesDueTotal]
  exact Nat.div_eq_of_lt (by omega)

theorem bytesDueFrom (j : Nat) :
    d.bytesDue (d.firstDue + j) = j / (8 * (d.timer.period + 1)) + 1 := by
  have cycles : d.firstDue + j + d.timer.period - d.timer.count =
      j + (d.timer.period + 1) * (d.bits - 1 + 1) := by
    rw [firstDueBits, Nat.mul_succ]
    omega
  have bits (k : Nat) : k + (d.bits - 1 + 1) + 7 - (d.bits - 1) = k + 8 := by omega
  rw [bytesDueTotal, cycles, Nat.add_mul_div_left _ _ (Nat.succ_pos _), bits,
    Nat.add_div_right _ (by decide), Nat.div_div_eq_div_mul, Nat.mul_comm]

theorem bytesDueBeyond (b n : Nat) :
    d.bytesDue n - (b + 1) =
      (n - (d.firstDue + 8 * (d.timer.period + 1) * b)) / (8 * (d.timer.period + 1)) := by
  rcases Nat.lt_or_ge n d.firstDue with before | first
  · rw [d.bytesDueBefore before, Nat.zero_sub, Nat.sub_eq_zero_of_le (by omega), Nat.zero_div]
  · obtain ⟨j, rfl⟩ := Nat.exists_eq_add_of_le first
    rw [bytesDueFrom, Nat.add_sub_add_right, Nat.add_sub_add_left, Nat.sub_mul_div]

theorem bytesDueReaches {b : Nat} (counted : 0 < b) (n : Nat) :
    b ≤ d.bytesDue n ↔ d.firstDue + 8 * (d.timer.period + 1) * (b - 1) ≤ n := by
  rcases Nat.lt_or_ge n d.firstDue with before | first
  · rw [d.bytesDueBefore before]
    omega
  · obtain ⟨j, rfl⟩ := Nat.exists_eq_add_of_le first
    have distance : 0 < 8 * (d.timer.period + 1) := by omega
    rw [bytesDueFrom, Nat.add_le_add_iff_left, Nat.mul_comm _ (b - 1),
      ← Nat.le_div_iff_mul_le distance]
    exact (Nat.sub_le_iff_le_add).symm

theorem bytesLeft (n : Nat) :
    d.bytes - d.bytesDue n =
      if n < d.firstDue then d.bytes
      else d.bytes - 1 - (n - d.firstDue) / (8 * (d.timer.period + 1)) := by
  split
  · rename_i before
    rw [d.bytesDueBefore before, Nat.sub_zero]
  · rename_i first
    obtain ⟨j, rfl⟩ := Nat.exists_eq_add_of_le (Nat.not_lt.mp first)
    rw [bytesDueFrom, Nat.add_sub_cancel_left, Nat.sub_sub, Nat.add_comm 1]

end

theorem consumeByteBytes (d : Dmc) :
    d.consumeByte.bytes =
      if d.loop = true ∧ d.bytes = 1 then d.sampleLength else d.bytes - 1 := by
  unfold consumeByte restart
  by_cases empty : d.bytes = 0
  · simp [empty]
  by_cases last : d.bytes = 1
  · cases d.loop <;> simp [last]
  · have more : d.bytes - 1 ≠ 0 := by omega
    simp [empty, last, more]

theorem consumesSettings (d : Dmc) (k : Nat) :
    (consumeByte^[k] d).loop = d.loop ∧ (consumeByte^[k] d).irqEnabled = d.irqEnabled ∧
      (consumeByte^[k] d).sampleLength = d.sampleLength := by
  induction k generalizing d with
  | zero => exact ⟨rfl, rfl, rfl⟩
  | succ k ih =>
    obtain ⟨loop, enabled, length⟩ := d.consumeByteSettings
    rw [← loop, ← enabled, ← length]
    exact ih d.consumeByte

theorem consumesOnce {d : Dmc} (once : d.loop = false) (some : 0 < d.bytes) (k : Nat) :
    (consumeByte^[k] d).bytes = d.bytes - k ∧
      ((consumeByte^[k] d).irq = true ↔ d.irq = true ∨ d.irqEnabled = true ∧ d.bytes ≤ k) := by
  induction k with
  | zero => exact ⟨rfl, (or_iff_left fun ends => by omega).symm⟩
  | succ k ih =>
    obtain ⟨bytes, irq⟩ := ih
    obtain ⟨loop, enabled, -⟩ := d.consumesSettings k
    have next : (consumeByte^[k + 1] d).bytes = d.bytes - (k + 1) := by
      rw [Function.iterate_succ_apply', consumeByteBytes, loop, once, bytes]
      simp only [Bool.false_eq_true, false_and, if_false]
      omega
    refine ⟨next, ?_⟩
    rw [Function.iterate_succ_apply'] at next ⊢
    rw [consumeByteIrq, Ends, next, irq, enabled, loop, bytes]
    simp only [once, true_and]
    -- Bytes that are due after the last one find nothing to end.
    constructor
    · rintro ((before | ⟨on, passed⟩) | ⟨on, left, empty⟩)
      · exact .inl before
      · exact .inr ⟨on, by omega⟩
      · exact .inr ⟨on, by omega⟩
    · rintro (before | ⟨on, passed⟩)
      · exact .inl (.inl before)
      · rcases Nat.lt_or_ge k d.bytes with last | passed
        · exact .inr ⟨on, by omega, by omega⟩
        · exact .inl (.inr ⟨on, passed⟩)

theorem consumesAgain {d : Dmc} (again : d.loop = true) (some : 0 < d.bytes)
    (sample : 0 < d.sampleLength) (k : Nat) :
    (consumeByte^[k] d).bytes =
        (if k < d.bytes then d.bytes - k
        else d.sampleLength - (k - d.bytes) % d.sampleLength) ∧
      (consumeByte^[k] d).irq = d.irq := by
  induction k with
  | zero => rw [if_pos some]; exact ⟨rfl, rfl⟩
  | succ k ih =>
    obtain ⟨bytes, irq⟩ := ih
    obtain ⟨loop, -, length⟩ := d.consumesSettings k
    rw [Function.iterate_succ_apply']
    constructor
    · rw [consumeByteBytes, loop, length]
      simp only [again, true_and]
      -- The byte is one before the last, the last, or one of a later round.
      rcases Nat.lt_trichotomy (k + 1) d.bytes with more | last | round
      · rw [if_pos (by omega)] at bytes
        rw [if_neg (by omega), if_pos more, bytes]
        exact Nat.sub_sub _ _ _
      · rw [if_pos (by omega)] at bytes
        rw [if_pos (by omega), if_neg (by omega), last, Nat.sub_self, Nat.zero_mod, Nat.sub_zero]
      · rw [if_neg (by omega)] at bytes
        have played : k + 1 - d.bytes = k - d.bytes + 1 := by omega
        have inside := Nat.mod_lt (k - d.bytes) sample
        rw [if_neg (Nat.lt_asymm round), played, ← Nat.mod_add_mod]
        split
        · have whole : (k - d.bytes) % d.sampleLength + 1 = d.sampleLength := by omega
          rw [whole, Nat.mod_self, Nat.sub_zero]
        · rw [Nat.mod_eq_of_lt (by omega), bytes]
          exact Nat.sub_sub _ _ _
    · rw [Bool.eq_iff_iff, consumeByteIrq, irq, Ends, loop, again]
      simp

theorem clockTimerSettings (d : Dmc) :
    d.clockTimer.timer.period = d.timer.period ∧ d.clockTimer.sampleLength = d.sampleLength := by
  obtain ⟨timer, -, undivided⟩ := d.clockTimerCounters
  refine ⟨timer ▸ d.timer.clockPeriod, ?_⟩
  exact (congrArg Dmc.sampleLength undivided).trans (d.undivided.consumesSettings _).2.2

def lengthOf (last : Option UInt8) : Nat :=
  last.elim 0 fun value => value.toNat * 16 + 1

def Lasting (d : Dmc) : Prop :=
  0 < d.bytes → 0 < d.sampleLength

theorem Lasting.consumeByte {d : Dmc} (lasting : d.Lasting) : d.consumeByte.Lasting := by
  intro some
  rw [consumeByteBytes] at some
  rw [d.consumeByteSettings.2.2]
  split at some
  · exact some
  · exact lasting (by omega)

theorem Lasting.clockTimer {d : Dmc} (lasting : d.Lasting) : d.clockTimer.Lasting := by
  have consumed (k : Nat) : (Dmc.consumeByte^[k] d.undivided).Lasting := by
    induction k with
    | zero => exact lasting
    | succ k ih => rw [Function.iterate_succ_apply']; exact ih.consumeByte
  have clocked : d.clockTimer.undivided.Lasting := by
    rw [d.clockTimerCounters.2.2]
    exact consumed _
  exact clocked

end Dmc

namespace Apu

def Operation.disturbsSample : Operation → Bool
  | write addr _ =>
    addr == 0x4010 || addr == 0x4011 || addr == 0x4012 || addr == 0x4013 || addr == 0x4015
  | readStatus | reset => true
  | tick _ | drain => false

theorem sampleClocked : Clocked (·.dmc) Dmc.clockTimer Operation.disturbsSample where
  cycle := cycleDmc
  write apu addr value quiet := by
    simp only [Operation.disturbsSample, Bool.or_eq_false_iff, beq_eq_false_iff_ne] at quiet
    obtain ⟨⟨⟨⟨control, level⟩, address⟩, length⟩, enable⟩ := quiet
    rw [writeDmc, Dmc.written, if_neg control, if_neg level, if_neg address, if_neg length,
      if_neg enable]
  readStatus _ quiet := by cases quiet
  drain _ := rfl
  reset := rfl

theorem writeSample (apu : Apu) (addr : UInt16) (value : UInt8) :
    (apu.write addr value).dmc.timer.period =
        (if addr = 0x4010 then Dmc.rates.getD (value.toNat % 16) 0 - 1
        else apu.dmc.timer.period) ∧
      (apu.write addr value).dmc.sampleLength =
        (if addr = 0x4013 then Dmc.lengthOf (some value) else apu.dmc.sampleLength) ∧
      (apu.dmc.Lasting → (apu.write addr value).dmc.Lasting) := by
  have enabled (d : Dmc) (on : Bool) :
      (d.enable on).timer.period = d.timer.period ∧
        (d.enable on).sampleLength = d.sampleLength ∧
        (d.Lasting → (d.enable on).Lasting) := by
    unfold Dmc.enable
    split
    · exact ⟨rfl, rfl, fun _ => nofun⟩
    · split
      · exact ⟨rfl, rfl, id⟩
      · exact ⟨rfl, rfl, fun _ => id⟩
  by_cases rate : addr = 0x4010
  · rw [rate]
    exact ⟨rfl, rfl, id⟩
  by_cases length : addr = 0x4013
  · rw [length]
    exact ⟨rfl, rfl, fun _ _ => Nat.succ_pos _⟩
  rw [writeDmc, Dmc.written, if_neg rate, if_neg rate, if_neg length, if_neg length]
  repeat' split
  all_goals first | exact ⟨rfl, rfl, id⟩ | exact enabled apu.dmc _

theorem bitRateSet : Setting (·.dmc.timer.period + 1) 0x4010
    fun last => Dmc.rates.getD ((last.getD 0).toNat % 16) 0 where
  powerOn _ := rfl
  write apu addr value := by
    have positive : ∀ i : Fin 16, Dmc.rates.getD i 0 - 1 + 1 = Dmc.rates.getD i 0 := by decide
    have entry := positive ⟨value.toNat % 16, Nat.mod_lt _ (by decide)⟩
    simp only [(apu.writeSample addr value).1]
    split
    · exact entry
    · rfl
  readStatus _ := rfl
  cycle apu := by simp only [cycleDmc, (Dmc.clockTimerSettings _).1]
  drain _ := rfl

theorem sampleLengthSet : Setting (·.dmc.sampleLength) 0x4013 Dmc.lengthOf where
  powerOn _ := rfl
  write apu addr value := (apu.writeSample addr value).2.1
  readStatus _ := rfl
  cycle apu := by simp only [cycleDmc, (Dmc.clockTimerSettings _).2]
  drain _ := rfl

theorem keptLasting : Kept (·.dmc.Lasting) where
  reset _ _ := nofun
  readStatus _ lasting := lasting
  write apu addr value := (apu.writeSample addr value).2.2
  tick apu cycles lasting := by
    have kept (now : Apu) (lasting : now.dmc.Lasting) : now.cycle.dmc.Lasting := by
      rw [cycleDmc]
      exact lasting.clockTimer
    exact tickHolds kept lasting cycles
  drain _ lasting := lasting

/-- A sample that is played once ends in the cycle in which its last byte is due, and there it
raises the interrupt, if it is enabled. One that is looped starts again there, never ends and
raises nothing. In between the bytes are used up at the rate that was selected last, whatever else
the program does, as long as it leaves the delta channel and the status alone. -/
theorem sampleDrains (clockHz : Float) (outputRate : Nat) (operations rest : List Operation)
    (quiet : ∀ operation ∈ rest, operation.disturbsSample = false)
    (active : ((new clockHz outputRate).performAll operations).dmc.active = true) :
    let apu := (new clockHz outputRate).performAll operations
    let d := apu.dmc
    let rate := Dmc.rates.getD (((lastWrite 0x4010 operations).getD 0).toNat % 16) 0
    let first := d.timer.count + 1 + (max d.bits 1 - 1) * rate
    let last := first + 8 * rate * (d.bytes - 1)
    let n := elapsed rest
    let left := if n < first then d.bytes else d.bytes - 1 - (n - first) / (8 * rate)
    let later := (apu.performAll rest).dmc
    (d.loop = false →
      later.bytes = left ∧ (later.active = false ↔ last ≤ n) ∧
        (later.irq = true ↔ d.irq = true ∨ d.irqEnabled = true ∧ last ≤ n)) ∧
    (d.loop = true →
      let length := Dmc.lengthOf (lastWrite 0x4013 operations)
      later.bytes = (if n < last then left else length - (n - last) / (8 * rate) % length) ∧
        later.active = true ∧ later.irq = d.irq) := by
  intro apu d rate first last n left later
  have some : 0 < d.bytes := Nat.pos_of_ne_zero (bne_iff_ne.mp active)
  have setting : d.timer.period + 1 = rate := bitRateSet.performAll clockHz outputRate operations
  have clocked : later.undivided = Dmc.consumeByte^[d.bytesDue n] d.undivided := by
    rw [← d.clocksUndivided]
    exact congrArg Dmc.undivided (sampleClocked.performAll apu quiet)
  have bytes := congrArg Dmc.bytes clocked
  have irq := congrArg Dmc.irq clocked
  have firstDue : d.firstDue = first := by rw [Dmc.firstDue, setting]
  have leftDue : d.bytes - d.bytesDue n = left := by rw [d.bytesLeft, firstDue, setting]
  have played : d.bytes ≤ d.bytesDue n ↔ last ≤ n := by
    rw [d.bytesDueReaches some, firstDue, setting]
  refine ⟨fun once => ?_, fun again => ?_⟩
  · obtain ⟨left', raised⟩ := @Dmc.consumesOnce d.undivided once some (d.bytesDue n)
    have now : later.bytes = d.bytes - d.bytesDue n := bytes.trans left'
    refine ⟨now.trans leftDue, ?_, ?_⟩
    · rw [Dmc.active, now, bne_eq_false_iff_eq, ← played]
      exact Nat.sub_eq_zero_iff_le
    · rw [← irq] at raised
      rw [← played]
      exact raised
  · intro length
    have lasting : d.Lasting :=
      @Kept.performAll _ keptLasting (new clockHz outputRate) nofun operations
    obtain ⟨left', same⟩ :=
      @Dmc.consumesAgain d.undivided again some (lasting some) (d.bytesDue n)
    have now : later.bytes = if d.bytesDue n < d.bytes then d.bytes - d.bytesDue n
        else d.sampleLength - (d.bytesDue n - d.bytes) % d.sampleLength := bytes.trans left'
    have set : d.sampleLength = length := sampleLengthSet.performAll clockHz outputRate operations
    have whole : d.bytes - 1 + 1 = d.bytes := Nat.sub_add_cancel some
    have round : d.bytesDue n - d.bytes = (n - last) / (8 * rate) := by
      rw [← whole, d.bytesDueBeyond, firstDue, setting]
    have sounding : later.active = true := by
      rw [Dmc.active, bne_iff_ne, now]
      have inside := Nat.mod_lt (d.bytesDue n - d.bytes) (lasting some)
      split <;> omega
    have before : d.bytesDue n < d.bytes ↔ n < last := by
      rw [← Nat.not_le, played, Nat.not_le]
    rw [leftDue, round, set] at now
    simp only [before] at now
    exact ⟨now, sounding, irq.trans same⟩

def shortSample : List Operation :=
  [.write 0x4010 0x8F, .write 0x4013 0x01, .write 0x4015 0x10]

theorem sampleDrainsShort :
    let apu := (new 1789773 44100).performAll shortSample
    let before := (apu.performAll [.tick 6480]).dmc
    let later := (apu.performAll [.tick 6480, .write 0x4000 0x3F, .tick 433]).dmc
    before.bytes = 2 ∧ later.active = false ∧ later.irq = true := by
  have started : ((new 1789773 44100).performAll shortSample).dmc.active = true := rfl
  have once : ((new 1789773 44100).performAll shortSample).dmc.loop = false := rfl
  obtain ⟨bytes, -, -⟩ :=
    (sampleDrains 1789773 44100 shortSample [.tick 6480] (by decide) started).1 once
  obtain ⟨-, ends, raised⟩ := (sampleDrains 1789773 44100 shortSample
    [.tick 6480, .write 0x4000 0x3F, .tick 433] (by decide) started).1 once
  exact ⟨bytes.trans (by decide +kernel), ends.mpr (by decide +kernel),
    raised.mpr (.inr ⟨rfl, by decide +kernel⟩)⟩

end Apu
end Nes
