import Mathlib.Order.Monotone.Basic
import Nes.Proofs.Apu.Beats
import Nes.Proofs.Apu.Bounds
import Nes.Proofs.Apu.FrameClocks

/-! Sweep units over many half frames. The divider paces the updates of the period, each update
bends the period one way, and a channel that has become silent by it stays as it is. -/
namespace Nes

namespace Sweep

def settings (s : Sweep) : Sweep :=
  { s with divider := 0, reload := false }

theorem afterSettings (s : Sweep) (n : Nat) : (s.after n).settings = s.settings := by
  unfold after
  split <;> rfl

theorem paceOut {s : Sweep} (out : s.divider = 0) : s.pace = ⟨s.period, 0⟩ := by
  rw [pace, if_pos out]

theorem afterOut {s : Sweep} (out : s.divider = 0) {n : Nat} (inside : n ≤ s.period) :
    s.after (n + 1) = { s with divider := s.period - n, reload := false } := by
  have past : ¬n + 1 ≤ 0 := Nat.not_succ_le_zero n
  rw [after, if_neg (Nat.succ_ne_zero n), paceOut out, Timer.left, if_neg past]
  simp only [Nat.sub_zero, Nat.add_sub_cancel, Nat.mod_eq_of_lt (Nat.lt_succ_of_le inside)]

end Sweep

namespace Pulse
variable (p : Pulse)

theorem sweepsSweep (n : Nat) : (clockSweep^[n] p).sweep = p.sweep.after n := by
  rw [sweepsAfter]

theorem sweepsSettings (n : Nat) : (clockSweep^[n] p).sweep.settings = p.sweep.settings := by
  rw [sweepsSweep, Sweep.afterSettings]

theorem sweepsNegation (n : Nat) : (clockSweep^[n] p).negation = p.negation := by
  rw [sweepsAfter]

-- Where an update is made, the period is large enough for what is taken from it.
theorem sweepingTarget {p : Pulse} (updates : p.sweeping = true) :
    (p.clockSweep.timer.period : Int) = p.sweep.target p.negation p.timer.period := by
  obtain ⟨-, -, shifted, sounds⟩ := p.sweepingIff.mp updates
  have long : 8 ≤ p.timer.period := by
    rw [← Bool.not_eq_true, mutedIff] at sounds
    omega
  have half : p.timer.period >>> p.sweep.shift ≤ p.timer.period / 2 := by
    obtain ⟨shift, more⟩ := Nat.exists_eq_succ_of_ne_zero shifted
    rw [more, Nat.shiftRight_succ]
    exact Nat.div_le_div_right (Nat.shiftRight_le _ _)
  have positive : 0 ≤ p.sweep.target p.negation p.timer.period := by
    unfold Sweep.target
    generalize p.timer.period >>> p.sweep.shift = delta at half
    cases p.sweep.negate with
    | false =>
      simp only [Bool.false_eq_true, if_false]
      omega
    | true => cases p.negation <;> simp only [if_true] <;> omega
  have moved : p.clockSweep.timer.period = p.target := if_pos updates
  rw [moved, targetSwept, Int.toNat_of_nonneg positive]

theorem bendsUp (upwards : p.sweep.negate = false) :
    p.timer.period ≤ p.clockSweep.timer.period := by
  change p.timer.period ≤ if p.sweeping then p.target else p.timer.period
  unfold target
  rw [upwards]
  split
  · exact Nat.le_add_right _ _
  · exact Nat.le_refl _

theorem bendsDown (downwards : p.sweep.negate = true) :
    p.clockSweep.timer.period ≤ p.timer.period := by
  change (if p.sweeping then p.target else p.timer.period) ≤ p.timer.period
  unfold target
  rw [downwards]
  split
  · cases p.negation <;> exact Nat.sub_le _ _
  · exact Nat.le_refl _

theorem sweepsInside {p : Pulse} (inside : p.timer.period ≤ maxPeriod) (n : Nat) :
    (clockSweep^[n] p).timer.period ≤ maxPeriod := by
  induction n with
  | zero => exact inside
  | succ n ih =>
    rw [Function.iterate_succ_apply']
    exact clockSweepInside ih

theorem mutedSame {p q : Pulse} (period : q.timer.period = p.timer.period)
    (negation : q.negation = p.negation) (settings : q.sweep.settings = p.sweep.settings) :
    q.muted = p.muted := by
  obtain ⟨-, -, negate, shift, -⟩ := Sweep.mk.inj settings
  unfold muted target
  rw [period, negation, negate, shift]

theorem clockSweepMuted {p : Pulse} (silent : p.muted = true) :
    p.clockSweep.timer.period = p.timer.period ∧ p.clockSweep.muted = true := by
  have idle : p.sweeping = false := by
    unfold sweeping
    rw [silent, Bool.not_true, Bool.and_false]
  have held : p.clockSweep.timer.period = p.timer.period := by
    unfold clockSweep
    rw [idle]
    rfl
  exact ⟨held, (mutedSame held rfl (p.sweepsSettings 1)).trans silent⟩

theorem sweepsMuted {p : Pulse} (silent : p.muted = true) (n : Nat) :
    (clockSweep^[n] p).timer.period = p.timer.period ∧ (clockSweep^[n] p).muted = true := by
  induction n with
  | zero => exact ⟨rfl, silent⟩
  | succ n ih =>
    obtain ⟨held, still⟩ := clockSweepMuted ih.2
    rw [Function.iterate_succ_apply']
    exact ⟨held.trans ih.1, still⟩

theorem sweepsPaced {p : Pulse} (updates : p.sweeping = true) :
    (∀ n < p.sweep.period, (clockSweep^[n + 1] p).sweeping = false) ∧
      (clockSweep^[p.sweep.period + 1] p).sweeping =
        !(clockSweep^[p.sweep.period + 1] p).muted := by
  obtain ⟨out, enabled, shifted, -⟩ := p.sweepingIff.mp updates
  constructor
  · intro n inside
    have counting : (clockSweep^[n + 1] p).sweep.divider ≠ 0 := by
      rw [sweepsSweep, Sweep.afterOut out (Nat.le_of_lt inside)]
      exact Nat.sub_ne_zero_of_lt inside
    rw [← Bool.not_eq_true, sweepingIff]
    exact fun again => counting again.1
  · have ready : (clockSweep^[p.sweep.period + 1] p).sweep =
        { p.sweep with divider := 0, reload := false } := by
      rw [sweepsSweep, Sweep.afterOut out (Nat.le_refl _), Nat.sub_self]
    rw [Bool.eq_iff_iff, sweepingIff, ready, Bool.not_eq_true']
    exact ⟨fun again => again.2.2.2, fun sounds => ⟨rfl, enabled, shifted, sounds⟩⟩

theorem sweepsApart {p : Pulse} {m n : Nat} (later : m < n)
    (first : (clockSweep^[m] p).sweeping = true) (second : (clockSweep^[n] p).sweeping = true)
    (between : ∀ k, m < k → k < n → (clockSweep^[k] p).sweeping = false) :
    n = m + p.sweep.period + 1 := by
  obtain ⟨-, period, -⟩ := Sweep.mk.inj (p.sweepsSettings m)
  obtain ⟨counting, again⟩ := sweepsPaced first
  rw [period] at counting again
  obtain ⟨d, rfl⟩ := Nat.exists_eq_add_of_lt later
  have after (k : Nat) : clockSweep^[k] (clockSweep^[m] p) = clockSweep^[m + k] p := by
    rw [Nat.add_comm, Function.iterate_add_apply]
  simp only [after] at counting again
  rcases Nat.lt_trichotomy d p.sweep.period with early | due | late
  · rw [Nat.add_assoc, counting d early] at second
    cases second
  · rw [due]
  · -- It was due in between and was left out, so the channel has been silent since then.
    have silent : (clockSweep^[m + (p.sweep.period + 1)] p).muted = true := by
      rw [between _ (by omega) (by omega)] at again
      simpa using again.symm
    have still := (sweepsMuted silent (d - p.sweep.period)).2
    rw [← Function.iterate_add_apply] at still
    have place : d - p.sweep.period + (m + (p.sweep.period + 1)) = m + d + 1 := by omega
    rw [place, (sweepingIff _ |>.mp second).2.2.2] at still
    cases still

def steered : Pulse where
  negation := p.negation
  sweep := p.sweep
  timer := p.timer.unphased

theorem steeredPeriod : p.steered.timer.period = p.timer.period :=
  rfl

theorem sweepsSteered (n : Nat) : (clockSweep^[n] p).steered = clockSweep^[n] p.steered := by
  have step : Function.Semiconj steered clockSweep clockSweep := fun _ => rfl
  exact step.iterate_right n p

end Pulse

namespace Apu

inductive SweepUnit where
  | pulse1
  | pulse2
  deriving DecidableEq, Repr

namespace SweepUnit

def registers : SweepUnit → List UInt16
  | pulse1 => [0x4001, 0x4002, 0x4003]
  | pulse2 => [0x4005, 0x4006, 0x4007]

def disturbedBy (unit : SweepUnit) : Operation → Bool
  | .write addr _ => unit.registers.contains addr
  | .reset => true
  | .readStatus | .tick _ | .drain => false

end SweepUnit

def swept (apu : Apu) : SweepUnit → Pulse
  | .pulse1 => apu.pulse1
  | .pulse2 => apu.pulse2

theorem writeSwept (apu : Apu) (unit : SweepUnit) {addr : UInt16} (value : UInt8)
    (sequencer : addr ≠ 0x4017) (quiet : unit.disturbedBy (.write addr value) = false) :
    ((apu.write addr value).swept unit).steered = (apu.swept unit).steered := by
  unfold write
  split
  case h_20 here => exact absurd (registerAt here) sequencer
  case h_21 => rfl
  all_goals
    rename_i here
    rw [registerAt here] at quiet
    cases unit
    all_goals first
      | rfl
      | cases quiet

theorem sweepPaced (unit : SweepUnit) :
    Paced (fun apu => (apu.swept unit).steered) Pulse.clockSweep Beat.isHalfFrame
      unit.disturbedBy where
  beat apu beat := by cases beat <;> cases unit <;> rfl
  timers apu := by
    obtain ⟨pulse1, pulse2⟩ := apu.timersPulses Pulse.steered fun p =>
      congrArg (fun timer => { p.steered with timer }) p.timer.clockUnphased
    cases unit with
    | pulse1 => exact pulse1
    | pulse2 => exact pulse2
  blind _ _ _ := by cases unit <;> rfl
  write apu _ value := apu.writeSwept unit value
  readStatus _ := by cases unit <;> rfl
  reset := rfl

def SweepUnit.negation : SweepUnit → Negation
  | pulse1 => .onesComplement
  | pulse2 => .twosComplement

theorem negationPaced (unit : SweepUnit) :
    Paced (fun apu => (apu.swept unit).negation) id Beat.isHalfFrame fun operation =>
      operation matches .reset where
  beat apu beat := by cases beat <;> cases unit <;> rfl
  timers apu := by
    obtain ⟨pulse1, pulse2⟩ := apu.timersPulses Pulse.negation fun _ => rfl
    cases unit with
    | pulse1 => exact pulse1
    | pulse2 => exact pulse2
  blind _ _ _ := by cases unit <;> rfl
  write apu addr value sequencer _ := by
    unfold write
    split
    case h_20 here => exact absurd (registerAt here) sequencer
    all_goals cases unit <;> rfl
  readStatus _ := by cases unit <;> rfl
  reset := rfl

theorem historyNegation (clockHz : Float) (sampleRate : Nat) (history : List Operation)
    (unit : SweepUnit) :
    (((new clockHz sampleRate).performAll history).swept unit).negation = unit.negation := by
  induction history using List.reverseRecOn with
  | nil => cases unit <;> rfl
  | append_singleton history operation ih =>
    rw [performAllConcat]
    cases again : (operation matches .reset : Bool) with
    | true =>
      cases operation with
      | reset => cases unit <;> rfl
      | write | readStatus | tick | drain => cases again
    | false =>
      have kept := (negationPaced unit).perform ((new clockHz sampleRate).performAll history) again
      rw [Function.iterate_id] at kept
      exact kept.trans ih

/-- As long as nothing is written to its registers, a sweep unit is a matter of the half frames that
have come. The period stays within its bits and moves one way only; a channel that is silent by its
period or by its target stays silent, at the same period. An update is made exactly where the
divider is out, the unit is enabled and has a shift and the channel is not silent, and it makes the
period the target. Updates are one half frame more apart than the period of the divider, and after
that time the next one is made unless the channel is silent. Of a unit's two channels it is the
first that takes one more from its period when it is bent downwards. -/
theorem sweepSteers (apu : Apu) (unit : SweepUnit) {operations : List Operation}
    (quiet : ∀ operation ∈ operations, unit.disturbedBy operation = false)
    (inside : (apu.swept unit).timer.period ≤ 0x7FF) :
    let start := apu.swept unit
    let sweep := start.sweep
    let p (n : Nat) := Pulse.clockSweep^[n] start
    let period (n : Nat) := (p n).timer.period
    let shifted (n : Nat) : Int := (period n >>> sweep.shift : Nat)
    let target (n : Nat) : Int :=
      if sweep.negate = false then period n + shifted n
      else if start.negation = .onesComplement then period n - shifted n - 1
      else period n - shifted n
    ((apu.performAll operations).swept unit).steered =
        (p (apu.halfFrames operations)).steered ∧
      (∀ n, period n ≤ 0x7FF) ∧
      (sweep.negate = false → Monotone period) ∧
      (sweep.negate = true → Antitone period) ∧
      (∀ n, (p n).muted = true ↔ period n < 8 ∨ 0x7FF < target n) ∧
      (∀ m n, m ≤ n → (p m).muted = true → period n = period m ∧ (p n).muted = true) ∧
      (∀ n, (p n).sweeping = true ↔ (p n).sweep.divider = 0 ∧ sweep.enabled = true ∧
        sweep.shift ≠ 0 ∧ (p n).muted = false) ∧
      (∀ n, (p n).sweeping = false → period (n + 1) = period n) ∧
      (∀ n, (p n).sweeping = true →
        (period (n + 1) : Int) = target n ∧
          let next := n + sweep.period + 1
          (p next).sweeping = !(p next).muted) ∧
      (∀ m n, m < n → (p m).sweeping = true → (p n).sweeping = true →
        (∀ k, m < k → k < n → (p k).sweeping = false) → n = m + sweep.period + 1) ∧
      ∀ clockHz sampleRate history,
        let unit := (new clockHz sampleRate).performAll history
        unit.pulse1.negation = .onesComplement ∧ unit.pulse2.negation = .twosComplement := by
  intro start sweep p period shifted target
  have succ (n : Nat) : p (n + 1) = (p n).clockSweep := Function.iterate_succ_apply' _ n start
  have settings (n : Nat) := Sweep.mk.inj (start.sweepsSettings n)
  have aims (n : Nat) : (p n).sweep.target (p n).negation (p n).timer.period = target n := by
    obtain ⟨-, -, negate, shift, -⟩ := settings n
    unfold Sweep.target
    rw [negate, shift, start.sweepsNegation n]
    unfold target sweep
    cases start.sweep.negate with
    | false => rfl
    | true => cases start.negation <;> rfl
  refine ⟨?_, Pulse.sweepsInside inside, fun upwards => ?_, fun downwards => ?_, fun n => ?_, ?_,
    fun n => ?_, ?_, ?_, ?_, ?_⟩
  · rw [Pulse.sweepsSteered]
    exact (sweepPaced unit).performAll apu quiet
  · refine monotone_nat_of_le_succ fun n => ?_
    have next := (p n).bendsUp ((settings n).2.2.1.trans upwards)
    rw [← succ] at next
    exact next
  · refine antitone_nat_of_succ_le fun n => ?_
    have next := (p n).bendsDown ((settings n).2.2.1.trans downwards)
    rw [← succ] at next
    exact next
  · rw [Pulse.mutedIff, aims]
  · intro m n later silent
    obtain ⟨d, rfl⟩ := Nat.exists_eq_add_of_le later
    have still := Pulse.sweepsMuted silent d
    rw [← Function.iterate_add_apply, Nat.add_comm] at still
    exact still
  · obtain ⟨enabled, -, -, shift, -⟩ := settings n
    rw [Pulse.sweepingIff, enabled, shift]
  · intro n idle
    have held : (p n).clockSweep.timer.period = (p n).timer.period := if_neg (by simp [idle])
    rw [← succ] at held
    exact held
  · intro n updates
    have bent := Pulse.sweepingTarget updates
    rw [← succ, aims] at bent
    have again := (Pulse.sweepsPaced updates).2
    rw [(settings n).2.1, ← Function.iterate_add_apply, Nat.add_comm, ← Nat.add_assoc] at again
    exact ⟨bent, again⟩
  · intro m n later first second between
    exact Pulse.sweepsApart later first second between
  · intro clockHz sampleRate history unit
    exact ⟨historyNegation clockHz sampleRate history .pulse1,
      historyNegation clockHz sampleRate history .pulse2⟩

theorem sweepSteersUpwards :
    let apu := standard.performAll [.write 0x4001 0x91, .write 0x4002 0x40]
    let operations := [.write 0x4017 0x80, .tick 2, .write 0x4017 0x80, .write 0x4017 0x80]
    let p (n : Nat) := Pulse.clockSweep^[n] apu.pulse1
    (∀ operation ∈ operations, SweepUnit.pulse1.disturbedBy operation = false) ∧
      apu.pulse1.timer.period = 64 ∧
      (apu.performAll operations).pulse1.timer.period = 144 ∧
      (p 0).sweeping = true ∧ (p 1).timer.period = 96 ∧ (p 2).sweeping = true := by
  have quiet : ∀ operation ∈ [Operation.write 0x4017 0x80, .tick 2, .write 0x4017 0x80,
      .write 0x4017 0x80], SweepUnit.pulse1.disturbedBy operation = false := by decide
  have inside : ((standard.performAll [.write 0x4001 0x91, .write 0x4002 0x40]).swept
      .pulse1).timer.period ≤ 0x7FF := by decide +kernel
  have updates : (standard.performAll [.write 0x4001 0x91, .write 0x4002 0x40]).pulse1.sweeping =
      true := by decide +kernel
  obtain ⟨run, -, -, -, -, -, -, -, bends, -⟩ :=
    sweepSteers (standard.performAll [.write 0x4001 0x91, .write 0x4002 0x40]) .pulse1 quiet inside
  obtain ⟨bent, again⟩ := bends 0 updates
  refine ⟨quiet, by decide +kernel, ?_, updates, ?_, again.trans (by decide +kernel)⟩
  · have final := congrArg (fun p : Pulse => p.timer.period) run
    rw [Pulse.steeredPeriod, Pulse.steeredPeriod] at final
    exact final.trans (by decide +kernel)
  · exact Int.ofNat_inj.mp (bent.trans (by decide +kernel))

end Apu
end Nes
