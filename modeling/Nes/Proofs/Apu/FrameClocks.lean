import Mathlib.Logic.Function.Iterate
import Nes.Proofs.Apu.Timers

/-! What the units of a channel have come to after so many clocks of the frame sequencer: envelopes
and the linear counter after quarter frames, length counters and sweep units after half frames. The
dividers of envelopes and sweep units run out at the distances of a timer. -/
namespace Nes

namespace Timer

-- The count that stands is used up first, and then one period after another.
def rounds (t : Timer) (n : Nat) : Nat :=
  if n ≤ t.count then 0 else 1 + (n - t.count - 1) / (t.period + 1)

def left (t : Timer) (n : Nat) : Nat :=
  if n ≤ t.count then t.count - n else t.period - (n - t.count - 1) % (t.period + 1)

theorem expiriesRounds (t : Timer) (n : Nat) : t.expiries n = t.rounds n := by
  rw [expiriesTotal, rounds]
  split
  · exact Nat.div_eq_of_lt (by omega)
  · have first : n + t.period - t.count = n - t.count - 1 + (t.period + 1) := by omega
    rw [first, Nat.add_div_right _ (Nat.succ_pos _), Nat.add_comm]

theorem roundsSucc (t : Timer) (n : Nat) :
    t.rounds (n + 1) = t.clock.rounds n + t.due.toNat := by
  rw [← expiriesRounds, expiriesSucc, expiriesRounds]

theorem leftZero (t : Timer) : t.left 0 = t.count :=
  if_pos (Nat.zero_le _)

theorem leftSucc (t : Timer) (n : Nat) : t.left (n + 1) = t.clock.left n := by
  unfold left
  rw [clockPeriod, clockCount]
  rcases Nat.eq_zero_or_pos t.count with out | counting
  · have past : ¬n + 1 ≤ t.count := by omega
    have same : n + 1 - t.count - 1 = n := by omega
    rw [if_pos out, if_neg past, same]
    split
    · next inside => rw [Nat.mod_eq_of_lt (Nat.lt_succ_of_le inside)]
    · next beyond =>
      rw [Nat.mod_eq_sub_mod (Nat.lt_of_not_le beyond), Nat.sub_sub]
  · have same : n - (t.count - 1) - 1 = n + 1 - t.count - 1 := by omega
    rw [if_neg (Nat.ne_of_gt counting), same]
    split <;> split <;> omega

theorem clocksLeft (t : Timer) (n : Nat) : clock^[n] t = { t with count := t.left n } := by
  induction n generalizing t with
  | zero => rw [leftZero]; rfl
  | succ n ih => rw [Function.iterate_succ_apply, ih, clockPeriod, leftSucc]

theorem roundsFull (period n : Nat) : rounds ⟨period, period⟩ n = n / (period + 1) := by
  unfold rounds
  split
  · next inside => exact (Nat.div_eq_of_lt (Nat.lt_succ_of_le inside)).symm
  · next beyond =>
    obtain ⟨rest, rfl⟩ := Nat.exists_eq_add_of_lt (Nat.lt_of_not_le beyond)
    have whole : period + rest + 1 - period - 1 = rest := by omega
    have split : period + rest + 1 = rest + (period + 1) := by omega
    rw [whole, split, Nat.add_div_right _ (Nat.succ_pos _), Nat.add_comm]

end Timer

namespace Envelope

def fallen (looping : Bool) (level steps : Nat) : Nat :=
  if steps ≤ level then level - steps
  else if looping then 15 - (steps - level - 1) % 16
  else 0

def pace (e : Envelope) : Timer :=
  ⟨e.volume, e.divider⟩

def counted (e : Envelope) (n : Nat) : Envelope :=
  { e with divider := e.pace.left n, decay := fallen e.looping e.decay (e.pace.rounds n) }

-- The clock after a restart is spent on it: it fills the divider and the level.
def after (e : Envelope) : Nat → Envelope
  | 0 => e
  | n + 1 =>
    if e.start then counted { e with start := false, divider := e.volume, decay := 15 } n
    else e.counted (n + 1)

theorem fallenZero (looping : Bool) (level : Nat) : fallen looping level 0 = level :=
  if_pos (Nat.zero_le _)

theorem fallenSucc (looping : Bool) (level n : Nat) :
    fallen looping (fallen looping level 1) n = fallen looping level (n + 1) := by
  unfold fallen
  cases looping with
  | true =>
    simp only [if_true]
    grind
  | false =>
    simp only [Bool.false_eq_true, if_false]
    grind

theorem paceCounted (e : Envelope) : (e.counted 1).pace = e.pace.clock := by
  have clocked := e.pace.clocksLeft 1
  exact clocked.symm

theorem clockCounted {e : Envelope} (going : e.start = false) : e.clock = e.counted 1 := by
  obtain ⟨start, looping, constant, volume, divider, decay⟩ := e
  cases going
  cases divider with
  | succ rest => simp [clock, counted, pace, Timer.left, Timer.rounds, fallen]
  | zero =>
    cases decay with
    | succ level => simp [clock, counted, pace, Timer.left, Timer.rounds, fallen]
    | zero => cases looping <;> simp [clock, counted, pace, Timer.left, Timer.rounds, fallen]

theorem countedSucc (e : Envelope) (n : Nat) : (e.counted 1).counted n = e.counted (n + 1) := by
  have due : e.pace.rounds 1 = e.pace.due.toNat := by
    rw [Timer.roundsSucc]
    exact Nat.zero_add _
  have left : (e.counted 1).pace.left n = e.pace.left (n + 1) := by
    rw [paceCounted, Timer.leftSucc]
  have level : fallen e.looping (fallen e.looping e.decay (e.pace.rounds 1))
      ((e.counted 1).pace.rounds n) = fallen e.looping e.decay (e.pace.rounds (n + 1)) := by
    rw [paceCounted, due, Timer.roundsSucc]
    cases e.pace.due with
    | true => exact fallenSucc _ _ _
    | false => rw [Bool.toNat_false, fallenZero, Nat.add_zero]
  exact congrArg₂ (fun divider decay => { e with divider, decay }) left level

theorem clocksCounted {e : Envelope} (going : e.start = false) (n : Nat) :
    clock^[n] e = e.counted n := by
  induction n generalizing e with
  | zero =>
    rw [counted, Timer.leftZero, show e.pace.rounds 0 = 0 from if_pos (Nat.zero_le _), fallenZero]
    rfl
  | succ n ih =>
    have next : (e.counted 1).start = false := going
    rw [Function.iterate_succ_apply, clockCounted going, ih next, countedSucc]

theorem clocksAfter (e : Envelope) (n : Nat) : clock^[n] e = e.after n := by
  cases n with
  | zero => rfl
  | succ n =>
    unfold after
    cases starts : e.start with
    | true =>
      have filled : e.clock = { e with start := false, divider := e.volume, decay := 15 } := by
        unfold clock
        rw [starts]
        rfl
      rw [Function.iterate_succ_apply, filled]
      exact clocksCounted rfl n
    | false => exact clocksCounted starts (n + 1)

end Envelope

namespace LengthCounter

def after (l : LengthCounter) (n : Nat) : LengthCounter :=
  { l with value := if l.halt then l.value else l.value - n }

theorem clocksAfter (l : LengthCounter) (n : Nat) : clock^[n] l = l.after n := by
  unfold after
  induction n with
  | zero => cases l; simp
  | succ n ih =>
    rw [Function.iterate_succ_apply', ih]
    unfold clock
    cases l.halt with
    | true => rfl
    | false => simp [Nat.sub_sub]

end LengthCounter

namespace Triangle

-- The clock of a reload is spent on it. Only the control flag keeps a reload up.
def linearAfter (t : Triangle) (n : Nat) : Triangle :=
  { t with
    linear :=
      if n = 0 ∨ t.linearReload = false then t.linear - n
      else if t.control then t.linearLoad
      else t.linearLoad - (n - 1)
    linearReload := t.linearReload && (n == 0 || t.control) }

theorem clocksLinear (t : Triangle) (n : Nat) : clockLinear^[n] t = t.linearAfter n := by
  unfold linearAfter
  induction n with
  | zero => cases t; simp
  | succ n ih =>
    rw [Function.iterate_succ_apply', ih]
    unfold clockLinear
    cases t.linearReload with
    | false => simp [Nat.sub_sub]
    | true => cases n <;> cases t.control <;> simp [Nat.sub_sub]

end Triangle

namespace Sweep

-- A divider that is to be reloaded is filled by the next clock, and is not out before.
def pace (s : Sweep) : Timer :=
  ⟨s.period, if s.divider = 0 then 0 else if s.reload then s.period + 1 else s.divider⟩

def after (s : Sweep) (n : Nat) : Sweep :=
  if n = 0 then s else { s with divider := s.pace.left n, reload := false }

theorem clockDividerPace (s : Sweep) :
    s.clockDivider = { s with divider := s.pace.clock.count, reload := false } := by
  obtain ⟨enabled, period, negate, shift, divider, reload⟩ := s
  cases divider with
  | zero => rfl
  | succ rest => cases reload <;> simp [clockDivider, pace, Timer.clock, Timer.due]

theorem paceClock (s : Sweep) : s.clockDivider.pace = s.pace.clock := by
  have kept : s.pace.clock.period = s.period := s.pace.clockPeriod
  have count : (if s.pace.clock.count = 0 then 0 else s.pace.clock.count) = s.pace.clock.count := by
    split <;> omega
  rw [clockDividerPace, pace]
  simp only [Bool.false_eq_true, if_false, count]
  exact congrArg (Timer.mk · _) kept.symm

theorem paceDue (s : Sweep) : s.pace.due = (s.divider == 0) := by
  unfold pace Timer.due
  cases s.divider with
  | zero => rfl
  | succ rest => cases s.reload <;> rfl

theorem clocksAfter (s : Sweep) (n : Nat) : clockDivider^[n] s = s.after n := by
  induction n generalizing s with
  | zero => rfl
  | succ n ih =>
    rw [Function.iterate_succ_apply, ih, after, after, paceClock, if_neg (Nat.succ_ne_zero n),
      Timer.leftSucc]
    split
    · next none => rw [none, Timer.leftZero, clockDividerPace]
    · rw [clockDividerPace]

def target (s : Sweep) (style : Negation) (period : Nat) : Int :=
  let delta : Int := (period >>> s.shift : Nat)
  if s.negate then
    match style with
    | .onesComplement => period - delta - 1
    | .twosComplement => period - delta
  else period + delta

def update (s : Sweep) (style : Negation) (period : Nat) : Nat :=
  if s.enabled = true ∧ s.shift ≠ 0 ∧ 8 ≤ period ∧ s.target style period ≤ 0x7FF then
    (s.target style period).toNat
  else period

theorem updateClock (s : Sweep) : s.clockDivider.update = s.update := by
  rw [clockDividerPace]
  rfl

end Sweep

namespace Pulse

theorem targetSwept (p : Pulse) :
    p.target = (p.sweep.target p.negation p.timer.period).toNat := by
  unfold target Sweep.target
  simp only
  generalize p.timer.period >>> p.sweep.shift = delta
  cases p.sweep.negate with
  | false =>
    simp only [Bool.false_eq_true, if_false]
    omega
  | true => cases p.negation <;> simp only [if_true] <;> omega

theorem mutedIff (p : Pulse) :
    p.muted = true ↔
      p.timer.period < 8 ∨ 0x7FF < p.sweep.target p.negation p.timer.period := by
  unfold muted maxPeriod
  rw [targetSwept, Bool.or_eq_true, decide_eq_true_iff, decide_eq_true_iff]
  exact or_congr_right (by omega)

theorem sweepingIff (p : Pulse) :
    p.sweeping = true ↔ p.sweep.divider = 0 ∧ p.sweep.enabled = true ∧ p.sweep.shift ≠ 0 ∧
      p.muted = false := by
  unfold sweeping
  simp only [Bool.and_eq_true, beq_iff_eq, bne_iff_ne, Bool.not_eq_true', and_assoc]

theorem clockSweepPeriod (p : Pulse) :
    p.clockSweep.timer.period =
      if p.sweep.divider = 0 then p.sweep.update p.negation p.timer.period
      else p.timer.period := by
  have sounds : p.muted = false ↔
      8 ≤ p.timer.period ∧ p.sweep.target p.negation p.timer.period ≤ 0x7FF := by
    rw [← Bool.not_eq_true, mutedIff, not_or, Nat.not_lt, Int.not_lt]
  change (if p.sweeping then p.target else p.timer.period) = _
  rw [targetSwept, Sweep.update]
  simp only [sweepingIff, sounds]
  by_cases out : p.sweep.divider = 0
  · rw [if_pos out]
    simp only [out, true_and]
  · rw [if_neg out, if_neg fun sweeps => out sweeps.1]

theorem sweepsAfter (p : Pulse) (n : Nat) :
    clockSweep^[n] p =
      { p with
        timer := { p.timer with
          period := (p.sweep.update p.negation)^[p.sweep.pace.rounds n] p.timer.period }
        sweep := p.sweep.after n } := by
  induction n generalizing p with
  | zero => rfl
  | succ n ih =>
    have sweep : p.clockSweep.sweep = p.sweep.clockDivider := rfl
    have later : p.sweep.clockDivider.after n = p.sweep.after (n + 1) := by
      rw [← Sweep.clocksAfter, ← Function.iterate_succ_apply, Sweep.clocksAfter]
    have period : (p.sweep.update p.negation)^[p.sweep.pace.rounds (n + 1)] p.timer.period =
        (p.sweep.update p.negation)^[p.sweep.pace.clock.rounds n] p.clockSweep.timer.period := by
      rw [Timer.roundsSucc, Function.iterate_add_apply, clockSweepPeriod, Sweep.paceDue]
      by_cases out : p.sweep.divider = 0
      · rw [if_pos out, out]
        rfl
      · rw [if_neg out, beq_eq_false_iff_ne.mpr out]
        rfl
    rw [Function.iterate_succ_apply, ih, sweep, later, Sweep.updateClock, Sweep.paceClock, period]
    rfl

end Pulse
end Nes
