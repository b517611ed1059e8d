import Nes.Proofs.Apu.FrameClocks
import Nes.Proofs.Apu.SweepRun

/-! The pitch of the pulse channels and of the triangle. A wave goes one step on whenever its timer
runs out, so its place is a matter of the clocks that have come. The pulses are clocked in every
second cycle. The triangle is clocked in every cycle, and its counters can hold the wave but not the
timer. -/
namespace Nes

namespace Timer

theorem wholeRounds {t : Timer} (settled : t.count ≤ t.period) (k : Nat) :
    t.rounds (k * (t.period + 1)) = k ∧ t.left (k * (t.period + 1)) = t.count := by
  cases k with
  | zero => rw [Nat.zero_mul]; exact ⟨rfl, rfl⟩
  | succ k =>
    have past : ¬(k + 1) * (t.period + 1) ≤ t.count := by rw [Nat.succ_mul]; omega
    have since : (k + 1) * (t.period + 1) - t.count - 1 =
        t.period - t.count + k * (t.period + 1) := by
      rw [Nat.succ_mul]
      omega
    have inside : t.period - t.count < t.period + 1 := by omega
    rw [rounds, left, if_neg past, if_neg past, since, Nat.add_mul_div_right _ _ (Nat.succ_pos _),
      Nat.add_mul_mod_self_right, Nat.div_eq_of_lt inside, Nat.mod_eq_of_lt inside]
    omega

end Timer

structure Phase where
  timer : Timer
  step : Nat
  deriving DecidableEq, Repr

namespace Phase

def clock (size : Nat) (phase : Phase) (running : Bool) : Phase where
  timer := phase.timer.clock
  step := if phase.timer.due && running then (phase.step + 1) % size else phase.step

def clockAll (size : Nat) (phase : Phase) (runs : List Bool) : Phase :=
  runs.foldl (clock size) phase

variable {size : Nat} (phase : Phase)

theorem clockAllTimer (runs : List Bool) :
    (phase.clockAll size runs).timer = Timer.clock^[runs.length] phase.timer := by
  induction runs generalizing phase with
  | nil => rfl
  | cons running rest ih => exact ih (phase.clock size running)

theorem clockAllRunning {phase : Phase} (inside : phase.step < size) (n : Nat) :
    (phase.clockAll size (List.replicate n true)).step =
      (phase.step + phase.timer.expiries n) % size := by
  induction n generalizing phase with
  | zero => exact (Nat.mod_eq_of_lt inside).symm
  | succ n ih =>
    have first : phase.clockAll size (List.replicate (n + 1) true) =
        (phase.clock size true).clockAll size (List.replicate n true) := rfl
    have next : (phase.clock size true).step = (phase.step + phase.timer.due.toNat) % size := by
      unfold clock
      cases phase.timer.due with
      | true => rfl
      | false => exact (Nat.mod_eq_of_lt inside).symm
    have within : (phase.clock size true).step < size :=
      next ▸ Nat.mod_lt _ (Nat.zero_lt_of_lt inside)
    rw [first, ih within, next, Nat.mod_add_mod, Timer.expiriesSucc, Nat.add_assoc,
      Nat.add_comm phase.timer.due.toNat]
    rfl

theorem clockAllPlace {phase : Phase} (inside : phase.step < size) (n : Nat) :
    phase.clockAll size (List.replicate n true) =
      ⟨{ phase.timer with count := phase.timer.left n },
        (phase.step + phase.timer.rounds n) % size⟩ := by
  have timer : (phase.clockAll size (List.replicate n true)).timer =
      Timer.clock^[(List.replicate n true).length] phase.timer := phase.clockAllTimer _
  rw [List.length_replicate, Timer.clocksLeft] at timer
  have step := clockAllRunning inside n
  rw [Timer.expiriesRounds] at step
  exact congrArg₂ Phase.mk timer step

theorem clockOften (comes : List Bool) :
    comes.foldl (fun phase comes => if comes then phase.clock size true else phase) phase =
      phase.clockAll size (List.replicate (comes.count true) true) := by
  induction comes generalizing phase with
  | nil => rfl
  | cons first rest ih =>
    rw [List.foldl_cons, ih]
    cases first with
    | true => rw [List.count_cons_self]; rfl
    | false => rw [List.count_cons_of_ne (by decide)]; rfl

theorem clockAllHeld (n : Nat) :
    (phase.clockAll size (List.replicate n false)).step = phase.step := by
  induction n generalizing phase with
  | zero => rfl
  | succ n ih =>
    have held : (phase.clock size false).step = phase.step :=
      if_neg (by rw [Bool.and_false]; exact Bool.false_ne_true)
    exact (ih (phase.clock size false)).trans held

end Phase

def Pulse.phase (p : Pulse) : Phase :=
  ⟨p.timer, p.step⟩

def Triangle.phase (t : Triangle) : Phase :=
  ⟨t.timer, t.step⟩

theorem Pulse.clockTimerPhase (p : Pulse) : p.clockTimer.phase = p.phase.clock 8 true := by
  unfold clockTimer phase Phase.clock
  simp only [Bool.and_true]

theorem Triangle.runningIff (t : Triangle) :
    t.running = true ↔ t.length.value ≠ 0 ∧ t.linear ≠ 0 := by
  unfold running LengthCounter.active
  simp only [Bool.and_eq_true, bne_iff_ne]

theorem Pulse.clockSweepPhase {p : Pulse} (rests : p.sweeping = false) :
    p.clockSweep.phase = p.phase := by
  unfold clockSweep
  rw [rests]
  rfl

namespace Apu

def cycleStarts (apu : Apu) : Nat → List Apu
  | 0 => []
  | n + 1 => apu :: apu.cycle.cycleStarts n

def starts (apu : Apu) : List Operation → List Apu
  | [] => []
  | operation :: rest => apu.cycleStarts operation.cycles ++ (apu.perform operation).starts rest

theorem cycleStartsLength (apu : Apu) (n : Nat) : (apu.cycleStarts n).length = n := by
  induction n generalizing apu with
  | zero => rfl
  | succ n ih => exact congrArg (· + 1) (ih apu.cycle)

theorem startsLength (apu : Apu) (operations : List Operation) :
    (apu.starts operations).length = elapsed operations := by
  induction operations generalizing apu with
  | nil => rfl
  | cons operation rest ih => rw [starts, List.length_append, cycleStartsLength, ih, elapsed]

-- A part of the unit that every cycle moves on by what it finds in the unit, as long as what it
-- finds does not forbid it.
structure Driven {α β : Type} (part : Apu → α) (move : α → β → α) (drive : Apu → β)
    (free : Apu → Prop) : Prop where
  cycle : ∀ apu, free apu → part apu.cycle = move (part apu) (drive apu)
  readStatus : ∀ apu, part apu.readStatus.2 = part apu
  drain : ∀ apu, part apu.drain.2 = part apu

namespace Driven
variable {α β : Type} {part : Apu → α} {move : α → β → α} {drive : Apu → β} {free : Apu → Prop}
  (driven : Driven part move drive free)
include driven

theorem tick (apu : Apu) (n : Nat) (goes : ∀ now ∈ apu.cycleStarts n, free now) :
    part (apu.tick n) = ((apu.cycleStarts n).map drive).foldl move (part apu) := by
  induction n generalizing apu with
  | zero => rfl
  | succ n ih =>
    obtain ⟨now, later⟩ := List.forall_mem_cons.mp goes
    rw [cycleStarts, List.map_cons, List.foldl_cons, ← driven.cycle apu now]
    exact ih apu.cycle later

theorem perform (apu : Apu) {operation : Operation} (quiet : operation.quiet = true)
    (goes : ∀ now ∈ apu.cycleStarts operation.cycles, free now) :
    part (apu.perform operation) =
      ((apu.cycleStarts operation.cycles).map drive).foldl move (part apu) := by
  cases operation with
  | tick cycles => exact driven.tick apu cycles goes
  | readStatus => exact driven.readStatus apu
  | drain => exact driven.drain apu
  | write | reset => cases quiet

theorem performAll (apu : Apu) {operations : List Operation}
    (quiet : ∀ operation ∈ operations, operation.quiet = true)
    (goes : ∀ now ∈ apu.starts operations, free now) :
    part (apu.performAll operations) =
      ((apu.starts operations).map drive).foldl move (part apu) := by
  induction operations generalizing apu with
  | nil => rfl
  | cons operation rest ih =>
    obtain ⟨first, others⟩ := List.forall_mem_cons.mp quiet
    obtain ⟨now, later⟩ := List.forall_mem_append.mp goes
    rw [starts, List.map_append, List.foldl_append, ← driven.perform apu first now]
    exact ih (apu.perform operation) others later

end Driven

theorem beatOdd (apu : Apu) (beat : Beat) : (apu.beat beat).oddCycle = apu.oddCycle := by
  cases beat <;> rfl

theorem cycleOdd (apu : Apu) : apu.cycle.oddCycle = !apu.oddCycle :=
  (cyclePart Apu.oddCycle (fun _ _ => rfl) apu).trans (congrArg not (beatOdd _ _))

theorem cycleStartsOdd (apu : Apu) (n : Nat) :
    (apu.cycleStarts n).countP (·.oddCycle) = (n + apu.oddCycle.toNat) / 2 ∧
      (apu.tick n).oddCycle.toNat = (n + apu.oddCycle.toNat) % 2 := by
  induction n generalizing apu with
  | zero => cases odd : apu.oddCycle <;> exact ⟨rfl, by simp [Apu.tick, odd]⟩
  | succ n ih =>
    obtain ⟨clocks, last⟩ := ih apu.cycle
    rw [cycleStarts, List.countP_cons, clocks, Apu.tick, last, cycleOdd]
    cases apu.oddCycle with
    | true => simp; omega
    | false => simp

theorem startsOdd (apu : Apu) {operations : List Operation}
    (quiet : ∀ operation ∈ operations, operation.quiet = true) :
    (apu.starts operations).countP (·.oddCycle) = (elapsed operations + apu.oddCycle.toNat) / 2 := by
  induction operations generalizing apu with
  | nil => cases odd : apu.oddCycle <;> rfl
  | cons operation rest ih =>
    obtain ⟨first, others⟩ := List.forall_mem_cons.mp quiet
    have clocks := (apu.cycleStartsOdd operation.cycles).1
    have last : (apu.perform operation).oddCycle.toNat =
        (operation.cycles + apu.oddCycle.toNat) % 2 := by
      cases operation with
      | tick cycles => exact (apu.cycleStartsOdd cycles).2
      | readStatus | drain =>
        change apu.oddCycle.toNat = (0 + apu.oddCycle.toNat) % 2
        cases apu.oddCycle <;> rfl
      | write | reset => cases first
    rw [starts, List.countP_append, clocks, ih _ others, last, elapsed]
    omega

def sweeps (apu : Apu) (unit : SweepUnit) : Bool :=
  apu.frame.clock.1.isHalfFrame && (apu.swept unit).sweeping

theorem beatPulse {apu : Apu} {unit : SweepUnit} {beat : Beat}
    (rests : (beat.isHalfFrame && (apu.swept unit).sweeping) = false) :
    ((apu.beat beat).swept unit).phase = (apu.swept unit).phase := by
  cases beat with
  | rest => rfl
  | quarter => cases unit <;> rfl
  | half =>
    have swept : ((apu.beat .half).swept unit).phase = (apu.swept unit).clockSweep.phase := by
      cases unit <;> rfl
    exact swept.trans (Pulse.clockSweepPhase rests)

theorem pulseDriven (unit : SweepUnit) :
    Driven (fun apu => (apu.swept unit).phase)
      (fun phase odd => if odd then phase.clock 8 true else phase) (·.oddCycle)
      fun apu => apu.sweeps unit = false where
  cycle apu rests := by
    have framed : (apu.clockFrame.swept unit).phase = (apu.swept unit).phase :=
      @beatPulse { apu with frame := apu.frame.clock.2 } unit _ (by cases unit <;> exact rests)
    have clocked : (apu.clockFrame.clockTimers.swept unit).phase =
        if apu.clockFrame.oddCycle then (apu.clockFrame.swept unit).clockTimer.phase
        else (apu.clockFrame.swept unit).phase := by
      unfold clockTimers
      cases unit <;> simp only [swept] <;> split <;> rfl
    have odd : apu.clockFrame.oddCycle = apu.oddCycle := beatOdd _ _
    refine (cyclePart (fun apu => (apu.swept unit).phase) (fun _ _ => ?_) apu).trans ?_
    · cases unit <;> rfl
    · rw [clocked, Pulse.clockTimerPhase, framed, odd]
  readStatus _ := by cases unit <;> rfl
  drain _ := by cases unit <;> rfl

theorem Within.sweptStep {apu : Apu} (within : apu.Within) (unit : SweepUnit) :
    (apu.swept unit).step < 8 := by
  cases unit with
  | pulse1 => exact within.pulse1.step
  | pulse2 => exact within.pulse2.step

theorem pulsePlace {apu : Apu} {unit : SweepUnit} (inside : (apu.swept unit).step < 8)
    {operations : List Operation} (quiet : ∀ operation ∈ operations, operation.quiet = true)
    (rests : ∀ now ∈ apu.starts operations, now.sweeps unit = false) :
    let p := apu.swept unit
    let clocks := (apu.starts operations).countP (·.oddCycle)
    ((apu.performAll operations).swept unit).phase =
      ⟨{ p.timer with count := p.timer.left clocks }, (p.step + p.timer.rounds clocks) % 8⟩ := by
  intro p clocks
  have driven := (pulseDriven unit).performAll apu quiet rests
  have comes : ((apu.starts operations).map (·.oddCycle)).count true = clocks := by
    rw [List.count, List.countP_map]
    exact List.countP_congr fun now _ => by simp
  rw [Phase.clockOften, comes] at driven
  exact driven.trans (Phase.clockAllPlace inside clocks)

theorem beatTriangle (apu : Apu) (beat : Beat) :
    (apu.beat beat).triangle.phase = apu.triangle.phase := by
  cases beat <;> rfl

theorem triangleDriven :
    Driven (·.triangle.phase) (Phase.clock 32) (·.clockFrame.triangle.running) fun _ => True where
  cycle apu _ :=
    (cyclePart (·.triangle.phase) (fun _ _ => rfl) apu).trans
      (congrArg (Phase.clock 32 · _) (beatTriangle _ _))
  readStatus _ := rfl
  drain _ := rfl

theorem triangleClocked (apu : Apu) {operations : List Operation}
    (quiet : ∀ operation ∈ operations, operation.quiet = true) :
    (apu.performAll operations).triangle.phase =
      apu.triangle.phase.clockAll 32
        ((apu.starts operations).map (·.clockFrame.triangle.running)) :=
  triangleDriven.performAll apu quiet fun _ _ => trivial

theorem triangleRow {apu : Apu} {operations : List Operation} {on : Bool}
    (same : ∀ now ∈ apu.starts operations, now.clockFrame.triangle.running = on) :
    (apu.starts operations).map (·.clockFrame.triangle.running) =
      List.replicate (elapsed operations) on := by
  refine List.eq_replicate_iff.mpr ⟨(List.length_map _).trans (apu.startsLength operations), ?_⟩
  simpa using same

/-- In `n` cycles without a write, however they are dealt out, the pulses are clocked in every second
one, the first included if the parity flag is set. As long as its sweep unit does not update the
period, the wave of a pulse goes on by the rounds of its timer in these clocks, modulo 8; once the
count is within the period, one whole wave takes 16 cycles for each of the period + 1 counts. The
timer of the triangle is clocked in every cycle. While both its counters are above zero the wave
goes on by the rounds of the timer, modulo 32, and while one of them is zero it stands. -/
theorem wavePitch (clockHz : Float) (sampleRate : Nat) (operations rest : List Operation)
    (quiet : ∀ operation ∈ rest, operation.quiet = true) :
    let apu := (new clockHz sampleRate).performAll operations
    let later := apu.performAll rest
    let starts := apu.starts rest
    let n := elapsed rest
    let clocks := if apu.oddCycle then (n + 1) / 2 else n / 2
    (starts.length = n ∧ starts.countP (·.oddCycle) = clocks) ∧
      (∀ unit, (∀ now ∈ starts, now.sweeps unit = false) →
        let p := apu.swept unit
        let p' := later.swept unit
        p'.timer = { p.timer with count := p.timer.left clocks } ∧
          p'.step = (p.step + p.timer.rounds clocks) % 8 ∧
          (p.timer.count ≤ p.timer.period → n = 16 * (p.timer.period + 1) →
            p.timer.rounds clocks = 8 ∧ p'.timer = p.timer ∧ p'.step = p.step)) ∧
      let t := apu.triangle
      let t' := later.triangle
      t'.timer = { t.timer with count := t.timer.left n } ∧
        ((∀ now ∈ starts,
            now.clockFrame.triangle.length.value ≠ 0 ∧ now.clockFrame.triangle.linear ≠ 0) →
          t'.step = (t.step + t.timer.rounds n) % 32) ∧
        ((∀ now ∈ starts,
            now.clockFrame.triangle.length.value = 0 ∨ now.clockFrame.triangle.linear = 0) →
          t'.step = t.step) := by
  intro apu later starts n clocks
  have within : apu.Within := performAllWithin clockHz sampleRate operations
  have often : starts.countP (·.oddCycle) = clocks := by
    have odd : clocks = (n + apu.oddCycle.toNat) / 2 := by
      unfold clocks
      cases apu.oddCycle <;> rfl
    exact (apu.startsOdd quiet).trans odd.symm
  refine ⟨⟨apu.startsLength rest, often⟩, ?_, ?_⟩
  · intro unit rests p p'
    have inside : p.step < 8 := within.sweptStep unit
    have place := pulsePlace inside quiet rests
    rw [often] at place
    obtain ⟨timer, step⟩ := Phase.mk.inj place
    refine ⟨timer, step, fun settled whole => ?_⟩
    have eight : clocks = 8 * (p.timer.period + 1) := by
      unfold clocks
      split <;> omega
    obtain ⟨rounds, left⟩ := Timer.wholeRounds settled 8
    rw [← eight] at rounds left
    refine ⟨rounds, ?_, ?_⟩
    · exact timer.trans (by rw [left])
    · exact step.trans (by rw [rounds, Nat.add_mod_right, Nat.mod_eq_of_lt inside])
  · intro t t'
    have clocked := apu.triangleClocked quiet
    refine ⟨?_, fun sounds => ?_, fun held => ?_⟩
    · have timer := congrArg Phase.timer clocked
      rw [Phase.clockAllTimer, List.length_map, apu.startsLength] at timer
      exact timer.trans (t.timer.clocksLeft n)
    · rw [triangleRow fun now inside => (Triangle.runningIff _).mpr (sounds now inside),
        Phase.clockAllPlace within.triangle.step] at clocked
      exact congrArg Phase.step clocked
    · have rests (now : Apu) (inside : now ∈ starts) : now.clockFrame.triangle.running = false := by
        rw [← Bool.not_eq_true, Triangle.runningIff, not_and_or, not_not, not_not]
        exact held now inside
      rw [triangleRow rests] at clocked
      exact (congrArg Phase.step clocked).trans (Phase.clockAllHeld _ n)

theorem wavePitchSounding :
    let operations := [Operation.write 0x4015 0x05, .write 0x4002 1, .write 0x4008 0xFF,
      .write 0x400A 2, .write 0x400B 0x08, .write 0x4017 0x80, .tick 3]
    let rest := [Operation.tick 5, .readStatus, .tick 27]
    let apu := (new 1789773 44100).performAll operations
    let later := apu.performAll rest
    let p := apu.swept .pulse1
    (∀ operation ∈ rest, operation.quiet = true) ∧
      (p.timer.count ≤ p.timer.period ∧ elapsed rest = 16 * (p.timer.period + 1)) ∧
      (∀ now ∈ apu.starts rest, now.sweeps .pulse1 = false) ∧
      (later.swept .pulse1).step = p.step ∧
      (∀ now ∈ apu.starts rest,
        now.clockFrame.triangle.length.value ≠ 0 ∧ now.clockFrame.triangle.linear ≠ 0) ∧
      apu.triangle.step = 1 ∧ later.triangle.step = 12 := by
  intro operations rest apu later p
  have quiet : ∀ operation ∈ rest, operation.quiet = true := by decide
  obtain ⟨-, pulses, -, sounds, -⟩ := wavePitch 1789773 44100 operations rest quiet
  have rests : ∀ now ∈ apu.starts rest, now.sweeps .pulse1 = false := by decide +kernel
  have counters : ∀ now ∈ apu.starts rest,
      now.clockFrame.triangle.length.value ≠ 0 ∧ now.clockFrame.triangle.linear ≠ 0 := by
    decide +kernel
  obtain ⟨-, -, wave⟩ := pulses .pulse1 rests
  obtain ⟨-, -, step⟩ := wave (by decide +kernel) (by decide +kernel)
  exact ⟨quiet, by decide +kernel, rests, step, counters, by decide +kernel,
    (sounds counters).trans (by decide +kernel)⟩

end Apu

end Nes
