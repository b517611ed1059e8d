import Nes.Proofs.Apu.FrameClocks
import Nes.Proofs.Apu.Operations

/-! The schedule of the frame sequencer. A write starts it, and from then on the beats come at
fixed cycles of a sequence that repeats, however the cycles are dealt out. -/
namespace Nes

structure Schedule where
  period : Nat
  quarters : List Nat
  halves : List Nat

namespace Schedule

def ofMode (fourStep : Bool) : Schedule :=
  if fourStep then ⟨29830, [7457, 14913, 22371, 29829], [14913, 29829]⟩
  else ⟨37282, [7457, 14913, 22371, 37281], [14913, 37281]⟩

def due (s : Schedule) (places : List Nat) (n : Nat) : Nat :=
  (List.range n).countP fun k => places.contains ((k + 1) % s.period)

theorem dueSucc (s : Schedule) (places : List Nat) (n : Nat) :
    s.due places (n + 1) = s.due places n + (places.contains ((n + 1) % s.period)).toNat := by
  unfold due
  rw [List.range_succ, List.countP_append, List.countP_singleton]
  cases places.contains ((n + 1) % s.period) <;> rfl

end Schedule

namespace Beat

def quarters : Beat → Nat
  | rest => 0
  | quarter | half => 1

def halves : Beat → Nat
  | rest | quarter => 0
  | half => 1

end Beat

theorem Schedule.nextPlace (fourStep : Bool) (n : Nat) :
    (n + 1) % (ofMode fourStep).period =
      if n % (ofMode fourStep).period + 1 < FrameSequencer.length fourStep
        then n % (ofMode fourStep).period + 1 else 0 := by
  have same : (ofMode fourStep).period = FrameSequencer.length fourStep := by
    cases fourStep <;> rfl
  have inside : n % FrameSequencer.length fourStep < FrameSequencer.length fourStep :=
    Nat.mod_lt n (by cases fourStep <;> decide)
  rw [same, ← Nat.mod_add_mod]
  split
  · rename_i next
    exact Nat.mod_eq_of_lt next
  · rename_i last
    have whole : n % FrameSequencer.length fourStep + 1 = FrameSequencer.length fourStep := by
      omega
    rw [whole, Nat.mod_self]

namespace FrameSequencer

def raises (f : FrameSequencer) : Bool :=
  f.fourStep && !f.irqInhibit && f.cycle + 1 == 29829

theorem clockIrq (f : FrameSequencer) : f.clock.2.irq = (f.irq || f.raises) := by
  unfold clock raises
  cases f.fourStep <;> rfl

theorem clockPlace (f : FrameSequencer) {n : Nat}
    (place : f.cycle = n % (Schedule.ofMode f.fourStep).period) :
    f.clock.2.cycle = (n + 1) % (Schedule.ofMode f.fourStep).period := by
  rw [Schedule.nextPlace, ← place]
  rfl

theorem beatScheduled (fourStep : Bool) (n : Nat) :
    let schedule := Schedule.ofMode fourStep
    let beat := beatAt fourStep (n % schedule.period + 1)
    beat.quarters = (schedule.quarters.contains ((n + 1) % schedule.period)).toNat ∧
      beat.halves = (schedule.halves.contains ((n + 1) % schedule.period)).toNat := by
  intro schedule beat
  rw [Schedule.nextPlace]
  unfold beat schedule beatAt lastBeat length
  generalize n % (Schedule.ofMode fourStep).period = place
  cases fourStep with
  | true =>
    simp only [Schedule.ofMode, if_true]
    grind [Beat.quarters, Beat.halves]
  | false =>
    simp only [Schedule.ofMode, Bool.false_eq_true, if_false]
    grind [Beat.quarters, Beat.halves]

end FrameSequencer

def Timer.unphased (t : Timer) : Timer :=
  { t with count := 0 }

theorem Timer.clockUnphased (t : Timer) : t.clock.unphased = t.unphased := by
  unfold clock
  split <;> rfl

def Pulse.after (p : Pulse) (quarters halves : Nat) : Pulse :=
  { p with
    envelope := p.envelope.after quarters
    length := p.length.after halves
    timer := { p.timer with
      period := (p.sweep.update p.negation)^[p.sweep.pace.rounds halves] p.timer.period }
    sweep := p.sweep.after halves }

namespace Apu

structure Channels where
  pulse1 : Pulse
  pulse2 : Pulse
  triangle : Triangle
  noise : Noise

def channels (apu : Apu) : Channels where
  pulse1 := { apu.pulse1 with timer := apu.pulse1.timer.unphased, step := 0 }
  pulse2 := { apu.pulse2 with timer := apu.pulse2.timer.unphased, step := 0 }
  triangle := { apu.triangle with timer := apu.triangle.timer.unphased, step := 0 }
  noise := { apu.noise with timer := apu.noise.timer.unphased, shift := 0 }

def lengths (apu : Apu) : List LengthCounter :=
  [apu.pulse1.length, apu.pulse2.length, apu.triangle.length, apu.noise.length]

def Channels.after (c : Channels) (quarters halves : Nat) : Channels where
  pulse1 := c.pulse1.after quarters halves
  pulse2 := c.pulse2.after quarters halves
  triangle := { c.triangle.linearAfter quarters with length := c.triangle.length.after halves }
  noise :=
    { c.noise with
      envelope := c.noise.envelope.after quarters
      length := c.noise.length.after halves }

def Channels.unit (c : Channels) : Apu where
  pulse1 := c.pulse1
  pulse2 := c.pulse2
  triangle := c.triangle
  noise := c.noise
  output := default

theorem beatChannels (apu : Apu) (beat : Beat) :
    (apu.beat beat).channels = (apu.channels.unit.beat beat).channels := by
  cases beat <;> rfl

theorem timersChannels (apu : Apu) : apu.clockTimers.channels = apu.channels := by
  obtain ⟨pulse1, pulse2⟩ :=
    apu.timersPulses (fun p => { p with timer := p.timer.unphased, step := 0 }) fun p => by
      simp only [Pulse.clockTimer, Timer.clockUnphased]
  unfold channels
  rw [pulse1, pulse2]
  simp only [clockTimers, Triangle.clockTimer, Noise.clockTimer, Timer.clockUnphased]

theorem cycleChannels (apu : Apu) :
    apu.cycle.channels = (apu.channels.unit.beat apu.frame.clock.1).channels := by
  rw [cyclePart channels fun _ _ => rfl, timersChannels]
  exact beatChannels { apu with frame := apu.frame.clock.2 } apu.frame.clock.1

def afterBeats (apu : Apu) (quarters halves : Nat) : Apu :=
  halfFrame^[halves] (quarterFrame^[quarters] apu)

theorem halfQuarter : Function.Commute halfFrame quarterFrame :=
  fun _ => rfl

theorem beatAfterBeats (apu : Apu) (quarters halves : Nat) (beat : Beat) :
    (apu.afterBeats quarters halves).beat beat =
      apu.afterBeats (quarters + beat.quarters) (halves + beat.halves) := by
  have quarter : (apu.afterBeats quarters halves).quarterFrame =
      apu.afterBeats (quarters + 1) halves := by
    unfold afterBeats
    rw [← (halfQuarter.iterate_left halves).eq, Function.iterate_succ_apply']
  cases beat with
  | rest => rfl
  | quarter => exact quarter
  | half =>
    rw [Apu.beat, quarter]
    exact (Function.iterate_succ_apply' halfFrame halves _).symm

theorem quarterFramesAfter (apu : Apu) (n : Nat) :
    quarterFrame^[n] apu =
      { apu with
        pulse1 := { apu.pulse1 with envelope := apu.pulse1.envelope.after n }
        pulse2 := { apu.pulse2 with envelope := apu.pulse2.envelope.after n }
        noise := { apu.noise with envelope := apu.noise.envelope.after n }
        triangle := apu.triangle.linearAfter n } := by
  simp only [← Envelope.clocksAfter, ← Triangle.clocksLinear]
  induction n with
  | zero => rfl
  | succ n ih =>
    simp only [Function.iterate_succ_apply', ih]
    rfl

theorem halfFramesAfter (apu : Apu) (n : Nat) :
    halfFrame^[n] apu =
      { apu with
        pulse1 := { Pulse.clockSweep^[n] apu.pulse1 with length := apu.pulse1.length.after n }
        pulse2 := { Pulse.clockSweep^[n] apu.pulse2 with length := apu.pulse2.length.after n }
        triangle := { apu.triangle with length := apu.triangle.length.after n }
        noise := { apu.noise with length := apu.noise.length.after n } } := by
  simp only [← LengthCounter.clocksAfter]
  induction n with
  | zero => rfl
  | succ n ih =>
    simp only [Function.iterate_succ_apply', ih]
    rfl

theorem channelsAfterBeats (apu : Apu) (quarters halves : Nat) :
    (apu.afterBeats quarters halves).channels = apu.channels.after quarters halves := by
  unfold afterBeats
  rw [quarterFramesAfter, halfFramesAfter]
  unfold channels
  simp only [Pulse.sweepsAfter]
  rfl

-- In the next cycle the sequencer raises its interrupt, be it raised already or not.
def RaisesFrame (apu : Apu) : Prop :=
  ({ apu with frame := { apu.frame with irq := false } } : Apu).cycle.frame.irq = true

theorem raisesFrame (apu : Apu) : apu.RaisesFrame ↔ apu.frame.raises = true := by
  unfold RaisesFrame
  rw [cycleFrame, FrameSequencer.clockIrq, Bool.false_or]
  rfl

structure Running (start : Apu) (fourStep inhibited : Bool) (n : Nat) (now : Apu) : Prop where
  mode : now.frame.fourStep = fourStep
  inhibited : now.frame.irqInhibit = inhibited
  place : now.frame.cycle = n % (Schedule.ofMode fourStep).period
  channels :
    let schedule := Schedule.ofMode fourStep
    now.channels = (start.afterBeats ((!fourStep).toNat + schedule.due schedule.quarters n)
      ((!fourStep).toNat + schedule.due schedule.halves n)).channels

namespace Running
variable {start now : Apu} {fourStep inhibited : Bool} {n : Nat}

theorem write (apu : Apu) (value : UInt8) :
    Running apu (!testBit value 7) (testBit value 6) 0 (apu.write 0x4017 value) := by
  have frame : (apu.write 0x4017 value).frame = (apu.frame.write value).2 := beatFrame _ _
  refine ⟨?_, ?_, ?_, ?_⟩
  · rw [frame]
    rfl
  · rw [frame]
    rfl
  · rw [frame]
    exact (Nat.zero_mod _).symm
  · change ({ apu with frame := (apu.frame.write value).2 }.beat
      (if !testBit value 7 then .rest else .half)).channels = _
    cases !testBit value 7 <;> rfl

theorem cycle (running : Running start fourStep inhibited n now) :
    Running start fourStep inhibited (n + 1) now.cycle := by
  obtain ⟨rfl, rfl, place, channels⟩ := running
  obtain ⟨quarters, halves⟩ := FrameSequencer.beatScheduled now.frame.fourStep n
  refine ⟨?_, ?_, ?_, ?_⟩
  · rw [cycleFrame]
    rfl
  · rw [cycleFrame]
    rfl
  · rw [cycleFrame]
    exact now.frame.clockPlace place
  · have beat : now.frame.clock.1 = FrameSequencer.beatAt now.frame.fourStep
        (n % (Schedule.ofMode now.frame.fourStep).period + 1) := by
      rw [← place]
      rfl
    intro schedule
    rw [cycleChannels, channels, ← beatChannels, beatAfterBeats, beat, quarters, halves,
      Schedule.dueSucc, Schedule.dueSucc, Nat.add_assoc, Nat.add_assoc]

theorem tick (running : Running start fourStep inhibited n now) (cycles : Nat) :
    Running start fourStep inhibited (n + cycles) (now.tick cycles) := by
  induction cycles with
  | zero => exact running
  | succ cycles ih =>
    rw [tickSucc]
    exact ih.cycle

theorem raises (running : Running start fourStep inhibited n now) :
    now.RaisesFrame ↔ fourStep = true ∧ inhibited = false ∧ (n + 1) % 29830 = 29829 := by
  obtain ⟨rfl, rfl, place, -⟩ := running
  rw [raisesFrame, FrameSequencer.raises, Bool.and_eq_true, Bool.and_eq_true, Bool.not_eq_true',
    beq_iff_eq, and_assoc]
  refine and_congr_right fun four => and_congr_right fun _ => ?_
  have period : (Schedule.ofMode now.frame.fourStep).period = 29830 := by
    rw [four]
    rfl
  rw [place, period]
  omega

end Running

def Operation.quiet : Operation → Bool
  | write .. | reset => false
  | readStatus | tick _ | drain => true

theorem Running.perform {start now : Apu} {fourStep inhibited : Bool} {n : Nat}
    (running : Running start fourStep inhibited n now) {operation : Operation}
    (quiet : operation.quiet = true) :
    Running start fourStep inhibited (n + operation.cycles) (now.perform operation) := by
  cases operation with
  | tick cycles => exact running.tick cycles
  | readStatus | drain => exact ⟨running.mode, running.inhibited, running.place, running.channels⟩
  | write | reset => cases quiet

theorem Running.performAll {start now : Apu} {fourStep inhibited : Bool}
    (running : Running start fourStep inhibited 0 now) {operations : List Operation}
    (quiet : ∀ operation ∈ operations, operation.quiet = true) :
    Running start fourStep inhibited (elapsed operations) (now.performAll operations) ∧
      (Since RaisesFrame (fun _ => false) now operations ↔
        fourStep = true ∧ inhibited = false ∧ 29829 ≤ elapsed operations) := by
  induction operations using List.reverseRecOn with
  | nil => exact ⟨running, iff_of_false (sinceNil _ _ _) (by simp [elapsed])⟩
  | append_singleton operations operation ih =>
    obtain ⟨before, last⟩ := List.forall_mem_append.mp quiet
    obtain ⟨before, raised⟩ := ih before
    have now := before.perform (last operation (List.mem_singleton_self _))
    rw [performAllConcat, elapsedConcat, sinceConcat, raised, and_iff_left rfl]
    refine ⟨now, ?_⟩
    constructor
    · rintro (⟨four, free, passed⟩ | ⟨k, inside, event⟩)
      · exact ⟨four, free, by omega⟩
      · obtain ⟨four, free, last⟩ := (before.tick k).raises.mp event
        exact ⟨four, free, by omega⟩
    · rintro ⟨four, free, passed⟩
      rcases Nat.lt_or_ge (elapsed operations) 29829 with less | passed
      · refine .inr ⟨29828 - elapsed operations, by omega, (before.tick _).raises.mpr ?_⟩
        exact ⟨four, free, by omega⟩
      · exact .inl ⟨four, free, passed⟩

/-- After a write the beats come once at each of their places, however the cycles are dealt out
and whatever is read meanwhile; the sequence of five begins with a half frame. Envelopes and the
linear counter are where so many quarter frames bring them, sweep units and length counters where
so many half frames do. The interrupt is raised exactly if the sequence is that of four, does not
inhibit it and has come to its last beat. -/
theorem frameSchedule (apu : Apu) (value : UInt8) (operations : List Operation)
    (quiet : ∀ operation ∈ operations, operation.quiet = true) :
    let fourStep := !testBit value 7
    let schedule := Schedule.ofMode fourStep
    let n := elapsed operations
    let quarters := (!fourStep).toNat + schedule.due schedule.quarters n
    let halves := (!fourStep).toNat + schedule.due schedule.halves n
    let written := apu.write 0x4017 value
    let final := written.performAll operations
    final.channels = apu.channels.after quarters halves ∧
      final.lengths = apu.lengths.map (fun l =>
        { l with value := if l.halt then l.value else l.value - halves }) ∧
      (Since RaisesFrame (fun _ => false) written operations ↔
        fourStep = true ∧ testBit value 6 = false ∧ 29829 ≤ n) := by
  intro fourStep schedule n quarters halves written final
  obtain ⟨ends, raised⟩ := (Running.write apu value).performAll quiet
  have after : final.channels = apu.channels.after quarters halves :=
    ends.channels.trans (apu.channelsAfterBeats quarters halves)
  have lengths : final.lengths = final.channels.unit.lengths := rfl
  refine ⟨after, ?_, raised⟩
  rw [lengths, after]
  rfl

-- Everything that a beat can move is about to move.
def sounding : Apu :=
  { Apu.standard with
    pulse1 :=
      { negation := .onesComplement, envelope := { start := true }, length := { value := 2 }
        sweep := { enabled := true, shift := 1 }, timer := { period := 100 } }
    pulse2 :=
      { negation := .twosComplement, envelope := { volume := 1, decay := 6 }
        sweep := { enabled := true, negate := true, shift := 2 }, timer := { period := 100 } }
    triangle := { linearLoad := 9, linearReload := true }
    noise := { envelope := { decay := 5 }, length := { halt := true, value := 9 } } }

-- The half frame of the write and the quarter frame of cycle 7457.
theorem frameScheduleFive :
    let operations := [Operation.tick 7456, .readStatus, .tick 1]
    let written := sounding.write 0x4017 0x80
    let final := written.performAll operations
    let moved := final.channels
    (∀ operation ∈ operations, operation.quiet = true) ∧
      (moved.pulse1.envelope.decay = 14 ∧ moved.pulse2.envelope.decay = 5 ∧
        moved.noise.envelope.decay = 3 ∧ moved.triangle.linear = 8 ∧
        moved.pulse1.timer.period = 150 ∧ moved.pulse2.timer.period = 75) ∧
      final.lengths.map (·.value) = [1, 0, 0, 9] ∧
      ¬Since RaisesFrame (fun _ => false) written operations := by
  intro operations written final moved
  have quiet : ∀ operation ∈ operations, operation.quiet = true := by decide
  obtain ⟨channels, lengths, raised⟩ := frameSchedule sounding 0x80 operations quiet
  have five : testBit 0x80 7 = true := rfl
  have passed : elapsed operations = 7457 := rfl
  let schedule := Schedule.ofMode !true
  have quarters : (!!true).toNat + schedule.due schedule.quarters 7457 = 2 := by decide +kernel
  have halves : (!!true).toNat + schedule.due schedule.halves 7457 = 1 := by decide +kernel
  rw [five, passed, quarters, halves] at channels
  rw [five, passed, halves] at lengths
  have after : moved = sounding.channels.after 2 1 := channels
  have counted : final.lengths = _ := lengths
  refine ⟨quiet, ?_, ?_, fun since => ?_⟩
  · rw [after]
    decide +kernel
  · rw [counted]
    rfl
  · obtain ⟨four, -, -⟩ := raised.mp since
    cases four

end Apu
end Nes
