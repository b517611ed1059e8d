import Nes.Proofs.Apu.Beats
import Nes.Proofs.Apu.FrameClocks

/-! The decay of an envelope. The write that restarts it takes effect at the next quarter frame, and
from there the level is a matter of the quarter frames that have come: the divider is the rest of a
division, and the steps of the level are its quotient. -/
namespace Nes

namespace Envelope

theorem fallenFull (looping : Bool) (steps : Nat) :
    fallen looping 15 steps =
      if steps ≤ 15 then 15 - steps else if looping then 15 - steps % 16 else 0 := by
  unfold fallen
  split
  · rfl
  · next beyond =>
    have round : (steps - 15 - 1) % 16 = steps % 16 := by omega
    rw [round]

theorem restartDecay (e : Envelope) (n : Nat) :
    (clock^[n + 1] e.restart).decay = fallen e.looping 15 (n / (e.volume + 1)) := by
  rw [clocksAfter, ← Timer.roundsFull]
  rfl

theorem clocksOutput (e : Envelope) (n : Nat) :
    (clock^[n] e).output = if e.constant then e.volume else (clock^[n] e).decay := by
  have settings : (clock^[n] e).constant = e.constant ∧ (clock^[n] e).volume = e.volume := by
    rw [clocksAfter]
    cases n with
    | zero => exact ⟨rfl, rfl⟩
    | succ n =>
      unfold after
      cases e.start <;> exact ⟨rfl, rfl⟩
  rw [output, settings.1, settings.2]

end Envelope

namespace Apu

inductive EnvelopeUnit where
  | pulse1
  | pulse2
  | noise
  deriving DecidableEq, Repr

namespace EnvelopeUnit

def controlRegister : EnvelopeUnit → UInt16
  | pulse1 => 0x4000
  | pulse2 => 0x4004
  | noise => 0x400C

def lengthRegister : EnvelopeUnit → UInt16
  | pulse1 => 0x4003
  | pulse2 => 0x4007
  | noise => 0x400F

def disturbedBy (unit : EnvelopeUnit) : Operation → Bool
  | .write addr _ => addr == unit.controlRegister || addr == unit.lengthRegister
  | .reset => true
  | .readStatus | .tick _ | .drain => false

end EnvelopeUnit

def envelope (apu : Apu) : EnvelopeUnit → Envelope
  | .pulse1 => apu.pulse1.envelope
  | .pulse2 => apu.pulse2.envelope
  | .noise => apu.noise.envelope

theorem restartEnvelope (apu : Apu) (unit : EnvelopeUnit) (value : UInt8) :
    (apu.write unit.lengthRegister value).envelope unit = (apu.envelope unit).restart := by
  cases unit <;> rfl

theorem writeEnvelope (apu : Apu) (unit : EnvelopeUnit) {addr : UInt16} (value : UInt8)
    (sequencer : addr ≠ 0x4017) (quiet : unit.disturbedBy (.write addr value) = false) :
    (apu.write addr value).envelope unit = apu.envelope unit := by
  unfold write
  split
  case h_20 here => exact absurd (registerAt here) sequencer
  case h_21 => rfl
  all_goals
    rename_i here
    rw [registerAt here] at quiet
    cases unit
    all_goals first
      | rfl
      | cases quiet

theorem envelopePaced (unit : EnvelopeUnit) :
    Paced (·.envelope unit) Envelope.clock Beat.isQuarterFrame unit.disturbedBy where
  beat apu beat := by cases beat <;> cases unit <;> rfl
  timers apu := by
    obtain ⟨pulse1, pulse2⟩ := apu.timersPulses Pulse.envelope fun _ => rfl
    cases unit with
    | pulse1 => exact pulse1
    | pulse2 => exact pulse2
    | noise => rfl
  blind _ _ _ := by cases unit <;> rfl
  write apu _ value := apu.writeEnvelope unit value
  readStatus _ := by cases unit <;> rfl
  reset := rfl

/-- An envelope that a write to its length register restarts keeps its level up to the next quarter
frame. From there it falls from 15 by one step in every row of quarter frames that is one longer
than its volume; at 0 it starts again, if it is looped, or else stays. A constant volume is put out
in place of the level and does not hold it up. -/
theorem envelopeDecays (apu : Apu) (unit : EnvelopeUnit) (value : UInt8)
    {operations : List Operation}
    (quiet : ∀ operation ∈ operations, unit.disturbedBy operation = false) :
    let e := apu.envelope unit
    let restarted := apu.write unit.lengthRegister value
    let k := restarted.quarterFrames operations
    let j := (k - 1) / (e.volume + 1)
    let later := (restarted.performAll operations).envelope unit
    later.decay =
        (if k = 0 then e.decay
        else if j ≤ 15 then 15 - j
        else if e.looping then 15 - j % 16 else 0) ∧
      later.output = if e.constant then e.volume else later.decay := by
  intro e restarted k j later
  have clocked : later = Envelope.clock^[k] e.restart := by
    rw [← apu.restartEnvelope unit value]
    exact (envelopePaced unit).performAll restarted quiet
  refine ⟨?_, clocked ▸ e.restart.clocksOutput k⟩
  cases count : k with
  | zero =>
    rw [clocked, count]
    exact (if_pos rfl).symm
  | succ n =>
    have steps : j = n / (e.volume + 1) := by rw [← Nat.add_sub_cancel n 1, ← count]
    rw [clocked, count, if_neg (Nat.succ_ne_zero n), steps, e.restartDecay, Envelope.fallenFull]

theorem envelopeDecaysRound :
    let apu := standard.write 0x4000 0x30
    let operations := .readStatus :: List.replicate 18 (.write 0x4017 0x80)
    let later := ((apu.write 0x4003 0).performAll operations).pulse1.envelope
    (∀ operation ∈ operations, EnvelopeUnit.pulse1.disturbedBy operation = false) ∧
      later.decay = 14 ∧ later.output = 0 := by
  have quiet : ∀ operation ∈ .readStatus :: List.replicate 18 (Operation.write 0x4017 0x80),
      EnvelopeUnit.pulse1.disturbedBy operation = false := by decide
  obtain ⟨decay, output⟩ := envelopeDecays (standard.write 0x4000 0x30) .pulse1 0 quiet
  exact ⟨quiet, decay.trans (by decide +kernel), output⟩

end Apu
end Nes
