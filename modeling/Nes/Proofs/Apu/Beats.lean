import Mathlib.Logic.Function.Iterate
import Nes.Proofs.Apu.Operations

/-! The beats of a history. They come from the cycles and from writes to the sequencer, and a part
of the unit that is left to them is a matter of how many have come, however they are spread. -/
namespace Nes

namespace Beat

def isQuarterFrame : Beat → Bool
  | rest => false
  | quarter | half => true

def isHalfFrame : Beat → Bool
  | rest | quarter => false
  | half => true

end Beat

namespace Apu

def cycleBeats (apu : Apu) : Nat → List Beat
  | 0 => []
  | n + 1 => apu.frame.clock.1 :: apu.cycle.cycleBeats n

def operationBeats (apu : Apu) : Operation → List Beat
  | .tick cycles => apu.cycleBeats cycles
  | .write addr value => if addr = 0x4017 then [(apu.frame.write value).1] else []
  | .readStatus | .drain | .reset => []

def beats (apu : Apu) : List Operation → List Beat
  | [] => []
  | operation :: rest => apu.operationBeats operation ++ (apu.perform operation).beats rest

def quarterFrames (apu : Apu) (operations : List Operation) : Nat :=
  (apu.beats operations).countP Beat.isQuarterFrame

def halfFrames (apu : Apu) (operations : List Operation) : Nat :=
  (apu.beats operations).countP Beat.isHalfFrame

theorem clockBeatsAppend {α : Type} (clock : α → α) (due : Beat → Bool) (first rest : List Beat)
    (start : α) :
    clock^[(first ++ rest).countP due] start =
      clock^[rest.countP due] (clock^[first.countP due] start) := by
  rw [List.countP_append, Nat.add_comm, Function.iterate_add_apply]

-- A part of the unit that only beats reach, as long as nothing disturbs it.
structure Paced {α : Type} (part : Apu → α) (clock : α → α) (due : Beat → Bool)
    (disturbs : Operation → Bool) : Prop where
  beat : ∀ apu beat, part (apu.beat beat) = if due beat then clock (part apu) else part apu
  timers : ∀ apu, part apu.clockTimers = part apu
  blind : ∀ (apu : Apu) frame output, part { apu with frame, output } = part apu
  write : ∀ apu addr value, addr ≠ 0x4017 → disturbs (.write addr value) = false →
    part (apu.write addr value) = part apu
  readStatus : ∀ apu, part apu.readStatus.2 = part apu
  reset : disturbs .reset = true

namespace Paced
variable {α : Type} {part : Apu → α} {clock : α → α} {due : Beat → Bool}
  {disturbs : Operation → Bool} (paced : Paced part clock due disturbs)
include paced

theorem beatFramed (apu : Apu) (frame : FrameSequencer) (beat : Beat) :
    part ({ apu with frame }.beat beat) = clock^[[beat].countP due] (part apu) := by
  have blind : part { apu with frame } = part apu := paced.blind apu frame apu.output
  rw [paced.beat, blind, List.countP_singleton]
  split <;> rfl

theorem cycle (apu : Apu) :
    part apu.cycle = clock^[[apu.frame.clock.1].countP due] (part apu) := by
  rw [cyclePart part fun apu output => paced.blind apu apu.frame output, paced.timers]
  exact paced.beatFramed apu apu.frame.clock.2 apu.frame.clock.1

theorem tick (apu : Apu) (n : Nat) :
    part (apu.tick n) = clock^[(apu.cycleBeats n).countP due] (part apu) := by
  induction n generalizing apu with
  | zero => rfl
  | succ n ih =>
    have first : apu.cycleBeats (n + 1) = [apu.frame.clock.1] ++ apu.cycle.cycleBeats n := rfl
    rw [first, clockBeatsAppend, ← paced.cycle]
    exact ih apu.cycle

theorem perform (apu : Apu) {operation : Operation} (quiet : disturbs operation = false) :
    part (apu.perform operation) =
      clock^[(apu.operationBeats operation).countP due] (part apu) := by
  cases operation with
  | tick cycles => exact paced.tick apu cycles
  | write addr value =>
    by_cases sequencer : addr = 0x4017
    · rw [operationBeats, if_pos sequencer, sequencer]
      exact paced.beatFramed apu (apu.frame.write value).2 (apu.frame.write value).1
    · rw [operationBeats, if_neg sequencer]
      exact paced.write apu addr value sequencer quiet
  | readStatus => exact paced.readStatus apu
  | drain => exact paced.blind apu apu.frame apu.drain.2.output
  | reset => rw [paced.reset] at quiet; cases quiet

theorem performAll (apu : Apu) {operations : List Operation}
    (quiet : ∀ operation ∈ operations, disturbs operation = false) :
    part (apu.performAll operations) = clock^[(apu.beats operations).countP due] (part apu) := by
  induction operations generalizing apu with
  | nil => rfl
  | cons operation rest ih =>
    obtain ⟨first, others⟩ := List.forall_mem_cons.mp quiet
    rw [beats, clockBeatsAppend, ← paced.perform apu first]
    exact ih (apu.perform operation) others

end Paced
end Apu
end Nes
