import Nes.Proofs.Bus.History

/-! The rate of the sound output. It comes from the clock and the sample rate that the sound unit
was made with, and no signal changes it: it is what a power cycle keeps. -/
namespace Nes

namespace Apu

def rate (apu : Apu) : Float :=
  apu.output.cyclesPerSample

theorem beatOutput (apu : Apu) (beat : Beat) : (apu.beat beat).output = apu.output := by
  cases beat <;> rfl

theorem writeOutput (apu : Apu) (addr : UInt16) (value : UInt8) :
    (apu.write addr value).output = apu.output := by
  unfold write
  split <;> first | rfl | exact beatOutput _ _

theorem cycleRate (apu : Apu) : apu.cycle.rate = apu.rate := by
  have clocked : apu.clockFrame.clockTimers.output = apu.output := beatOutput _ _
  unfold cycle rate
  rw [← clocked]
  simp only
  split <;> rfl

theorem tickRate (apu : Apu) (cycles : Nat) : (apu.tick cycles).rate = apu.rate := by
  induction cycles generalizing apu with
  | zero => rfl
  | succ n ih => rw [tick, ih, cycleRate]

theorem keptRate (r : Float) : Kept fun apu => apu.rate = r where
  reset _ same := same
  readStatus _ same := same
  write apu addr value same :=
    (congrArg Resampler.cyclesPerSample (apu.writeOutput addr value)).trans same
  tick apu cycles same := (apu.tickRate cycles).trans same
  drain _ same := same

end Apu

namespace Bus

theorem playRate (bus : Bus) (signals : List Signal) :
    (bus.play signals).apu.rate = bus.apu.rate :=
  playApu (Apu.keptRate bus.apu.rate) rfl signals

theorem runRate {α : Type} (t : Transaction α) (bus : Bus) :
    (t.run bus).device.apu.rate = bus.apu.rate := by
  rw [← t.replay, ← playAccesses, playRate]

theorem powerOnRate {bus bus' : Bus} (same : bus.apu.rate = bus'.apu.rate) (cart : Cartridge) :
    bus.powerOn cart = bus'.powerOn cart := by
  unfold powerOn Apu.reset Resampler.restart
  rw [show bus.apu.output.cyclesPerSample = bus'.apu.output.cyclesPerSample from same]

end Bus
end Nes
