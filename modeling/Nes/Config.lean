import Nes.Binary64

/-! Configuration of the console: its clock, how a frame is cut into slices, and the rate of its
sound output. -/
namespace Nes

inductive Region where
  | ntsc
  deriving DecidableEq, Repr, Inhabited

namespace Region

def cpuHz : Region → Nat
  | ntsc => 1789773

def frameRate : Region → Float
  | ntsc => 60.0988

def cyclesPerFrame (region : Region) : Nat :=
  (Float.ofNat region.cpuHz / region.frameRate).toUInt32.toNat

end Region

structure Config where
  region : Region := .ntsc
  cpuClockHz : Binary64 := .ofFloat (Float.ofNat region.cpuHz)
  -- The most cycles of one frame, so that a host that stalls has no burst to catch up.
  maxCyclesPerStep : Nat := region.cyclesPerFrame * 2
  vblankFraction : Binary64 := .ofFloat 0.08
  sampleRate : Nat := 44100
  deriving DecidableEq, Repr, Inhabited

end Nes
