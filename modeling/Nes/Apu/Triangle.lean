import Nes.Apu.LengthCounter
import Nes.Apu.Timer
import Nes.Word

/-! The triangle channel: a wave of 32 steps that runs while both the length counter and the
linear counter are above zero. It has no volume. -/
namespace Nes

structure Triangle where
  length : LengthCounter := {}
  control : Bool := false
  linearLoad : Nat := 0
  linear : Nat := 0
  linearReload : Bool := false
  timer : Timer := {}
  step : Nat := 0
  deriving DecidableEq, Repr, Inhabited

namespace Triangle

def wave (step : Nat) : Nat :=
  if step < 16 then 15 - step else step - 16

def writeLinear (t : Triangle) (value : UInt8) : Triangle :=
  { t with
    control := testBit value 7
    length := { t.length with halt := testBit value 7 }
    linearLoad := value.toNat % 0x80 }

def writeTimerLow (t : Triangle) (value : UInt8) : Triangle :=
  { t with timer := t.timer.writeLow value }

def writeTimerHigh (t : Triangle) (value : UInt8) : Triangle :=
  { t with
    timer := t.timer.writeHigh value
    length := t.length.load value
    linearReload := true }

def clockLinear (t : Triangle) : Triangle :=
  { t with
    linear := if t.linearReload then t.linearLoad else t.linear - 1
    linearReload := t.linearReload && t.control }

def running (t : Triangle) : Bool :=
  t.length.active && t.linear != 0

def clockTimer (t : Triangle) : Triangle :=
  { t with
    timer := t.timer.clock
    step := if t.timer.due && t.running then (t.step + 1) % 32 else t.step }

def level (t : Triangle) : Nat :=
  if t.timer.period < 2 then 0 else wave t.step

def enable (t : Triangle) (enabled : Bool) : Triangle :=
  { t with length := t.length.enable enabled }

end Triangle
end Nes
