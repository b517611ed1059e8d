import Nes.Apu.Envelope
import Nes.Apu.LengthCounter
import Nes.Apu.Timer

/-! Pulse channels: a square wave of one of four duties, with an envelope, a length counter and
a sweep unit that bends the period. -/
namespace Nes

inductive Negation where
  | onesComplement
  | twosComplement
  deriving DecidableEq, Repr, Inhabited

structure Sweep where
  enabled : Bool := false
  period : Nat := 0
  negate : Bool := false
  shift : Nat := 0
  divider : Nat := 0
  reload : Bool := false
  deriving DecidableEq, Repr, Inhabited

structure Pulse where
  negation : Negation
  duty : Nat := 0
  envelope : Envelope := {}
  length : LengthCounter := {}
  sweep : Sweep := {}
  timer : Timer := {}
  step : Nat := 0
  deriving DecidableEq, Repr, Inhabited

namespace Sweep

def ofByte (value : UInt8) (divider : Nat) : Sweep where
  enabled := testBit value 7
  period := value.toNat / 16 % 8
  negate := testBit value 3
  shift := value.toNat % 8
  divider := divider
  reload := true

def clockDivider (s : Sweep) : Sweep :=
  if s.divider = 0 ∨ s.reload then { s with divider := s.period, reload := false }
  else { s with divider := s.divider - 1 }

end Sweep

namespace Pulse

def dutySequences : Array (Array Bool) :=
  #[#[false, true, false, false, false, false, false, false],
    #[false, true, true, false, false, false, false, false],
    #[false, true, true, true, true, false, false, false],
    #[true, false, false, true, true, true, true, true]]

def high (p : Pulse) : Bool :=
  (dutySequences.getD p.duty #[]).getD p.step false

def maxPeriod : Nat :=
  0x7FF

def writeControl (p : Pulse) (value : UInt8) : Pulse :=
  { p with
    duty := value.toNat / 64
    length := { p.length with halt := testBit value 5 }
    envelope := p.envelope.write value }

def writeSweep (p : Pulse) (value : UInt8) : Pulse :=
  { p with sweep := .ofByte value p.sweep.divider }

def writeTimerLow (p : Pulse) (value : UInt8) : Pulse :=
  { p with timer := p.timer.writeLow value }

def writeTimerHigh (p : Pulse) (value : UInt8) : Pulse :=
  { p with
    timer := p.timer.writeHigh value
    length := p.length.load value
    envelope := p.envelope.restart
    step := 0 }

def target (p : Pulse) : Nat :=
  let period := p.timer.period
  let delta := period >>> p.sweep.shift
  if p.sweep.negate then
    match p.negation with
    | .onesComplement => period - (delta + 1)
    | .twosComplement => period - delta
  else period + delta

def muted (p : Pulse) : Bool :=
  p.timer.period < 8 || p.target > maxPeriod

def sweeping (p : Pulse) : Bool :=
  p.sweep.divider == 0 && p.sweep.enabled && p.sweep.shift != 0 && !p.muted

def clockSweep (p : Pulse) : Pulse :=
  let period := if p.sweeping then p.target else p.timer.period
  { p with timer := { p.timer with period }, sweep := p.sweep.clockDivider }

def clockTimer (p : Pulse) : Pulse :=
  { p with
    timer := p.timer.clock
    step := if p.timer.due then (p.step + 1) % 8 else p.step }

def level (p : Pulse) : Nat :=
  if p.length.active && !p.muted && p.high then p.envelope.output else 0

def enable (p : Pulse) (enabled : Bool) : Pulse :=
  { p with length := p.length.enable enabled }

end Pulse
end Nes
