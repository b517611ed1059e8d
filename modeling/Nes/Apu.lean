import Nes.Apu.Dmc
import Nes.Apu.FrameSequencer
import Nes.Apu.Mixer
import Nes.Apu.Noise
import Nes.Apu.Pulse
import Nes.Apu.Resampler
import Nes.Apu.Triangle
import Nes.Config

/-! The sound unit: five channels, the frame sequencer that clocks them, and the samples they
make. -/
namespace Nes

structure Apu where
  pulse1 : Pulse := { negation := .onesComplement }
  pulse2 : Pulse := { negation := .twosComplement }
  triangle : Triangle := {}
  noise : Noise := {}
  dmc : Dmc := {}
  frame : FrameSequencer := {}
  oddCycle : Bool := false
  output : Resampler
  deriving Inhabited

namespace Apu

def new (clockHz : Float) (sampleRate : Nat) : Apu where
  output := .ofRates clockHz sampleRate

def standard : Apu :=
  .new ({} : Config).cpuClockHz.toFloat ({} : Config).sampleRate

def reset (apu : Apu) : Apu where
  output := apu.output.restart

def quarterFrame (apu : Apu) : Apu :=
  { apu with
    pulse1 := { apu.pulse1 with envelope := apu.pulse1.envelope.clock }
    pulse2 := { apu.pulse2 with envelope := apu.pulse2.envelope.clock }
    noise := { apu.noise with envelope := apu.noise.envelope.clock }
    triangle := apu.triangle.clockLinear }

def halfFrame (apu : Apu) : Apu :=
  { apu with
    pulse1 := { apu.pulse1 with length := apu.pulse1.length.clock }.clockSweep
    pulse2 := { apu.pulse2 with length := apu.pulse2.length.clock }.clockSweep
    triangle := { apu.triangle with length := apu.triangle.length.clock }
    noise := { apu.noise with length := apu.noise.length.clock } }

def beat (apu : Apu) : Beat → Apu
  | .rest => apu
  | .quarter => apu.quarterFrame
  | .half => apu.quarterFrame.halfFrame

def enableChannels (apu : Apu) (value : UInt8) : Apu :=
  { apu with
    pulse1 := apu.pulse1.enable (testBit value 0)
    pulse2 := apu.pulse2.enable (testBit value 1)
    triangle := apu.triangle.enable (testBit value 2)
    noise := apu.noise.enable (testBit value 3)
    dmc := apu.dmc.enable (testBit value 4) }

def writeFrame (apu : Apu) (value : UInt8) : Apu :=
  let (beat, frame) := apu.frame.write value
  { apu with frame }.beat beat

def write (apu : Apu) (addr : UInt16) (value : UInt8) : Apu :=
  match addr.toNat with
  | 0x4000 => { apu with pulse1 := apu.pulse1.writeControl value }
  | 0x4001 => { apu with pulse1 := apu.pulse1.writeSweep value }
  | 0x4002 => { apu with pulse1 := apu.pulse1.writeTimerLow value }
  | 0x4003 => { apu with pulse1 := apu.pulse1.writeTimerHigh value }
  | 0x4004 => { apu with pulse2 := apu.pulse2.writeControl value }
  | 0x4005 => { apu with pulse2 := apu.pulse2.writeSweep value }
  | 0x4006 => { apu with pulse2 := apu.pulse2.writeTimerLow value }
  | 0x4007 => { apu with pulse2 := apu.pulse2.writeTimerHigh value }
  | 0x4008 => { apu with triangle := apu.triangle.writeLinear value }
  | 0x400A => { apu with triangle := apu.triangle.writeTimerLow value }
  | 0x400B => { apu with triangle := apu.triangle.writeTimerHigh value }
  | 0x400C => { apu with noise := apu.noise.writeControl value }
  | 0x400E => { apu with noise := apu.noise.writePeriod value }
  | 0x400F => { apu with noise := apu.noise.writeLength value }
  | 0x4010 => { apu with dmc := apu.dmc.writeControl value }
  | 0x4011 => { apu with dmc := apu.dmc.writeLevel value }
  | 0x4012 => { apu with dmc := apu.dmc.writeAddress value }
  | 0x4013 => { apu with dmc := apu.dmc.writeLength value }
  | 0x4015 => apu.enableChannels value
  | 0x4017 => apu.writeFrame value
  | _ => apu

def status (apu : Apu) : UInt8 :=
  apu.pulse1.length.active.toUInt8 + 2 * apu.pulse2.length.active.toUInt8 +
    4 * apu.triangle.length.active.toUInt8 + 8 * apu.noise.length.active.toUInt8 +
    16 * apu.dmc.active.toUInt8 + 64 * apu.frame.irq.toUInt8 + 128 * apu.dmc.irq.toUInt8

def readStatus (apu : Apu) : UInt8 × Apu :=
  (apu.status,
    { apu with
      frame := { apu.frame with irq := false }
      dmc := { apu.dmc with irq := false } })

def irqPending (apu : Apu) : Bool :=
  apu.frame.irq || apu.dmc.irq

def sample (apu : Apu) : Int16 :=
  Mixer.mix apu.pulse1.level apu.pulse2.level apu.triangle.level apu.noise.level apu.dmc.level

def clockFrame (apu : Apu) : Apu :=
  let (beat, frame) := apu.frame.clock
  { apu with frame }.beat beat

def clockTimers (apu : Apu) : Apu :=
  { apu with
    pulse1 := if apu.oddCycle then apu.pulse1.clockTimer else apu.pulse1
    pulse2 := if apu.oddCycle then apu.pulse2.clockTimer else apu.pulse2
    oddCycle := !apu.oddCycle
    triangle := apu.triangle.clockTimer
    noise := apu.noise.clockTimer
    dmc := apu.dmc.clockTimer }

def cycle (apu : Apu) : Apu :=
  let apu := apu.clockFrame.clockTimers
  if apu.output.due then
    let sample := apu.sample
    { apu with output := apu.output.emit sample }
  else { apu with output := apu.output.skip }

def tick (apu : Apu) : Nat → Apu
  | 0 => apu
  | n + 1 => apu.cycle.tick n

def drain (apu : Apu) : Array Int16 × Apu :=
  let (samples, output) := apu.output.drain
  (samples, { apu with output })

end Apu
end Nes
