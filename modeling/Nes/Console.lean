import Nes.Bus
import Nes.Cpu

/-! The console: processor and bus, and the frame that paces them from elapsed time. A frame is
the slice before vertical blank, the blank itself, which draws the picture and may interrupt the
processor, and the short slice after it. -/
namespace Nes

structure Duration where
  seconds : UInt64
  nanoseconds : UInt32
  deriving DecidableEq, Repr

def Duration.toSeconds (d : Duration) : Float :=
  d.seconds.toFloat + d.nanoseconds.toFloat / 1000000000

structure FrameStats where
  cycles : Nat := 0
  instructions : Nat := 0
  deriving DecidableEq, Repr

inductive FrameError where
  | fault (cause : BoardFault)
  | noCartridge
  deriving DecidableEq, Repr

def FrameError.message : FrameError → String
  | fault cause => "mapper contract violation: " ++ cause.message
  | noCartridge => "no cartridge inserted"

structure Console where
  cpu : Cpu := {}
  bus : Bus
  config : Config
  paused : Bool := false
  stepRequested : Bool := false
  fault : Option BoardFault := none

namespace Console

def new (config : Config) : Console where
  bus := { apu := .new config.cpuClockHz.toFloat config.sampleRate }
  config := config

def insert (console : Console) (cart : Cartridge) : Console :=
  let (cpu, bus) := Cpu.reset (console.bus.powerOn cart)
  { cpu, bus, config := console.config, paused := console.paused }

def load (console : Console) (cart : Except LoadError Cartridge) : Option LoadError × Console :=
  match cart with
  | .error e => (some e, console)
  | .ok cart => (none, console.insert cart)

def loadBytes (console : Console) (data : Array UInt8) : Option LoadError × Console :=
  console.load (Cartridge.ofBytes data)

def loadFile (console : Console) (contents : Option (Array UInt8)) : Option LoadError × Console :=
  console.load (Cartridge.ofFile contents)

def budget (console : Console) (elapsed : Duration) : Nat :=
  min (elapsed.toSeconds * console.config.cpuClockHz.toFloat).toUInt64.toNat
    console.config.maxCyclesPerStep

def blankFraction (console : Console) : Float :=
  let fraction := console.config.vblankFraction.toFloat
  if fraction < 0 then 0 else if fraction > 1 then 1 else fraction

def blankShare (console : Console) (budget : Nat) : Nat :=
  (Float.ofNat budget * console.blankFraction).toUInt64.toNat

def advance (console : Console) : Nat × Console :=
  let { cpu, bus, config, paused, stepRequested, fault } := console
  let (cycles, cpu, bus) := cpu.step bus
  let (entry, cpu, bus) := if bus.apu.irqPending then cpu.requestInterrupt bus else (0, cpu, bus)
  let (rejected, bus) := (bus.tick (cycles + entry)).takeFault
  (cycles + entry, { cpu, bus, config, paused, stepRequested, fault := fault.or rejected })

theorem advancePos {console : Console} (running : console.cpu.registers.halted = false) :
    0 < console.advance.1 :=
  Nat.add_pos_left (Cpu.stepPos running console.bus) _

def runSlice (console : Console) (stats : FrameStats) (remaining : Nat) : FrameStats × Console :=
  if stop : remaining = 0 ∨ console.cpu.registers.halted ∨ console.fault.isSome then
    (stats, console)
  else
    match spent : console.advance with
    | (cycles, console') =>
      have : remaining - cycles < remaining := by
        simp only [not_or, Bool.not_eq_true] at stop
        have positive := advancePos stop.2.1
        rw [spent] at positive
        omega
      console'.runSlice ⟨stats.cycles + cycles, stats.instructions + 1⟩ (remaining - cycles)
termination_by remaining

def enterBlank (console : Console) (stats : FrameStats) : FrameStats × Console :=
  let { cpu, bus, config, paused, stepRequested, fault } := console
  let bus := { bus with video := bus.video.update Ppu.beginVblank }
  if bus.video.ppu.wantsNmi then
    let (cycles, cpu, bus) := cpu.requestNmi bus
    ({ stats with cycles := stats.cycles + cycles },
      { cpu, bus := bus.tick cycles, config, paused, stepRequested, fault })
  else (stats, { cpu, bus, config, paused, stepRequested, fault })

def updatePpu (console : Console) (change : Ppu → Ppu) : Console :=
  { console with bus := { console.bus with video := console.bus.video.update change } }

def report (stats : FrameStats) (console : Console) : Except FrameError FrameStats × Console :=
  match console.fault with
  | some cause => (.error (.fault cause), console)
  | none => (.ok stats, console)

def runPaused (console : Console) : Except FrameError FrameStats × Console :=
  let (stats, console) :=
    if console.stepRequested then { console with stepRequested := false }.runSlice {} 1
    else ({}, console)
  if console.fault.isSome then report stats console
  else report stats (console.updatePpu Ppu.render)

def runBudget (console : Console) (budget : Nat) : Except FrameError FrameStats × Console :=
  let post := console.blankShare budget
  let (stats, console) := console.runSlice {} (budget - post)
  if console.fault.isSome then report stats console
  else
    let (stats, console) := console.enterBlank stats
    let (stats, console) := console.runSlice stats post
    if console.fault.isSome then report stats console
    else report stats (console.updatePpu Ppu.endVblank)

def runFrame (console : Console) (elapsed : Duration) : Except FrameError FrameStats × Console :=
  match console.fault, console.bus.video.cart with
  | some cause, _ => (.error (.fault cause), console)
  | none, none => (.error .noCartridge, console)
  | none, some _ =>
    if console.paused then console.runPaused else console.runBudget (console.budget elapsed)

def setPaused (console : Console) (paused : Bool) : Console :=
  { console with paused, stepRequested := console.stepRequested && paused }

def requestStep (console : Console) : Console :=
  { console with stepRequested := console.stepRequested || console.paused }

def hold (console : Console) (buttons : UInt8) : Console :=
  { console with bus := { console.bus with controller := console.bus.controller.hold buttons } }

def drainSamples (console : Console) : Array Int16 × Console :=
  let (samples, apu) := console.bus.apu.drain
  (samples, { console with bus := { console.bus with apu } })

end Console
end Nes
