import Nes.Proofs.Bus.OutputRate
import Nes.Proofs.Console.Session
import Nes.Proofs.Console.Steady

/-! Loading a cartridge: nothing of what a session did is left, except for the pause. A console
keeps its configuration and the rate that this gave its sound unit, and both are all that a power
cycle reads of the old console. -/
namespace Nes.Console

theorem runFrameConfig (console : Console) (elapsed : Duration) :
    (console.runFrame elapsed).2.config = console.config := by
  unfold runFrame
  split
  · rfl
  · rfl
  · split
    · exact steadyConfig.runPaused console
    · exact steadyConfig.runBudget console _

structure MadeFor (config : Config) (console : Console) : Prop where
  same : console.config = config
  rate : console.bus.apu.rate = (new config).bus.apu.rate

namespace MadeFor
variable {config : Config} {console : Console}

theorem fresh (config : Config) : MadeFor config (new config) :=
  ⟨rfl, rfl⟩

theorem insert (made : MadeFor config console) (cart : Cartridge) :
    MadeFor config (console.insert cart) :=
  ⟨made.same, (Bus.runRate Registers.restart (console.bus.powerOn cart)).trans made.rate⟩

theorem load (made : MadeFor config console) (cart : Except LoadError Cartridge) :
    MadeFor config (console.load cart).2 := by
  cases cart with
  | error e => exact made
  | ok cart => exact made.insert cart

theorem runFrame (made : MadeFor config console) (elapsed : Duration) :
    MadeFor config (console.runFrame elapsed).2 := by
  refine ⟨(console.runFrameConfig elapsed).trans made.same, ?_⟩
  rw [← replayFrame, Bus.playRate, made.rate]

theorem perform (made : MadeFor config console) (operation : Operation) :
    MadeFor config (console.perform operation) := by
  cases operation with
  | loadBytes data => exact made.load (Cartridge.ofBytes data)
  | loadFile contents => exact made.load (Cartridge.ofFile contents)
  | insert cart => exact made.insert cart
  | runFrame elapsed => exact made.runFrame elapsed
  | setPaused | requestStep | hold | drainSamples => exact ⟨made.same, made.rate⟩

theorem session (config : Config) (operations : List Operation) :
    MadeFor config (session config operations) :=
  sessionInvariant (fresh config) (fun _ operation made => made.perform operation) operations

theorem insertFresh (made : MadeFor config console) (cart : Cartridge) :
    console.insert cart = { (new config).insert cart with paused := console.paused } := by
  unfold Console.insert
  rw [Bus.powerOnRate made.rate cart, made.same]
  rfl

end MadeFor

/-- Loading an image at the end of any session either fails and changes nothing, or leads to the
console that a new one of the same configuration becomes with the image. Only the pause is that of
the session. -/
theorem loadPowerCycles (config : Config) (operations : List Operation) (data : Array UInt8) :
    let console := session config operations
    console.loadBytes data =
      match Cartridge.ofBytes data with
      | .error e => (some e, console)
      | .ok _ => (none, { ((new config).loadBytes data).2 with paused := console.paused }) := by
  intro console
  unfold loadBytes
  cases Cartridge.ofBytes data with
  | error e => rfl
  | ok cart =>
    simp only [load, (MadeFor.session config operations).insertFresh cart, console]

end Nes.Console
