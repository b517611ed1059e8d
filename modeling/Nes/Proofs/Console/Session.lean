import Nes.Proofs.Console.Slice

/-! Sessions: everything a host can do to a console, from a new console on. -/
namespace Nes.Console

inductive Operation where
  | loadBytes (data : Array UInt8)
  | loadFile (contents : Option (Array UInt8))
  | insert (cart : Cartridge)
  | runFrame (elapsed : Duration)
  | setPaused (paused : Bool)
  | requestStep
  | hold (buttons : UInt8)
  | drainSamples
  deriving DecidableEq, Repr

def Operation.drains : Operation → Bool
  | drainSamples => true
  | _ => false

def perform (console : Console) : Operation → Console
  | .loadBytes data => (console.loadBytes data).2
  | .loadFile contents => (console.loadFile contents).2
  | .insert cart => console.insert cart
  | .runFrame elapsed => (console.runFrame elapsed).2
  | .setPaused paused => console.setPaused paused
  | .requestStep => console.requestStep
  | .hold buttons => console.hold buttons
  | .drainSamples => console.drainSamples.2

def session (config : Config) (operations : List Operation) : Console :=
  operations.foldl perform (new config)

theorem sessionInvariant {config : Config} {holds : Console → Prop} (starts : holds (new config))
    (kept : ∀ console operation, holds console → holds (console.perform operation))
    (operations : List Operation) : holds (session config operations) :=
  List.foldlRecOn operations perform starts fun console held operation _ =>
    kept console operation held

end Nes.Console
