import Nes.CommandLine

/-! Runs a cartridge without a screen and prints the state it ends in. -/
namespace Nes

def readImage (path : String) : IO (Option (Array UInt8)) := do
  try
    return some (← IO.FS.readBinFile path).data
  catch _ =>
    return none

def runOptions (options : Options) : IO UInt32 := do
  match (Console.new {}).loadFile (← readImage options.image) with
  | (some e, _) =>
    IO.eprintln ("failed to load " ++ options.image ++ ": " ++ e.message)
    return 1
  | (none, console) =>
    match (console.setPaused options.paused).play options.frames with
    | .error e =>
      IO.eprintln ("emulation stopped: " ++ e.message)
      return 1
    | .ok console =>
      IO.println console.summary
      return 0

end Nes

def main (args : List String) : IO UInt32 := do
  match Nes.Options.parse args with
  | .error e =>
    IO.eprintln e.message
    return 2
  | .ok options => Nes.runOptions options
