import Nes.Console

/-! The command line: a cartridge image, how many frames to run it, and whether the console
starts paused. The answer is one line on the state of the machine. -/
namespace Nes

structure Options where
  image : String
  frames : Nat := 60
  paused : Bool := false
  deriving DecidableEq, Repr

inductive UsageError where
  | noImage
  | badFrames (text : String)
  | unexpected (argument : String)
  deriving DecidableEq, Repr

def UsageError.message : UsageError → String
  | noImage => "usage: nes IMAGE [--frames COUNT] [--paused]"
  | badFrames text => "not a number of frames: " ++ text
  | unexpected argument => "unexpected argument: " ++ argument

namespace Options

def complete (options : Options) : List String → Except UsageError Options
  | [] => .ok options
  | "--paused" :: rest => { options with paused := true }.complete rest
  | "--frames" :: count :: rest =>
    match count.toNat? with
    | some frames => { options with frames }.complete rest
    | none => .error (.badFrames count)
  | argument :: _ => .error (.unexpected argument)

def parse : List String → Except UsageError Options
  | [] => .error .noImage
  | image :: rest => complete { image } rest

end Options

namespace Console

def frameTime : Duration :=
  ⟨0, 16639268⟩

def play (console : Console) : Nat → Except FrameError Console
  | 0 => .ok console
  | n + 1 =>
    match console.runFrame frameTime with
    | (.error e, _) => .error e
    | (.ok _, console) => console.play n

def summary (console : Console) : String :=
  let r := console.cpu.registers
  s!"pc {Hex.padded 4 r.pc.toNat} a {Hex.padded 2 r.a.toNat} x {Hex.padded 2 r.x.toNat} " ++
    s!"y {Hex.padded 2 r.y.toNat} sp {Hex.padded 2 r.sp.toNat} " ++
    s!"p {Hex.padded 2 r.status.toByte.toNat} cycles {console.cpu.totalCycles} " ++
    s!"samples {console.bus.apu.output.samples.size}"

end Console
end Nes
