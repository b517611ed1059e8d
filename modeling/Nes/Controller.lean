import Nes.Word

/-! The controller: a shift register over eight buttons. While the strobe is on, it reports the
first button; every write latches the buttons held, and with the strobe off each read shifts out
one of them. -/
namespace Nes

structure Controller where
  buttons : UInt8 := 0
  shift : UInt8 := 0
  reads : Nat := 0
  strobe : Bool := false
  deriving DecidableEq, Repr, Inhabited

namespace Controller

inductive Button where
  | a | b | select | start | up | down | left | right
  deriving DecidableEq, Repr

def Button.mask (button : Button) : UInt8 :=
  match button with
  | .a => 0x01
  | .b => 0x02
  | .select => 0x04
  | .start => 0x08
  | .up => 0x10
  | .down => 0x20
  | .left => 0x40
  | .right => 0x80

def hold (pad : Controller) (buttons : UInt8) : Controller :=
  { pad with buttons }

def read (pad : Controller) : UInt8 × Controller :=
  if pad.strobe then (pad.buttons &&& 1, pad)
  else if pad.reads ≥ 8 then (1, pad)
  else (pad.shift &&& 1, { pad with shift := pad.shift >>> 1, reads := pad.reads + 1 })

def write (pad : Controller) (value : UInt8) : Controller :=
  { pad with strobe := testBit value 0, shift := pad.buttons, reads := 0 }

end Controller
end Nes
