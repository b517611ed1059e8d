import Nes.Apu.Envelope
import Nes.Apu.LengthCounter
import Nes.Apu.Timer

/-! The noise channel: the lowest bit of a shift register of 15 bits that feeds itself. -/
namespace Nes

structure Noise where
  envelope : Envelope := {}
  length : LengthCounter := {}
  short : Bool := false
  timer : Timer := ⟨4, 0⟩
  shift : UInt16 := 1
  deriving DecidableEq, Repr, Inhabited

namespace Noise

def periods : Array Nat :=
  #[4, 8, 16, 32, 64, 96, 128, 160, 202, 254, 380, 508, 762, 1016, 2034, 4068]

def writeControl (n : Noise) (value : UInt8) : Noise :=
  { n with
    length := { n.length with halt := testBit value 5 }
    envelope := n.envelope.write value }

def writePeriod (n : Noise) (value : UInt8) : Noise :=
  { n with
    short := testBit value 7
    timer := { n.timer with period := periods.getD (value.toNat % 16) 0 } }

def writeLength (n : Noise) (value : UInt8) : Noise :=
  { n with length := n.length.load value, envelope := n.envelope.restart }

def nextShift (short : Bool) (shift : UInt16) : UInt16 :=
  let tap := if short then shift >>> 6 else shift >>> 1
  shift >>> 1 ||| ((shift ^^^ tap) &&& 1) <<< 14

def clockTimer (n : Noise) : Noise :=
  { n with
    timer := n.timer.clock
    shift := if n.timer.due then nextShift n.short n.shift else n.shift }

def level (n : Noise) : Nat :=
  if n.length.active && n.shift &&& 1 == 0 then n.envelope.output else 0

def enable (n : Noise) (enabled : Bool) : Noise :=
  { n with length := n.length.enable enabled }

end Noise
end Nes
