import Nes.Word

/-! Volume envelopes: a constant volume, or a decay from 15 to 0 at quarter frames. -/
namespace Nes

structure Envelope where
  start : Bool := false
  looping : Bool := false
  constant : Bool := false
  volume : Nat := 0
  divider : Nat := 0
  decay : Nat := 0
  deriving DecidableEq, Repr, Inhabited

namespace Envelope

def write (e : Envelope) (value : UInt8) : Envelope :=
  { e with
    looping := testBit value 5
    constant := testBit value 4
    volume := value.toNat % 16 }

def restart (e : Envelope) : Envelope :=
  { e with start := true }

def clock (e : Envelope) : Envelope :=
  if e.start then { e with start := false, decay := 15, divider := e.volume }
  else if e.divider > 0 then { e with divider := e.divider - 1 }
  else if e.decay > 0 then { e with divider := e.volume, decay := e.decay - 1 }
  else if e.looping then { e with divider := e.volume, decay := 15 }
  else { e with divider := e.volume }

def output (e : Envelope) : Nat :=
  if e.constant then e.volume else e.decay

end Envelope
end Nes
