import Nes.Word

/-! The frame sequencer: it divides the processor clock into the quarter frames and half frames
that clock the channels, in a cycle of four or of five steps. The cycle of four raises an
interrupt at its end. -/
namespace Nes

inductive Beat where
  | rest
  | quarter
  | half
  deriving DecidableEq, Repr

structure FrameSequencer where
  fourStep : Bool := true
  irqInhibit : Bool := false
  irq : Bool := false
  cycle : Nat := 0
  deriving DecidableEq, Repr, Inhabited

namespace FrameSequencer

def length (fourStep : Bool) : Nat :=
  if fourStep then 29830 else 37282

def lastBeat (fourStep : Bool) : Nat :=
  length fourStep - 1

def beatAt (fourStep : Bool) (cycle : Nat) : Beat :=
  if cycle = 7457 ∨ cycle = 22371 then .quarter
  else if cycle = 14913 ∨ cycle = lastBeat fourStep then .half
  else .rest

def clock (f : FrameSequencer) : Beat × FrameSequencer :=
  let cycle := f.cycle + 1
  let raised := f.fourStep && !f.irqInhibit && cycle == lastBeat f.fourStep
  (beatAt f.fourStep cycle,
    { f with
      cycle := if cycle < length f.fourStep then cycle else 0
      irq := f.irq || raised })

def write (f : FrameSequencer) (value : UInt8) : Beat × FrameSequencer :=
  let fourStep := !testBit value 7
  let irqInhibit := testBit value 6
  (if fourStep then .rest else .half,
    { fourStep, irqInhibit, irq := f.irq && !irqInhibit, cycle := 0 })

end FrameSequencer
end Nes
