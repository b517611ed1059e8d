import Nes.Word

/-! The scroll latch: the address that the program is composing, the address in use, and the
scroll that the picture is cropped at. Two registers of two writes each share one toggle. -/
namespace Nes

structure ScrollLatch where
  v : UInt16 := 0
  -- The address being composed: coarse column in bits 0-4, coarse row in bits 5-9, nametable in
  -- bits 10-11, fine row in bits 12-14.
  t : UInt16 := 0
  fineX : Nat := 0
  second : Bool := false
  x : Nat := 0
  y : Nat := 0
  deriving DecidableEq, Repr, Inhabited

namespace ScrollLatch

def selectNametable (s : ScrollLatch) (value : UInt8) : ScrollLatch :=
  { s with t := withField s.t 10 2 value.toNat }

def clearToggle (s : ScrollLatch) : ScrollLatch :=
  { s with second := false }

def settle (s : ScrollLatch) : ScrollLatch :=
  { s with
    x := 8 * field s.t 0 5 + s.fineX
    y := 8 * field s.t 5 5 + field s.t 12 3 }

def writeScroll (s : ScrollLatch) (value : UInt8) : ScrollLatch :=
  if s.second then
    { s with
      t := withField (withField s.t 5 5 (value.toNat / 8)) 12 3 value.toNat
      second := false }.settle
  else
    { s with
      t := withField s.t 0 5 (value.toNat / 8)
      fineX := value.toNat % 8
      second := true }

def writeAddress (s : ScrollLatch) (value : UInt8) : ScrollLatch :=
  if s.second then
    let t := withField s.t 0 8 value.toNat
    { s with t, v := t, second := false }
  else
    { s with t := withField s.t 8 8 (value.toNat % 64), second := true }

def advance (s : ScrollLatch) (step : UInt16) : ScrollLatch :=
  { s with v := (s.v + step) % 0x8000 }

end ScrollLatch
end Nes
