/-! Length counters: a channel sounds until its counter, clocked at half frames, is zero. -/
namespace Nes

structure LengthCounter where
  enabled : Bool := false
  halt : Bool := false
  value : Nat := 0
  deriving DecidableEq, Repr, Inhabited

namespace LengthCounter

def table : Array Nat :=
  #[10, 254, 20, 2, 40, 4, 80, 6, 160, 8, 60, 10, 14, 12, 26, 14,
    12, 16, 24, 18, 48, 20, 96, 22, 192, 24, 72, 26, 16, 28, 32, 30]

def load (l : LengthCounter) (register : UInt8) : LengthCounter :=
  if l.enabled then { l with value := table.getD (register.toNat / 8) 0 } else l

def enable (l : LengthCounter) (enabled : Bool) : LengthCounter :=
  { l with enabled, value := if enabled then l.value else 0 }

def clock (l : LengthCounter) : LengthCounter :=
  if l.halt then l else { l with value := l.value - 1 }

def active (l : LengthCounter) : Bool :=
  l.value != 0

end LengthCounter
end Nes
