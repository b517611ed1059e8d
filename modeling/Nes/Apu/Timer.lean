/-! Timers: a count that runs down to zero and is then loaded again with the period. -/
namespace Nes

structure Timer where
  period : Nat := 0
  count : Nat := 0
  deriving DecidableEq, Repr, Inhabited

namespace Timer

def due (t : Timer) : Bool :=
  t.count == 0

def clock (t : Timer) : Timer :=
  if t.due then { t with count := t.period } else { t with count := t.count - 1 }

theorem clockPeriod (t : Timer) : t.clock.period = t.period := by
  unfold clock
  split <;> rfl

end Timer

def Timer.writeLow (t : Timer) (value : UInt8) : Timer :=
  { t with period := t.period / 0x100 * 0x100 + value.toNat }

def Timer.writeHigh (t : Timer) (value : UInt8) : Timer :=
  { t with period := value.toNat % 8 * 0x100 + t.period % 0x100 }

end Nes
