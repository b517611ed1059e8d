import Nes.Transaction

/-! Traces: the accesses that a transaction makes to a device, in order. -/
namespace Nes

inductive Access where
  | read (addr : UInt16) (value : UInt8)
  | write (addr : UInt16) (value : UInt8)
  deriving DecidableEq, Repr

def Transaction.trace {α σ : Type} [Device σ] : Transaction α → σ → List Access
  | done _, _ => []
  | idle next, s => next.trace s
  | read addr next, s =>
    let (value, s) := Device.read addr s
    .read addr value :: (next value).trace s
  | write addr value next, s => .write addr value :: next.trace (Device.write addr value s)

theorem Transaction.traceBind {α β σ : Type} [Device σ] (t : Transaction α)
    (f : α → Transaction β) (s : σ) :
    (t >>= f).trace s = t.trace s ++ (f (t.run s).result).trace (t.run s).device := by
  show (t.bind f).trace s = _
  induction t generalizing s with
  | done result => simp [bind, trace, run]
  | idle next ih => simp [bind, trace, run, ih]
  | read addr next ih => simp [bind, trace, run, ih]
  | write addr value next ih => simp [bind, trace, run, ih]

structure Traced (σ : Type) where
  device : σ
  log : Array Access := #[]

namespace Traced
variable {α σ : Type} [Device σ]

instance : Device (Traced σ) where
  read addr t :=
    let (value, device) := Device.read addr t.device
    (value, { device, log := t.log.push (.read addr value) })
  write addr value t :=
    { device := Device.write addr value t.device, log := t.log.push (.write addr value) }

theorem runTraced (t : Transaction α) (s : Traced σ) :
    t.run s =
      let plain := t.run s.device
      ⟨plain.result, ⟨plain.device, s.log ++ (t.trace s.device).toArray⟩, plain.cycles⟩ := by
  induction t generalizing s with
  | done => simp [Transaction.run, Transaction.trace]
  | idle next ih => simp [Transaction.run, Transaction.trace, ih]
  | read addr next ih => simp [Transaction.run, Transaction.trace, ih, Device.read]
  | write addr value next ih => simp [Transaction.run, Transaction.trace, ih, Device.write]

end Traced
end Nes
