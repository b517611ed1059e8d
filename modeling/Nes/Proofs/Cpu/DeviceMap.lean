import Nes.Cpu

/-! Maps of devices. A processor sees of its bus what reads give, and so it does the same on two
devices that answer alike, one of which is the image of the other. The answers alone make a device
too. -/
namespace Nes

structure Script where
  answers : List UInt8
  deriving DecidableEq, Repr

instance : Device Script where
  read _ script := (script.answers.headD 0, ⟨script.answers.tail⟩)
  write _ _ script := script

structure DeviceMap {σ τ : Type} [Device σ] [Device τ] (f : σ → τ) : Prop where
  read : ∀ addr s, Device.read addr (f s) = ((Device.read addr s).1, f (Device.read addr s).2)
  write : ∀ addr value s, Device.write addr value (f s) = f (Device.write addr value s)

namespace DeviceMap
variable {α σ τ : Type} [Device σ] [Device τ] {f : σ → τ} (map : DeviceMap f)
include map

theorem run (t : Transaction α) (s : σ) :
    t.run (f s) = ⟨(t.run s).result, f (t.run s).device, (t.run s).cycles⟩ := by
  induction t generalizing s with
  | done result => rfl
  | idle next ih => rw [Transaction.run, ih]; rfl
  | read addr next ih => rw [Transaction.run, map.read]; simp only [ih]; rfl
  | write addr value next ih => rw [Transaction.run, map.write, ih]; rfl

theorem spend (cpu : Cpu) (work : Registers → Transaction Registers) (s : σ) :
    cpu.spend work (f s) =
      ((cpu.spend work s).1, (cpu.spend work s).2.1, f (cpu.spend work s).2.2) := by
  unfold Cpu.spend
  split
  · rfl
  · rw [map.run]

theorem step (cpu : Cpu) (s : σ) :
    cpu.step (f s) = ((cpu.step s).1, (cpu.step s).2.1, f (cpu.step s).2.2) :=
  map.spend cpu Registers.instruction s

theorem requestInterrupt (cpu : Cpu) (s : σ) :
    cpu.requestInterrupt (f s) =
      ((cpu.requestInterrupt s).1, (cpu.requestInterrupt s).2.1,
        f (cpu.requestInterrupt s).2.2) := by
  unfold Cpu.requestInterrupt
  split
  · rfl
  · exact map.spend cpu _ s

end DeviceMap
end Nes
