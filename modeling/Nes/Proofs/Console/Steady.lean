import Nes.Proofs.Console.Timeline

/-! What instructions, the blank and the pictures leave alone: they reach the console through its
processor, its bus and its fault, and so everything else is steady over a frame. -/
namespace Nes.Console
variable {α : Type}

structure Steady (view : Console → α) : Prop where
  devices : ∀ console cpu bus fault, view { console with cpu, bus, fault } = view console

namespace Steady
variable {view : Console → α} (steady : Steady view)
include steady

theorem after (console : Console) (n : Nat) : view (console.after n) = view console := by
  induction n generalizing console with
  | zero => rfl
  | succ n ih =>
    rw [Console.after, ih, advanceParts]
    exact steady.devices console _ _ _

theorem blanked (console : Console) : view console.blanked = view console := by
  obtain ⟨cpu, bus, same⟩ := console.blankedDevices
  rw [same]
  exact steady.devices console cpu bus console.fault

theorem finish (console : Console) (change : Ppu → Ppu) :
    view (console.finish change) = view console :=
  finishKeeps view (steady.devices console console.cpu _ console.fault)

theorem runPaused (console : Console) : view console.runPaused.2 = view console.ready := by
  rw [runPausedParts, reportConsole, steady.finish, sliceEnd, steady.after]

theorem runBudget (console : Console) (budget : Nat) :
    view (console.runBudget budget).2 = view console := by
  rw [runBudgetParts]
  simp only
  split
  · rw [reportConsole, sliceEnd, steady.after]
  · rw [reportConsole, steady.finish, sliceEnd, steady.after, steady.blanked, sliceEnd,
      steady.after]

end Steady

theorem steadyConfig : Steady config :=
  ⟨fun _ _ _ _ => rfl⟩

theorem steadyPause : Steady fun console => (console.paused, console.stepRequested) :=
  ⟨fun _ _ _ _ => rfl⟩

end Nes.Console
