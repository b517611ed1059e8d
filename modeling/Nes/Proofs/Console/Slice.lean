import Nes.Console

/-! A slice is a chain of instructions. The loop goes on exactly while cycles remain, the processor
runs and nothing has failed, and it leads to the end of the chain with the cycles of the chain. -/
namespace Nes.Console

def after (console : Console) : Nat → Console
  | 0 => console
  | n + 1 => console.advance.2.after n

def spent (console : Console) : Nat → Nat
  | 0 => 0
  | n + 1 => console.advance.1 + console.advance.2.spent n

def stopped (console : Console) : Bool :=
  console.cpu.registers.halted || console.fault.isSome

structure SliceOf (console : Console) (budget n : Nat) : Prop where
  running : ∀ k < n, console.spent k < budget ∧ (console.after k).stopped = false
  ends : budget ≤ console.spent n ∨ (console.after n).stopped = true

theorem SliceOf.unique {console : Console} {budget m n : Nat} (one : SliceOf console budget m)
    (other : SliceOf console budget n) : m = n := by
  rcases Nat.lt_trichotomy m n with less | same | more
  · obtain ⟨cycles, goes⟩ := other.running m less
    rcases one.ends with full | halts
    · omega
    · simp [goes] at halts
  · exact same
  · obtain ⟨cycles, goes⟩ := one.running n more
    rcases other.ends with full | halts
    · omega
    · simp [goes] at halts

theorem spentSucc (console : Console) (n : Nat) :
    console.spent (n + 1) = console.spent n + (console.after n).advance.1 := by
  induction n generalizing console with
  | zero => simp [spent, after]
  | succ n ih => rw [spent, ih, spent, Nat.add_assoc]; rfl

theorem afterSucc (console : Console) (n : Nat) :
    console.after (n + 1) = (console.after n).advance.2 := by
  induction n generalizing console with
  | zero => rfl
  | succ n ih => exact ih console.advance.2

theorem runSliceChain (console : Console) (stats : FrameStats) (budget : Nat) :
    ∃ n, SliceOf console budget n ∧ console.runSlice stats budget =
      (⟨stats.cycles + console.spent n, stats.instructions + n⟩, console.after n) := by
  fun_induction runSlice console stats budget with
  | case1 console stats budget stop =>
    refine ⟨0, ⟨fun k below => absurd below k.not_lt_zero, ?_⟩, rfl⟩
    rcases stop with none | halted | failed
    · exact .inl (by omega)
    · exact .inr (by simp [after, stopped, halted])
    · exact .inr (by simp [after, stopped, failed])
  | case2 console stats budget go cycles next made shorter ih =>
    obtain ⟨n, chain, same⟩ := ih
    have first : console.advance = (cycles, next) := made
    refine ⟨n + 1, ⟨?_, ?_⟩, ?_⟩
    · intro k below
      cases k with
      | zero =>
        simp only [not_or, Bool.not_eq_true] at go
        exact ⟨by simp only [spent]; omega, by simp [after, stopped, go.2.1, go.2.2]⟩
      | succ k =>
        obtain ⟨less, goes⟩ := chain.running k (by omega)
        exact ⟨by simp only [spent, first]; omega, by simpa only [after, first] using goes⟩
    · rcases chain.ends with full | halts
      · exact .inl (by simp only [spent, first]; omega)
      · exact .inr (by simpa only [after, first] using halts)
    · rw [same]
      simp only [spent, after, first]
      congr 2 <;> omega

def sliceLength (console : Console) (budget : Nat) : Nat :=
  (console.runSlice {} budget).1.instructions

theorem sliceOfLength (console : Console) (budget : Nat) :
    SliceOf console budget (console.sliceLength budget) := by
  obtain ⟨n, chain, same⟩ := console.runSliceChain {} budget
  simpa [sliceLength, same] using chain

theorem sliceLengthSame {console console' : Console}
    (spends : ∀ n, console'.spent n = console.spent n)
    (stops : ∀ n, (console'.after n).stopped = (console.after n).stopped) (budget : Nat) :
    console'.sliceLength budget = console.sliceLength budget := by
  obtain ⟨running, ends⟩ := console.sliceOfLength budget
  have slice : SliceOf console' budget (console.sliceLength budget) := by
    refine ⟨fun k below => ?_, ?_⟩
    · rw [spends, stops]
      exact running k below
    · rw [spends, stops]
      exact ends
  exact (console'.sliceOfLength budget).unique slice

theorem runSliceEnd (console : Console) (stats : FrameStats) (budget : Nat) :
    console.runSlice stats budget =
      (⟨stats.cycles + console.spent (console.sliceLength budget),
        stats.instructions + console.sliceLength budget⟩,
        console.after (console.sliceLength budget)) := by
  obtain ⟨n, chain, same⟩ := console.runSliceChain stats budget
  rw [same, chain.unique (console.sliceOfLength budget)]

def sliceEnd (console : Console) (budget : Nat) : Console :=
  console.after (console.sliceLength budget)

def ready (console : Console) : Console :=
  { console with stepRequested := false }

def requestedCycles (console : Console) : Nat :=
  console.stepRequested.toNat

def blanked (console : Console) : Console :=
  (console.enterBlank {}).2

def blankCycles (console : Console) : Nat :=
  (console.enterBlank {}).1.cycles

theorem enterBlankParts (console : Console) (stats : FrameStats) :
    console.enterBlank stats =
      (⟨stats.cycles + console.blankCycles, stats.instructions⟩, console.blanked) := by
  unfold blankCycles blanked enterBlank
  obtain ⟨cpu, bus, config, paused, stepRequested, fault⟩ := console
  simp only
  split <;> simp

theorem runSliceNone (console : Console) (stats : FrameStats) :
    console.runSlice stats 0 = (stats, console) := by
  rw [runSlice, dif_pos (.inl rfl)]

def finish (console : Console) (change : Ppu → Ppu) : Console :=
  if console.fault.isSome then console else console.updatePpu change

theorem finishKeeps {α : Type} (view : Console → α) {console : Console} {change : Ppu → Ppu}
    (kept : view (console.updatePpu change) = view console) :
    view (console.finish change) = view console := by
  unfold finish
  split
  · rfl
  · exact kept

theorem reportFinish (console : Console) (stats : FrameStats) (change : Ppu → Ppu) :
    (if console.fault.isSome then report stats console
      else report stats (console.updatePpu change)) = report stats (console.finish change) := by
  unfold finish
  split <;> rfl

theorem requestedSlice (console : Console) :
    (if console.stepRequested then console.ready.runSlice {} 1 else ({}, console)) =
      (⟨console.ready.spent (console.ready.sliceLength console.requestedCycles),
        console.ready.sliceLength console.requestedCycles⟩,
        console.ready.sliceEnd console.requestedCycles) := by
  have slice : (if console.stepRequested then console.ready.runSlice {} 1 else ({}, console)) =
      console.ready.runSlice {} console.requestedCycles := by
    cases requested : console.stepRequested with
    | true => simp [requestedCycles, requested]
    | false =>
      have same : console.ready = console := by
        simp only [ready, ← requested]
      simp [requestedCycles, requested, runSliceNone, same]
  rw [slice, runSliceEnd]
  simp only [Nat.zero_add]
  rfl

theorem runPausedParts (console : Console) :
    console.runPaused =
      let n := console.ready.sliceLength console.requestedCycles
      let last := console.ready.sliceEnd console.requestedCycles
      report ⟨console.ready.spent n, n⟩ (last.finish Ppu.render) := by
  have slice := console.requestedSlice
  unfold ready at slice
  unfold runPaused
  rw [slice]
  exact reportFinish _ _ Ppu.render

theorem runBudgetParts (console : Console) (budget : Nat) :
    console.runBudget budget =
      let post := console.blankShare budget
      let m := console.sliceLength (budget - post)
      let before := console.sliceEnd (budget - post)
      let n := before.blanked.sliceLength post
      let last := before.blanked.sliceEnd post
      if before.fault.isSome then report ⟨console.spent m, m⟩ before
      else report ⟨console.spent m + before.blankCycles + before.blanked.spent n, m + n⟩
        (last.finish Ppu.endVblank) := by
  have first : console.runSlice {} (budget - console.blankShare budget) =
      (⟨console.spent (console.sliceLength (budget - console.blankShare budget)),
        console.sliceLength (budget - console.blankShare budget)⟩,
        console.sliceEnd (budget - console.blankShare budget)) := by
    rw [runSliceEnd]
    simp only [Nat.zero_add]
    rfl
  unfold runBudget
  simp only [first, enterBlankParts, runSliceEnd (blanked _)]
  split
  · rfl
  · exact reportFinish _ _ Ppu.endVblank

end Nes.Console
