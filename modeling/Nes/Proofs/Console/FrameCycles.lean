import Nes.Proofs.Console.Timeline
import Nes.Proofs.Cpu.Cycles

/-! The three counts of cycles: of the processor, of the sound unit and of the frame. They agree,
and a frame that is not cut short spends its budget and little more. -/
namespace Nes.Console

theorem interruptedCases (console : Console) :
    let stepped := (console.cpu.step console.bus).2
    console.interrupted = (0, stepped) ∨
      console.interrupted = stepped.1.requestInterrupt stepped.2 := by
  unfold interrupted
  obtain ⟨cycles, cpu, bus⟩ := console.cpu.step console.bus
  by_cases pending : bus.apu.irqPending
  · exact .inr (if_pos pending)
  · exact .inl (if_neg pending)

theorem interruptedTotal (console : Console) :
    console.interrupted.2.1.totalCycles =
      console.cpu.totalCycles + (console.cpu.step console.bus).1 + console.interrupted.1 := by
  have stepped : (console.cpu.step console.bus).2.1.totalCycles = _ :=
    console.cpu.spendTotal Registers.instruction console.bus
  rcases console.interruptedCases with quiet | requested
  · rw [quiet]
    exact stepped
  · rw [requested, Cpu.requestInterruptTotal, stepped]
    rfl

theorem interruptedAtMost (console : Console) : console.interrupted.1 ≤ 7 := by
  rcases console.interruptedCases with quiet | requested
  · rw [quiet]
    exact Nat.zero_le 7
  · rw [requested]
    exact Cpu.requestInterruptAtMost _ _

theorem interruptedHalted {console : Console} (halted : console.cpu.registers.halted = true) :
    console.interrupted.2.1 = console.cpu := by
  have idle : console.cpu.step console.bus = (0, console.cpu, console.bus) :=
    Cpu.spendHalted halted Registers.instruction console.bus
  rcases console.interruptedCases with quiet | requested
  · rw [quiet, idle]
  · rw [requested, idle, Cpu.requestInterruptHalted halted]

theorem advanceTotal (console : Console) :
    console.advance.2.cpu.totalCycles = console.cpu.totalCycles + console.advance.1 := by
  rw [advanceParts]
  simp only
  rw [interruptedTotal, Nat.add_assoc]

theorem advanceTicked (console : Console) :
    ticked console.advanceSignals = console.advance.1 := by
  rw [advanceSignals, tickedAppend, tickedAccesses, Nat.zero_add]
  rfl

theorem advanceAtMost (console : Console) : console.advance.1 ≤ 15 := by
  have stepped := console.cpu.stepAtMost console.bus
  have entered := console.interruptedAtMost
  rw [advanceParts]
  simp only
  omega

theorem advanceAtLeast {console : Console} (goes : console.stopped = false) :
    2 ≤ console.advance.1 := by
  have running : console.cpu.registers.halted = false := (Bool.or_eq_false_iff.mp goes).1
  have stepped := (Cpu.stepBounds running console.bus).1
  rw [advanceParts]
  exact Nat.le_add_right_of_le stepped

theorem advanceHalted {console : Console} (halted : console.cpu.registers.halted = true) :
    console.advance.2.cpu.registers.halted = true := by
  rw [advanceParts]
  simp only
  rw [interruptedHalted halted, halted]

theorem afterTotal (console : Console) (n : Nat) :
    (console.after n).cpu.totalCycles = console.cpu.totalCycles + console.spent n := by
  induction n with
  | zero => rfl
  | succ n ih => rw [afterSucc, spentSucc, advanceTotal, ih, Nat.add_assoc]

theorem signalsTicked (console : Console) (n : Nat) :
    ticked (console.signals n) = console.spent n := by
  induction n generalizing console with
  | zero => rfl
  | succ n ih => rw [signals, tickedAppend, advanceTicked, ih, spent]

theorem afterHalted {console : Console} (halted : console.cpu.registers.halted = true) (n : Nat) :
    (console.after n).cpu.registers.halted = true := by
  induction n with
  | zero => exact halted
  | succ n ih =>
    rw [afterSucc]
    exact advanceHalted ih

theorem spentAtLeast {console : Console} {n : Nat}
    (goes : ∀ k < n, (console.after k).stopped = false) : 2 * n ≤ console.spent n := by
  induction n with
  | zero => exact Nat.zero_le _
  | succ n ih =>
    have before := ih fun k below => goes k (Nat.lt_succ_of_lt below)
    have last := advanceAtLeast (goes n (Nat.lt_succ_self n))
    rw [spentSucc]
    omega

namespace SliceOf
variable {console : Console} {budget n : Nat}

theorem bounds (chain : SliceOf console budget n) :
    2 * n ≤ budget + 1 ∧ console.spent n ≤ budget + 14 := by
  cases n with
  | zero => exact ⟨Nat.zero_le _, Nat.zero_le _⟩
  | succ k =>
    -- All instructions but the last fit into the budget.
    have fits := (chain.running k (Nat.lt_succ_self k)).1
    have before : 2 * k ≤ console.spent k := spentAtLeast fun j below =>
      (chain.running j (Nat.lt_succ_of_lt below)).2
    have last := (console.after k).advanceAtMost
    rw [spentSucc]
    omega

theorem full (chain : SliceOf console budget n) (goes : (console.after n).stopped = false) :
    budget ≤ console.spent n := by
  rcases chain.ends with full | halts
  · exact full
  · simp [goes] at halts

end SliceOf

theorem sliceFull {console : Console} {budget : Nat}
    (running : (console.sliceEnd budget).cpu.registers.halted = false)
    (passed : (console.sliceEnd budget).fault = none) :
    budget ≤ console.spent (console.sliceLength budget) := by
  apply (console.sliceOfLength budget).full
  rw [← sliceEnd, stopped, running, passed]
  rfl

theorem blankedTotal (console : Console) :
    console.blanked.cpu.totalCycles = console.cpu.totalCycles + console.blankCycles := by
  cases wanted : (console.bus.receive .beginVblank).video.ppu.wantsNmi with
  | true =>
    rw [(blankedNmi wanted).2, (blankedNmi wanted).1]
    exact console.cpu.spendTotal _ _
  | false =>
    rw [(blankedQuiet wanted).2, (blankedQuiet wanted).1]
    rfl

theorem blankTicked (console : Console) : ticked console.blankSignals = console.blankCycles := by
  cases wanted : (console.bus.receive .beginVblank).video.ppu.wantsNmi with
  | true =>
    simp only [blankSignals, wanted, if_true]
    rw [(blankedNmi wanted).1, ticked, tickedAppend, tickedAccesses]
    simp [ticked, Signal.cycles]
  | false =>
    simp only [blankSignals, wanted, Bool.false_eq_true, if_false]
    rw [(blankedQuiet wanted).1]
    rfl

theorem blankAtMost (console : Console) : console.blankCycles ≤ 7 := by
  cases wanted : (console.bus.receive .beginVblank).video.ppu.wantsNmi with
  | true =>
    rw [(blankedNmi wanted).1]
    exact console.cpu.interruptAtMost _ _
  | false =>
    rw [(blankedQuiet wanted).1]
    exact Nat.zero_le 7

theorem blankedHalted {console : Console} (halted : console.cpu.registers.halted = true) :
    console.blanked.cpu.registers.halted = true := by
  cases wanted : (console.bus.receive .beginVblank).video.ppu.wantsNmi with
  | true =>
    rw [(blankedNmi wanted).2]
    simp only [Cpu.requestNmi, Cpu.spendHalted halted, halted]
  | false =>
    rw [(blankedQuiet wanted).2]
    exact halted

theorem reportOk {console final : Console} {stats stats' : FrameStats}
    (done : report stats console = (.ok stats', final)) :
    stats = stats' ∧ console = final ∧ console.fault = none := by
  unfold report at done
  cases failed : console.fault with
  | some cause => simp [failed] at done
  | none =>
    simp only [failed, Prod.mk.injEq, Except.ok.injEq] at done
    exact ⟨done.1, done.2, rfl⟩

theorem finishCpu (console : Console) (change : Ppu → Ppu) :
    (console.finish change).cpu = console.cpu :=
  finishKeeps cpu rfl

theorem finishFault (console : Console) (change : Ppu → Ppu) :
    (console.finish change).fault = console.fault :=
  finishKeeps fault rfl

theorem sliceTicked (console : Console) (budget : Nat) :
    ticked (console.sliceSignals budget) = console.spent (console.sliceLength budget) :=
  console.signalsTicked _

theorem tickedFinish (console : Console) (signal : Signal) (silent : signal.cycles = 0) :
    ticked (if console.fault.isSome then [] else [signal]) = 0 := by
  split
  · rfl
  · simp [ticked, silent]

theorem pausedCounts {console final : Console} {stats : FrameStats}
    (done : console.runPaused = (.ok stats, final)) :
    final.cpu.totalCycles = console.cpu.totalCycles + stats.cycles ∧
      ticked console.pausedSignals = stats.cycles := by
  rw [runPausedParts] at done
  obtain ⟨rfl, rfl, -⟩ := reportOk done
  refine ⟨?_, ?_⟩
  · rw [finishCpu]
    exact console.ready.afterTotal _
  · rw [pausedSignals, tickedAppend, sliceTicked, tickedFinish _ _ rfl]
    rfl

theorem budgetOk {console final : Console} {budget : Nat} {stats : FrameStats}
    (done : console.runBudget budget = (.ok stats, final)) :
    let post := console.blankShare budget
    let m := console.sliceLength (budget - post)
    let before := console.sliceEnd (budget - post)
    let n := before.blanked.sliceLength post
    let last := before.blanked.sliceEnd post
    before.fault = none ∧ last.fault = none ∧
      stats = ⟨console.spent m + before.blankCycles + before.blanked.spent n, m + n⟩ ∧
      final = last.finish Ppu.endVblank := by
  intro post m before n last
  rw [runBudgetParts] at done
  simp only at done
  split at done
  · rename_i failed
    obtain ⟨-, -, none⟩ := reportOk done
    simp [none] at failed
  · rename_i passed
    obtain ⟨same, ends, none⟩ := reportOk done
    exact ⟨by simpa using passed, by simpa [finishFault] using none, same.symm, ends.symm⟩

theorem budgetCounts {console final : Console} {budget : Nat} {stats : FrameStats}
    (done : console.runBudget budget = (.ok stats, final)) :
    final.cpu.totalCycles = console.cpu.totalCycles + stats.cycles ∧
      ticked (console.budgetSignals budget) = stats.cycles := by
  obtain ⟨passed, -, rfl, rfl⟩ := budgetOk done
  refine ⟨?_, ?_⟩
  · rw [finishCpu, sliceEnd, afterTotal, blankedTotal, sliceEnd, afterTotal]
    simp only
    omega
  · unfold budgetSignals
    simp only [passed, Option.isSome_none, Bool.false_eq_true, if_false, tickedAppend, sliceTicked,
      blankTicked, tickedFinish _ _ (show Signal.endVblank.cycles = 0 from rfl)]
    omega

theorem budgetBounds {console final : Console} {budget : Nat} {stats : FrameStats}
    (done : console.runBudget budget = (.ok stats, final))
    (running : final.cpu.registers.halted = false) :
    budget ≤ stats.cycles ∧
      (console.blankShare budget ≤ budget → stats.cycles ≤ budget + 35) := by
  obtain ⟨passed, ended, rfl, rfl⟩ := budgetOk done
  rw [finishCpu] at running
  generalize made : console.sliceEnd (budget - console.blankShare budget) = before at *
  have first := console.sliceOfLength (budget - console.blankShare budget)
  have second := before.blanked.sliceOfLength (console.blankShare budget)
  have blanked : before.blanked.cpu.registers.halted = false :=
    Bool.eq_false_iff.mpr fun halted => by simp [sliceEnd, afterHalted halted] at running
  have sliced : before.cpu.registers.halted = false :=
    Bool.eq_false_iff.mpr fun halted => by simp [blankedHalted halted] at blanked
  have firstFull : budget - console.blankShare budget ≤ _ :=
    sliceFull (by rw [made, sliced]) (by rw [made, passed])
  have secondFull : console.blankShare budget ≤ _ := sliceFull running ended
  have entry := before.blankAtMost
  have firstBound := first.bounds.2
  have secondBound := second.bounds.2
  simp only
  omega

theorem runSliceBounds (console : Console) (stats : FrameStats) (budget : Nat) :
    (console.runSlice stats budget).1.instructions ≤ stats.instructions + (budget + 1) / 2 ∧
      (console.runSlice stats budget).1.cycles ≤ stats.cycles + budget + 14 := by
  have chain := (console.sliceOfLength budget).bounds
  rw [runSliceEnd]
  simp only
  omega

theorem frameOk {console final : Console} {elapsed : Duration} {stats : FrameStats}
    (done : console.runFrame elapsed = (.ok stats, final)) :
    console.paused = true ∧ console.runPaused = (.ok stats, final) ∧
        console.frameSignals elapsed = console.pausedSignals ∨
      console.paused = false ∧ console.runBudget (console.budget elapsed) = (.ok stats, final) ∧
        console.frameSignals elapsed = console.budgetSignals (console.budget elapsed) := by
  unfold runFrame at done
  cases failed : console.fault with
  | some cause => simp [failed] at done
  | none =>
    cases inserted : console.bus.video.cart with
    | none => simp [failed, inserted] at done
    | some cart =>
      simp only [failed, inserted] at done
      cases held : console.paused with
      | true =>
        rw [if_pos held] at done
        exact .inl ⟨rfl, done, by simp [frameSignals, failed, inserted, held]⟩
      | false =>
        rw [if_neg (by simp [held])] at done
        exact .inr ⟨rfl, done, by simp [frameSignals, failed, inserted, held]⟩

/-- An instruction takes two to eight cycles. A slice has at most half as many instructions as
cycles and spends at most 14 more. The processor, the sound unit and the report of a frame count
the same cycles. The frame of a running console spends its budget and at most 35 more. -/
theorem cyclesConserved :
    (∀ (σ : Type) [Device σ] (cpu : Cpu) (bus : σ), cpu.registers.halted = false →
      2 ≤ (cpu.step bus).1 ∧ (cpu.step bus).1 ≤ 8) ∧
    (∀ (console : Console) (stats : FrameStats) (budget : Nat),
      (console.runSlice stats budget).1.instructions ≤ stats.instructions + (budget + 1) / 2 ∧
        (console.runSlice stats budget).1.cycles ≤ stats.cycles + budget + 14) ∧
    (∀ (bus : Bus) (cycles : Nat),
      bus.receive (.tick cycles) = { bus with apu := bus.apu.tick cycles }) ∧
    ∀ (console final : Console) (elapsed : Duration) (stats : FrameStats),
      console.runFrame elapsed = (.ok stats, final) →
        final.cpu.totalCycles = console.cpu.totalCycles + stats.cycles ∧
        final.bus = console.bus.play (console.frameSignals elapsed) ∧
        ticked (console.frameSignals elapsed) = stats.cycles ∧
        (console.paused = false → final.cpu.registers.halted = false →
          console.budget elapsed ≤ stats.cycles ∧
          (console.blankShare (console.budget elapsed) ≤ console.budget elapsed →
            stats.cycles ≤ console.budget elapsed + 35)) := by
  refine ⟨fun σ _ cpu bus running => Cpu.stepBounds running bus, runSliceBounds,
    fun _ _ => rfl, ?_⟩
  intro console final elapsed stats done
  have replayed := console.replayFrame elapsed
  rw [done] at replayed
  rcases frameOk done with ⟨held, paused, signals⟩ | ⟨held, paced, signals⟩
  · obtain ⟨total, sound⟩ := pausedCounts paused
    refine ⟨total, replayed.symm, signals ▸ sound, fun runs => ?_⟩
    simp [held] at runs
  · obtain ⟨total, sound⟩ := budgetCounts paced
    exact ⟨total, replayed.symm, signals ▸ sound, fun _ => budgetBounds paced⟩

def briefConsole : Console where
  bus := {
    video := {
      ppu := { ctrl := 0x80 }
      cart := some {
        prg := #[], chr := .rom #[], prgBanks := 1, chrBanks := 1, mapper := 0
        mirroring := .vertical } }
    apu := .standard }
  config := { maxCyclesPerStep := 1 }

theorem cyclesConservedBriefly :
    (2 ≤ (briefConsole.cpu.step briefConsole.bus).1 ∧
        (briefConsole.cpu.step briefConsole.bus).1 ≤ 8) ∧
      briefConsole.runFrame ⟨1, 0⟩ = (.ok ⟨14, 1⟩, (briefConsole.runFrame ⟨1, 0⟩).2) ∧
      ticked (briefConsole.frameSignals ⟨1, 0⟩) = 14 ∧
      (briefConsole.runFrame ⟨1, 0⟩).2.cpu.totalCycles = briefConsole.cpu.totalCycles + 14 ∧
      briefConsole.budget ⟨1, 0⟩ ≤ 14 ∧ 14 ≤ briefConsole.budget ⟨1, 0⟩ + 35 := by
  have counted : (briefConsole.runFrame ⟨1, 0⟩).1.toOption = some ⟨14, 1⟩ := by
    decide +kernel
  have reported : (briefConsole.runFrame ⟨1, 0⟩).1 = .ok ⟨14, 1⟩ := by
    cases result : (briefConsole.runFrame ⟨1, 0⟩).1 with
    | error cause => simp [result, Except.toOption] at counted
    | ok stats => simpa [result, Except.toOption] using counted
  have done : briefConsole.runFrame ⟨1, 0⟩ =
      (.ok ⟨14, 1⟩, (briefConsole.runFrame ⟨1, 0⟩).2) :=
    Prod.ext reported rfl
  have running : (briefConsole.runFrame ⟨1, 0⟩).2.cpu.registers.halted = false := by
    decide +kernel
  have share : briefConsole.blankShare (briefConsole.budget ⟨1, 0⟩) ≤
      briefConsole.budget ⟨1, 0⟩ := by
    decide +kernel
  obtain ⟨steps, -, -, frames⟩ := cyclesConserved
  obtain ⟨total, -, sound, bounds⟩ := frames _ _ _ _ done
  obtain ⟨least, most⟩ := bounds rfl running
  exact ⟨steps Bus briefConsole.cpu briefConsole.bus rfl, done, sound, total, least, most share⟩

end Nes.Console
