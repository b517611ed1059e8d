import Nes.Proofs.Bus.Maps
import Nes.Proofs.Console.Session
import Nes.Proofs.Console.SingleStep

/-! The output of sound. The samples that the sound unit makes, their rate and when they are taken
reach nothing else: beside a console stands one whose output is another, and the two stay so
through every operation of a host. -/
namespace Nes

namespace Apu

def withOutput (apu : Apu) (output : Resampler) : Apu :=
  { apu with output }

variable (apu : Apu) (output : Resampler)

theorem beatWithOutput (beat : Beat) :
    (apu.withOutput output).beat beat = (apu.beat beat).withOutput output := by
  cases beat <;> rfl

theorem writeWithOutput (addr : UInt16) (value : UInt8) :
    (apu.withOutput output).write addr value = (apu.write addr value).withOutput output := by
  have frame : (apu.withOutput output).writeFrame value =
      (apu.writeFrame value).withOutput output :=
    beatWithOutput { apu with frame := (apu.frame.write value).2 } output (apu.frame.write value).1
  unfold write
  split <;> first | rfl | exact frame

theorem mapsOutput : Maps (·.withOutput output) where
  readStatus _ := rfl
  write apu addr value := apu.writeWithOutput output addr value

theorem cycleWithOutput :
    ∃ output', (apu.withOutput output).cycle = apu.cycle.withOutput output' := by
  have clocked : (apu.withOutput output).clockFrame.clockTimers =
      apu.clockFrame.clockTimers.withOutput output :=
    congrArg clockTimers
      (beatWithOutput { apu with frame := apu.frame.clock.2 } output apu.frame.clock.1)
  refine ⟨(apu.withOutput output).cycle.output, ?_⟩
  unfold cycle
  rw [clocked]
  simp only
  split <;> split <;> rfl

theorem tickWithOutput (cycles : Nat) :
    ∃ output', (apu.withOutput output).tick cycles = (apu.tick cycles).withOutput output' := by
  induction cycles generalizing apu output with
  | zero => exact ⟨output, rfl⟩
  | succ n ih =>
    obtain ⟨next, same⟩ := apu.cycleWithOutput output
    rw [tick, same, tick]
    exact ih apu.cycle next

end Apu

namespace Bus

def withOutput (bus : Bus) (output : Resampler) : Bus :=
  { bus with apu := bus.apu.withOutput output }

theorem mapOutput (output : Resampler) : DeviceMap fun bus : Bus => bus.withOutput output :=
  mapDevice Video.mapsId (Apu.mapsOutput output)

theorem tickWithOutput (bus : Bus) (output : Resampler) (cycles : Nat) :
    ∃ output', (bus.withOutput output).tick cycles = (bus.tick cycles).withOutput output' := by
  obtain ⟨output', same⟩ := bus.apu.tickWithOutput output cycles
  exact ⟨output', congrArg (fun apu => { bus with apu }) same⟩

end Bus

namespace Console

def withOutput (console : Console) (sampleRate : Nat) (output : Resampler) : Console :=
  { console with
    config := { console.config with sampleRate }
    bus := console.bus.withOutput output }

variable (console : Console) (sampleRate : Nat) (output : Resampler)

theorem advanceWithOutput :
    ∃ output', (console.withOutput sampleRate output).advance =
      (console.advance.1, console.advance.2.withOutput sampleRate output') := by
  obtain ⟨cycles, interrupted⟩ := @interruptedMap _ (Bus.mapOutput output) (fun _ => rfl) console
    (console.withOutput sampleRate output) rfl rfl
  obtain ⟨output', ticked⟩ := console.interrupted.2.2.tickWithOutput output
    ((console.cpu.step console.bus).1 + console.interrupted.1)
  refine ⟨output', ?_⟩
  rw [advanceParts, advanceParts, interrupted, cycles]
  simp only [ticked]
  rfl

theorem spentWithOutput (n : Nat) :
    (console.withOutput sampleRate output).spent n = console.spent n := by
  induction n generalizing console output with
  | zero => rfl
  | succ n ih =>
    obtain ⟨output', same⟩ := console.advanceWithOutput sampleRate output
    rw [spent, same, ih, spent]

theorem afterWithOutput (n : Nat) :
    ∃ output', (console.withOutput sampleRate output).after n =
      (console.after n).withOutput sampleRate output' := by
  induction n generalizing console output with
  | zero => exact ⟨output, rfl⟩
  | succ n ih =>
    obtain ⟨output', same⟩ := console.advanceWithOutput sampleRate output
    rw [after, same, after]
    exact ih console.advance.2 output'

theorem sliceLengthWithOutput (budget : Nat) :
    (console.withOutput sampleRate output).sliceLength budget = console.sliceLength budget := by
  refine sliceLengthSame (console.spentWithOutput sampleRate output) (fun n => ?_) budget
  obtain ⟨output', same⟩ := console.afterWithOutput sampleRate output n
  rw [same]
  rfl

theorem sliceEndWithOutput (budget : Nat) :
    ∃ output', (console.withOutput sampleRate output).sliceEnd budget =
      (console.sliceEnd budget).withOutput sampleRate output' := by
  rw [sliceEnd, sliceLengthWithOutput]
  exact console.afterWithOutput sampleRate output _

theorem blankedWithOutput :
    (console.withOutput sampleRate output).blankCycles = console.blankCycles ∧
      ∃ output', (console.withOutput sampleRate output).blanked =
        console.blanked.withOutput sampleRate output' := by
  let other := console.withOutput sampleRate output
  let begun := console.bus.receive .beginVblank
  have entered : other.cpu.requestNmi (other.bus.receive .beginVblank) =
      ((console.cpu.requestNmi begun).1, (console.cpu.requestNmi begun).2.1,
        (console.cpu.requestNmi begun).2.2.withOutput output) :=
    (Bus.mapOutput output).spend console.cpu _ begun
  cases wanted : begun.video.ppu.wantsNmi with
  | true =>
    obtain ⟨cycles, blanked⟩ := blankedNmi wanted
    obtain ⟨cycles', blanked'⟩ := @blankedNmi other wanted
    obtain ⟨output', ticked⟩ := (console.cpu.requestNmi begun).2.2.tickWithOutput output
      (console.cpu.requestNmi begun).1
    rw [entered] at cycles' blanked'
    refine ⟨cycles'.trans cycles.symm, output', ?_⟩
    rw [blanked', blanked]
    simp only [ticked]
    rfl
  | false =>
    obtain ⟨cycles, blanked⟩ := blankedQuiet wanted
    obtain ⟨cycles', blanked'⟩ := @blankedQuiet other wanted
    refine ⟨cycles'.trans cycles.symm, output, ?_⟩
    rw [blanked', blanked]
    rfl

theorem finishWithOutput (change : Ppu → Ppu) :
    (console.withOutput sampleRate output).finish change =
      (console.finish change).withOutput sampleRate output := by
  unfold finish
  change (if console.fault.isSome then _ else _) = _
  split <;> rfl

theorem reportWithOutput (stats : FrameStats) :
    report stats (console.withOutput sampleRate output) =
      ((report stats console).1, (report stats console).2.withOutput sampleRate output) := by
  have failed : (console.withOutput sampleRate output).fault = console.fault := rfl
  rw [reportConsole]
  exact Prod.ext (reportSame failed stats) (reportConsole stats _)

theorem runPausedWithOutput :
    ∃ output', (console.withOutput sampleRate output).runPaused =
      (console.runPaused.1, console.runPaused.2.withOutput sampleRate output') := by
  have ready : (console.withOutput sampleRate output).ready =
      console.ready.withOutput sampleRate output := rfl
  have cycles : (console.withOutput sampleRate output).requestedCycles =
      console.requestedCycles := rfl
  obtain ⟨output', ends⟩ :=
    console.ready.sliceEndWithOutput sampleRate output console.requestedCycles
  refine ⟨output', ?_⟩
  rw [runPausedParts, runPausedParts]
  simp only [ready, cycles, sliceLengthWithOutput, spentWithOutput, ends, finishWithOutput]
  exact reportWithOutput _ sampleRate output' _

theorem runBudgetWithOutput (budget : Nat) :
    ∃ output', (console.withOutput sampleRate output).runBudget budget =
      ((console.runBudget budget).1,
        (console.runBudget budget).2.withOutput sampleRate output') := by
  have share : (console.withOutput sampleRate output).blankShare budget =
      console.blankShare budget := rfl
  rw [runBudgetParts, runBudgetParts, share]
  generalize console.blankShare budget = post
  obtain ⟨output₁, first⟩ := console.sliceEndWithOutput sampleRate output (budget - post)
  simp only [first, sliceLengthWithOutput, spentWithOutput]
  generalize console.sliceEnd (budget - post) = before
  obtain ⟨cycles, output₂, blanked⟩ := before.blankedWithOutput sampleRate output₁
  obtain ⟨output₃, last⟩ := before.blanked.sliceEndWithOutput sampleRate output₂ post
  have fault : (before.withOutput sampleRate output₁).fault = before.fault := rfl
  simp only [fault, cycles, blanked, last, sliceLengthWithOutput, spentWithOutput,
    finishWithOutput]
  -- After a fault in the first slice no blank begins, and so the output stays as it was then.
  cases before.fault.isSome with
  | true => exact ⟨output₁, reportWithOutput _ sampleRate output₁ _⟩
  | false => exact ⟨output₃, reportWithOutput _ sampleRate output₃ _⟩

theorem runFrameWithOutput (elapsed : Duration) :
    ∃ output', (console.withOutput sampleRate output).runFrame elapsed =
      ((console.runFrame elapsed).1,
        (console.runFrame elapsed).2.withOutput sampleRate output') := by
  have failed : (console.withOutput sampleRate output).fault = console.fault := rfl
  have inserted : (console.withOutput sampleRate output).bus.video.cart =
      console.bus.video.cart := rfl
  have paused : (console.withOutput sampleRate output).paused = console.paused := rfl
  unfold runFrame
  rw [failed, inserted, paused]
  split
  · exact ⟨output, rfl⟩
  · exact ⟨output, rfl⟩
  · split
    · exact console.runPausedWithOutput sampleRate output
    · exact console.runBudgetWithOutput sampleRate output (console.budget elapsed)

theorem insertWithOutput (cart : Cartridge) :
    (console.withOutput sampleRate output).insert cart =
      (console.insert cart).withOutput sampleRate output.restart := by
  have reset := (Bus.mapOutput output.restart).run Registers.restart (console.bus.powerOn cart)
  have powered : (console.bus.withOutput output).powerOn cart =
      (console.bus.powerOn cart).withOutput output.restart := rfl
  unfold insert Cpu.reset
  rw [show (console.withOutput sampleRate output).bus = console.bus.withOutput output from rfl,
    powered, reset]
  rfl

theorem loadWithOutput (cart : Except LoadError Cartridge) :
    ∃ output', (console.withOutput sampleRate output).load cart =
      ((console.load cart).1, (console.load cart).2.withOutput sampleRate output') := by
  cases cart with
  | error e => exact ⟨output, rfl⟩
  | ok cart => exact ⟨output.restart, congrArg (none, ·) (console.insertWithOutput _ output cart)⟩

inductive Result where
  | load (failed : Option LoadError)
  | frame (result : Except FrameError FrameStats)

def result (console : Console) : Operation → Option Result
  | .loadBytes data => some (.load (console.loadBytes data).1)
  | .loadFile contents => some (.load (console.loadFile contents).1)
  | .runFrame elapsed => some (.frame (console.runFrame elapsed).1)
  | .insert _ | .setPaused _ | .requestStep | .hold _ | .drainSamples => none

def results (console : Console) : List Operation → List Result
  | [] => []
  | operation :: rest =>
    (console.result operation).toList ++ (console.perform operation).results rest

def undrained (operations : List Operation) : List Operation :=
  operations.filter fun operation => !operation.drains

theorem performWithOutput (operation : Operation) :
    (console.withOutput sampleRate output).result operation = console.result operation ∧
      ∃ output', (console.withOutput sampleRate output).perform operation =
        (console.perform operation).withOutput sampleRate output' := by
  cases operation with
  | loadBytes data =>
    obtain ⟨output', same⟩ := console.loadWithOutput sampleRate output (Cartridge.ofBytes data)
    have told := congrArg Prod.fst same
    exact ⟨congrArg (some ∘ Result.load) told, output', congrArg Prod.snd same⟩
  | loadFile contents =>
    obtain ⟨output', same⟩ := console.loadWithOutput sampleRate output (Cartridge.ofFile contents)
    have told := congrArg Prod.fst same
    exact ⟨congrArg (some ∘ Result.load) told, output', congrArg Prod.snd same⟩
  | insert cart => exact ⟨rfl, output.restart, console.insertWithOutput sampleRate output cart⟩
  | runFrame elapsed =>
    obtain ⟨output', same⟩ := console.runFrameWithOutput sampleRate output elapsed
    have told := congrArg Prod.fst same
    exact ⟨congrArg (some ∘ Result.frame) told, output', congrArg Prod.snd same⟩
  | setPaused | requestStep | hold => exact ⟨rfl, output, rfl⟩
  | drainSamples => exact ⟨rfl, output.drain.2, rfl⟩

theorem performDrains {operation : Operation} (drains : operation.drains = true) :
    (console.withOutput sampleRate output).result operation = none ∧
      (console.withOutput sampleRate output).perform operation =
        console.withOutput sampleRate output.drain.2 := by
  cases operation with
  | drainSamples => exact ⟨rfl, rfl⟩
  | _ => cases drains

theorem performAllUndrained (operations : List Operation) :
    (console.withOutput sampleRate output).results operations =
        console.results (undrained operations) ∧
      ∃ output', operations.foldl perform (console.withOutput sampleRate output) =
        ((undrained operations).foldl perform console).withOutput sampleRate output' := by
  induction operations generalizing console output with
  | nil => exact ⟨rfl, output, rfl⟩
  | cons operation rest ih =>
    cases drains : operation.drains with
    | true =>
      obtain ⟨quiet, same⟩ := console.performDrains sampleRate output drains
      have skipped : undrained (operation :: rest) = undrained rest :=
        List.filter_cons_of_neg (by simp [drains])
      rw [results, List.foldl_cons, skipped, quiet, same]
      exact ih console output.drain.2
    | false =>
      obtain ⟨result, output', same⟩ := console.performWithOutput sampleRate output operation
      have taken : undrained (operation :: rest) = operation :: undrained rest :=
        List.filter_cons_of_pos (by simp [drains])
      rw [results, List.foldl_cons, taken, result, same, results, List.foldl_cons]
      obtain ⟨told, ends⟩ := ih (console.perform operation) output'
      exact ⟨congrArg (_ ++ ·) told, ends⟩

/-- Two sessions of the same operations, apart from samples taken and from the rate of the samples:
they tell the host the same, and their consoles differ in the output of the sound unit only. -/
theorem outputUnheard (config : Config) (sampleRate : Nat) {operations operations' : List Operation}
    (same : undrained operations = undrained operations') :
    let console := session config operations
    (new { config with sampleRate }).results operations' = (new config).results operations ∧
      ∃ output, session { config with sampleRate } operations' = { console with
        config := { console.config with sampleRate }
        bus := { console.bus with apu := { console.bus.apu with output } } } := by
  intro console
  obtain ⟨told, output, ends⟩ := (new config).performAllUndrained config.sampleRate
    (new config).bus.apu.output operations
  obtain ⟨told', output', ends'⟩ := (new config).performAllUndrained sampleRate
    (new { config with sampleRate }).bus.apu.output operations'
  refine ⟨told'.trans (same ▸ told.symm), output', ?_⟩
  have here : console = ((undrained operations).foldl perform (new config)).withOutput
      config.sampleRate output := ends
  have there : session { config with sampleRate } operations' =
      ((undrained operations').foldl perform (new config)).withOutput sampleRate output' := ends'
  rw [there, here, same]
  rfl

theorem outputUnheardDrained :
    let fast : Config := { sampleRate := 1000000 }
    let operations := [.insert emptyCartridge, .runFrame ⟨0, 5000⟩, .runFrame ⟨0, 5000⟩]
    let operations' := [.drainSamples, .insert emptyCartridge, .runFrame ⟨0, 5000⟩, .drainSamples,
      .runFrame ⟨0, 5000⟩]
    let console := session {} operations
    let console' := session fast operations'
    undrained operations = undrained operations' ∧
      console.cpu.totalCycles = 28 ∧ console.bus.apu.output.samples.size = 0 ∧
      console'.bus.apu.output.samples.size = 8 ∧
      (new fast).results operations' = (new {}).results operations ∧
      ∃ output, console' = { console with
        config := { console.config with sampleRate := 1000000 }
        bus := { console.bus with apu := { console.bus.apu with output } } } := by
  intro fast operations operations' console console'
  have same : undrained operations = undrained operations' := rfl
  have ran : console.cpu.totalCycles = 28 := by decide +kernel
  have silent : console.bus.apu.output.samples.size = 0 := by decide +kernel
  have kept : console'.bus.apu.output.samples.size = 8 := by decide +kernel
  exact ⟨same, ran, silent, kept, outputUnheard {} 1000000 same⟩

end Console
end Nes
