import Nes.Proofs.Bus.History
import Nes.Proofs.Bus.Pictures
import Nes.Proofs.Console.Session
import Nes.Proofs.Console.Steady

/-! Single steps. A paused console that is asked for a step before every frame runs the same
instructions as a free one, up to the same halt or fault. Only the pictures differ, which the
paused console draws in every frame. -/
namespace Nes.Console

theorem afterInserted {console : Console} (inserted : console.bus.video.cart.isSome = true)
    (n : Nat) : (console.after n).bus.video.cart.isSome = true := by
  rw [← replaySignals]
  exact Bus.playVideo Video.keptInserted inserted _

def besides (console : Console) (requested : Bool) (p : Pictures) : Console :=
  { console with
    paused := true
    stepRequested := requested
    bus := console.bus.withPictures p }

variable (console : Console) (requested : Bool) (p : Pictures)

theorem advanceBesides :
    (console.besides requested p).advance =
      (console.advance.1, console.advance.2.besides requested p) := by
  have line (bus : Bus) : (bus.withPictures p).apu.irqPending = bus.apu.irqPending := rfl
  obtain ⟨cycles, interrupted⟩ := @interruptedMap _ (Bus.mapPictures p) line console
    (console.besides requested p) rfl rfl
  rw [advanceParts, advanceParts, interrupted, cycles]
  rfl

theorem finishBesides :
    ∃ p', (console.besides requested p).finish Ppu.render = console.besides requested p' := by
  unfold finish
  split
  · exact ⟨p, rfl⟩
  · refine ⟨(console.bus.video.ppu.withPictures p).render.pictures, ?_⟩
    have drawn := (console.bus.video.ppu.withPictures p).renderPictures
    exact congrArg (fun ppu => (console.besides requested p).updatePpu fun _ => ppu) drawn

theorem reportBesides (stats : FrameStats) :
    report stats (console.besides requested p) =
      ((report stats console).1, console.besides requested p) := by
  have failed : (console.besides requested p).fault = console.fault := rfl
  exact Prod.ext (reportSame failed stats) (reportConsole stats _)

variable {console}

theorem sliceLengthOne (goes : console.stopped = false) : console.sliceLength 1 = 1 := by
  have running : console.cpu.registers.halted = false := (Bool.or_eq_false_iff.mp goes).1
  have one : SliceOf console 1 1 := by
    refine ⟨?_, .inl ?_⟩
    · intro k below
      obtain rfl : k = 0 := Nat.lt_one_iff.mp below
      exact ⟨Nat.zero_lt_one, goes⟩
    · exact advancePos running
  exact (console.sliceOfLength 1).unique one

theorem runPausedStep (requested : console.stepRequested = true)
    (goes : console.stopped = false) :
    console.runPaused =
      report ⟨console.ready.advance.1, 1⟩ (console.ready.advance.2.finish Ppu.render) := by
  have length : console.ready.sliceLength 1 = 1 := sliceLengthOne goes
  have cycles : console.requestedCycles = 1 := by
    rw [requestedCycles, requested]
    rfl
  rw [runPausedParts]
  simp only [cycles, sliceEnd, length, spent, Nat.add_zero]
  rfl

theorem runFramePaused (clear : console.fault = none)
    (inserted : console.bus.video.cart.isSome = true) (paused : console.paused = true)
    (elapsed : Duration) : console.runFrame elapsed = console.runPaused := by
  obtain ⟨cart, present⟩ := Option.isSome_iff_exists.mp inserted
  unfold runFrame
  rw [clear, present]
  exact if_pos paused

theorem requestedFrame (goes : console.stopped = false)
    (inserted : console.bus.video.cart.isSome = true) (elapsed : Duration) :
    ∃ p', (console.besides requested p).requestStep.runFrame elapsed =
      ((report ⟨console.advance.1, 1⟩ console.advance.2).1,
        console.advance.2.besides false p') := by
  have clear : console.fault = none := by
    simpa using (Bool.or_eq_false_iff.mp goes).2
  have asked : (console.besides requested p).requestStep = console.besides true p := by
    unfold requestStep besides
    simp only [Bool.or_true]
  have frame := @runFramePaused (console.besides true p) clear inserted rfl elapsed
  have step := @runPausedStep (console.besides true p) rfl goes
  have ready : (console.besides true p).ready = console.besides false p := rfl
  obtain ⟨p', drawn⟩ := console.advance.2.finishBesides false p
  refine ⟨p', ?_⟩
  rw [asked, frame, step, ready, advanceBesides, drawn, reportBesides]

def stepFrames (console : Console) :
    List Duration → List (Except FrameError FrameStats) × Console
  | [] => ([], console)
  | elapsed :: rest =>
    let (result, console) := console.requestStep.runFrame elapsed
    let (results, console) := console.stepFrames rest
    (result :: results, console)

def total : List (Except FrameError FrameStats) → Except FrameError FrameStats
  | [] => .ok {}
  | result :: rest => do
    let first ← result
    let others ← total rest
    return ⟨first.cycles + others.cycles, first.instructions + others.instructions⟩

theorem totalCons {results : List (Except FrameError FrameStats)} {more : FrameStats}
    {last : Console} (rest : total results = (report more last).1) (stats : FrameStats) :
    total (.ok stats :: results) =
      (report ⟨stats.cycles + more.cycles, stats.instructions + more.instructions⟩ last).1 := by
  rw [total, rest]
  unfold report
  cases last.fault <;> rfl

theorem reportClear (clear : console.fault = none) (stats : FrameStats) :
    (report stats console).1 = .ok stats := by
  unfold report
  rw [clear]

theorem reportFailed {e : BoardFault} (failed : console.fault = some e) (stats : FrameStats) :
    (report stats console).1 = .error (.fault e) := by
  unfold report
  rw [failed]

theorem stepFramesBesides (clear : console.fault = none)
    (inserted : console.bus.video.cart.isSome = true) {durations : List Duration}
    (goes : ∀ k < durations.length, (console.after k).stopped = false) :
    ∃ results p', (console.besides requested p).stepFrames durations =
        (results, (console.after durations.length).besides (requested && durations.isEmpty) p') ∧
      total results = (report ⟨console.spent durations.length, durations.length⟩
        (console.after durations.length)).1 := by
  induction durations generalizing console requested p with
  | nil =>
    refine ⟨[], p, ?_, (reportClear clear _).symm⟩
    rw [List.isEmpty_nil, Bool.and_true]
    rfl
  | cons elapsed rest ih =>
    have first : console.stopped = false := goes 0 (Nat.zero_lt_succ _)
    obtain ⟨p₁, frame⟩ := requestedFrame requested p first inserted elapsed
    have others (k : Nat) (below : k < rest.length) :
        (console.advance.2.after k).stopped = false :=
      goes (k + 1) (Nat.succ_lt_succ below)
    cases failed : console.advance.2.fault with
    | none =>
      obtain ⟨results, p₂, later, sum⟩ := ih false p₁ failed (afterInserted inserted 1) others
      refine ⟨(report ⟨console.advance.1, 1⟩ console.advance.2).1 :: results, p₂, ?_, ?_⟩
      · rw [stepFrames, frame]
        simp only [later, List.isEmpty_cons, Bool.and_false, Bool.false_and]
        rfl
      · rw [reportClear failed, totalCons sum, Nat.add_comm 1]
        rfl
    | some e =>
      -- After a fault no instruction is left to run.
      cases rest with
      | nil =>
        refine ⟨[(report ⟨console.advance.1, 1⟩ console.advance.2).1], p₁, ?_, ?_⟩
        · rw [stepFrames, frame, List.isEmpty_cons, Bool.and_false]
          rfl
        · change total [_] = (report _ console.advance.2).1
          rw [reportFailed failed, reportFailed failed]
          rfl
      | cons =>
        have going := others 0 (Nat.zero_lt_succ _)
        simp [after, stopped, failed] at going

theorem setPausedBesides (console : Console) :
    console.setPaused true =
      console.besides console.stepRequested console.bus.video.ppu.pictures := by
  unfold setPaused
  rw [Bool.and_true]
  rfl

theorem stepFramesSlice (clear : console.fault = none)
    (inserted : console.bus.video.cart.isSome = true) {budget : Nat} {durations : List Duration}
    (count : durations.length = (console.runSlice {} budget).1.instructions) :
    let free := console.runSlice {} budget
    let stepped := (console.setPaused true).stepFrames durations
    (∃ p', stepped.2 = free.2.besides (free.2.stepRequested && durations.isEmpty) p') ∧
      total stepped.1 = (report free.1 free.2).1 := by
  intro free stepped
  have length : durations.length = console.sliceLength budget := count
  have goes (k : Nat) (below : k < durations.length) : (console.after k).stopped = false :=
    ((console.sliceOfLength budget).running k (length ▸ below)).2
  obtain ⟨results, p', steps, sum⟩ := stepFramesBesides console.stepRequested
    console.bus.video.ppu.pictures clear inserted goes
  have ends : free = (⟨console.spent durations.length, durations.length⟩,
      console.after durations.length) := by
    unfold free
    rw [runSliceEnd, ← length, Nat.zero_add, Nat.zero_add]
  have requested : (console.after durations.length).stepRequested = console.stepRequested :=
    congrArg Prod.snd (steadyPause.after console durations.length)
  unfold stepped
  rw [setPausedBesides, steps, ends, requested]
  exact ⟨⟨p', rfl⟩, sum⟩

theorem idleFrame (clear : console.fault = none)
    (inserted : console.bus.video.cart.isSome = true) (paused : console.paused = true)
    (idle : console.stepRequested = false) (elapsed : Duration) :
    ∃ p', console.runFrame elapsed =
      (.ok {}, { console with bus := console.bus.withPictures p' }) := by
  have frame : console.runPaused = report {} (console.updatePpu Ppu.render) := by
    unfold runPaused
    simp only [idle, clear, Bool.false_eq_true, if_false, Option.isSome_none]
  have drawn : console.updatePpu Ppu.render = { console with
      bus := console.bus.withPictures console.bus.video.ppu.render.pictures } :=
    congrArg (fun ppu => console.updatePpu fun _ => ppu) console.bus.video.ppu.renderPictures
  have reported := @reportClear (console.updatePpu Ppu.render) clear {}
  refine ⟨console.bus.video.ppu.render.pictures, ?_⟩
  rw [runFramePaused clear inserted paused, frame, ← drawn]
  exact Prod.ext reported (reportConsole {} _)

theorem requestStepAgain (console : Console) (n : Nat) :
    (List.replicate (n + 1) Operation.requestStep).foldl perform console = console.requestStep := by
  induction n with
  | zero => rfl
  | succ n ih =>
    rw [List.replicate_succ', List.foldl_append, ih]
    change { console with
      stepRequested := console.stepRequested || console.paused || console.paused } = _
    rw [Bool.or_assoc, Bool.or_self]
    rfl

def PausedRequest (console : Console) : Prop :=
  console.paused = false → console.stepRequested = false

namespace PausedRequest
variable {console : Console} (now : console.PausedRequest)
include now

theorem runFrame (elapsed : Duration) : (console.runFrame elapsed).2.PausedRequest := by
  unfold Console.runFrame
  split
  · exact now
  · exact now
  · split
    · rename_i paused
      intro running
      have held := congrArg Prod.fst (steadyPause.runPaused console)
      rw [running] at held
      cases held.trans paused
    · intro running
      have held := steadyPause.runBudget console (console.budget elapsed)
      have before : console.paused = false := (congrArg Prod.fst held).symm.trans running
      exact (congrArg Prod.snd held).trans (now before)

theorem load (cart : Except LoadError Cartridge) : (console.load cart).2.PausedRequest := by
  cases cart with
  | error e => exact now
  | ok cart => exact fun _ => rfl

theorem perform (operation : Operation) : (console.perform operation).PausedRequest := by
  cases operation with
  | loadBytes data => exact now.load (Cartridge.ofBytes data)
  | loadFile contents => exact now.load (Cartridge.ofFile contents)
  | insert cart => exact fun _ => rfl
  | runFrame elapsed => exact now.runFrame elapsed
  | setPaused paused =>
    rintro rfl
    exact Bool.and_false _
  | requestStep =>
    intro running
    have idle := now running
    exact Bool.or_eq_false_iff.mpr ⟨idle, running⟩
  | hold | drainSamples => exact now

end PausedRequest

theorem sessionPausedRequest (config : Config) (operations : List Operation) :
    (session config operations).PausedRequest :=
  sessionInvariant (fun _ => rfl) (fun _ operation held => held.perform operation) operations

/-- A slice of any budget and as many requested steps lead to the same console, to the same sum of
cycles and instructions or to the same fault. The paused console has other pictures, and its first
step uses up a request that waited for it. Without a request its frame draws the pictures and does
nothing else. A request counts once, and only until the pause ends. -/
theorem singleStepsAgree (config : Config) (operations : List Operation) :
    let console := session config operations
    (console.fault = none → console.bus.video.cart.isSome = true →
      (∀ (budget : Nat) (durations : List Duration),
        durations.length = (console.runSlice {} budget).1.instructions →
        let free := console.runSlice {} budget
        let stepped := (console.setPaused true).stepFrames durations
        (∃ p', stepped.2 = { free.2 with
          paused := true
          stepRequested := free.2.stepRequested && durations.isEmpty
          bus := free.2.bus.withPictures p' }) ∧
        total stepped.1 = (report free.1 free.2).1) ∧
      (console.paused = true → console.stepRequested = false → ∀ elapsed, ∃ p',
        console.runFrame elapsed =
          (.ok {}, { console with bus := console.bus.withPictures p' }))) ∧
    (∀ n, (List.replicate (n + 1) Operation.requestStep).foldl perform console =
      console.requestStep) ∧
    (console.paused = false → console.stepRequested = false ∧ console.requestStep = console) ∧
    console.setPaused false = { console with paused := false, stepRequested := false } := by
  intro console
  refine ⟨fun clear inserted => ⟨?_, idleFrame clear inserted⟩, console.requestStepAgain, ?_, ?_⟩
  · intro budget durations count
    exact stepFramesSlice clear inserted count
  · intro running
    refine ⟨sessionPausedRequest config operations running, ?_⟩
    have unheard : (console.stepRequested || console.paused) = console.stepRequested := by
      rw [running, Bool.or_false]
    unfold requestStep
    rw [unheard]
  · unfold setPaused
    rw [Bool.and_false]

def emptyCartridge : Cartridge where
  prg := #[]
  chr := .rom #[]
  prgBanks := 1
  chrBanks := 1
  mapper := 0
  mirroring := .vertical

theorem singleStepsAgreeBreaks :
    let console := session {} [.insert emptyCartridge]
    let stepped := (console.setPaused true).stepFrames [⟨0, 0⟩, ⟨1, 0⟩]
    let idle := session {} [.insert emptyCartridge, .setPaused true]
    (console.runSlice {} 8).1 = ⟨14, 2⟩ ∧ total stepped.1 = .ok ⟨14, 2⟩ ∧
      (∃ p', stepped.2 = { (console.runSlice {} 8).2 with
        paused := true
        stepRequested := false
        bus := (console.runSlice {} 8).2.bus.withPictures p' }) ∧
      (∃ p', idle.runFrame ⟨1, 0⟩ = (.ok {}, { idle with bus := idle.bus.withPictures p' })) ∧
      console.requestStep = console := by
  intro console stepped idle
  have slice : (console.runSlice {} 8).1 = ⟨14, 2⟩ := by decide +kernel
  have clear : (console.runSlice {} 8).2.fault = none := by decide +kernel
  obtain ⟨runs, -, running, -⟩ := singleStepsAgree {} [.insert emptyCartridge]
  obtain ⟨waits, -⟩ := singleStepsAgree {} [.insert emptyCartridge, .setPaused true]
  have count : [Duration.mk 0 0, ⟨1, 0⟩].length = (console.runSlice {} 8).1.instructions := by
    rw [slice]
    rfl
  obtain ⟨⟨p', same⟩, sum⟩ := (runs rfl rfl).1 8 [⟨0, 0⟩, ⟨1, 0⟩] count
  rw [reportClear clear, slice] at sum
  have waiting : ((console.runSlice {} 8).2.stepRequested && false) = false := Bool.and_false _
  rw [List.isEmpty_cons, waiting] at same
  exact ⟨slice, sum, ⟨p', same⟩, (waits rfl rfl).2 rfl rfl ⟨1, 0⟩, (running rfl).2⟩

end Nes.Console
