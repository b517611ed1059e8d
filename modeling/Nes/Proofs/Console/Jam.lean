import Nes.Proofs.Bus.Pictures
import Nes.Proofs.Console.Faults
import Nes.Proofs.Cpu.InterruptReturn

/-! A jam. The instruction that jams the processor reads its opcode and is the last of its slice.
From then on a frame is the blank and its picture only, and the machine is frozen until a cartridge
is loaded. -/
namespace Nes

namespace Registers
variable {σ : Type} [Device σ]

theorem instructionJam {r : Registers} {s : σ}
    (jams : (Instruction.decode (Device.read r.pc s).1).operation = .jam) :
    (r.instruction.run s).result = { r with halted := true } ∧
      r.instruction.trace s = [.read r.pc (Device.read r.pc s).1] := by
  have opcode := Instruction.decodeJam jams
  have back : r.pc + 1 - 1 = r.pc := UInt16.add_sub_cancel _ _
  constructor
  · rw [instructionRun, opcode]
    change ({ r with pc := r.pc + 1 - 1, halted := true } : Registers) = _
    rw [back]
  · unfold instruction
    rw [Transaction.traceBind]
    change .read r.pc _ :: Transaction.trace _ _ = _
    simp only [fetch, Transaction.runBind, Transaction.readByte, Transaction.run]
    simp only [pure, Transaction.run]
    rw [opcode]
    rfl

end Registers

def Signal.idle : Signal → Bool
  | tick cycles => cycles == 0
  | beginVblank | endVblank | render => true
  | access _ | takeFault | insert _ | ppuWrite .. | hold _ | drain => false

def Ppu.core (ppu : Ppu) : Ppu :=
  { ppu.withPictures ({} : Ppu).pictures with status := 0 }

theorem Ppu.renderCore (ppu : Ppu) : ppu.render.core = ppu.core := by
  rw [renderPictures]
  rfl

namespace Bus

def core (bus : Bus) : Bus :=
  { bus with
    video := ⟨bus.video.ppu.core, bus.video.cart⟩
    controller := bus.controller.hold 0
    apu := bus.apu.drain.2 }

theorem updateCore (bus : Bus) {change : Ppu → Ppu}
    (kept : (change bus.video.ppu).core = bus.video.ppu.core) :
    { bus with video := bus.video.update change }.core = bus.core :=
  congrArg (fun ppu => { bus.core with video := ⟨ppu, bus.video.cart⟩ }) kept

theorem receiveIdle (bus : Bus) {signal : Signal} (idle : signal.idle = true) :
    (bus.receive signal).core = bus.core ∧ (bus.receive signal).apu = bus.apu := by
  cases signal with
  | tick cycles =>
    have none : cycles = 0 := beq_iff_eq.mp idle
    rw [none]
    exact ⟨rfl, rfl⟩
  | beginVblank => exact ⟨bus.updateCore (Ppu.renderCore _), rfl⟩
  | endVblank => exact ⟨bus.updateCore rfl, rfl⟩
  | render => exact ⟨bus.updateCore (Ppu.renderCore _), rfl⟩
  | access | takeFault | insert | ppuWrite | hold | drain => cases idle

theorem playIdle (bus : Bus) {signals : List Signal}
    (idle : ∀ signal ∈ signals, signal.idle = true) :
    (bus.play signals).core = bus.core ∧ (bus.play signals).apu = bus.apu := by
  induction signals generalizing bus with
  | nil => exact ⟨rfl, rfl⟩
  | cons signal rest ih =>
    obtain ⟨here, others⟩ := List.forall_mem_cons.mp idle
    obtain ⟨core, sound⟩ := bus.receiveIdle here
    obtain ⟨later, sound'⟩ := ih (bus.receive signal) others
    exact ⟨later.trans core, sound'.trans sound⟩

end Bus

namespace Console

def core (console : Console) : Console :=
  { console with bus := console.bus.core, paused := false, stepRequested := false }

theorem coreCpu {console console' : Console} (same : console'.core = console.core) :
    console'.cpu = console.cpu :=
  congrArg (·.cpu) same

theorem updatePpuCore (console : Console) {change : Ppu → Ppu}
    (kept : (change console.bus.video.ppu).core = console.bus.video.ppu.core) :
    (console.updatePpu change).core = console.core :=
  congrArg (fun bus => { console.core with bus }) (console.bus.updateCore kept)

theorem finishRunning {console : Console} (running : console.fault = none) (change : Ppu → Ppu) :
    console.finish change = console.updatePpu change := by
  rw [finish, running]
  rfl

theorem reportRunning {console : Console} (running : console.fault = none) (stats : FrameStats)
    (change : Ppu → Ppu) :
    report stats (console.finish change) = (.ok stats, console.updatePpu change) := by
  rw [finishRunning running, report, show (console.updatePpu change).fault = none from running]

section
variable {console : Console} (halted : console.cpu.registers.halted = true)
include halted

theorem sliceLengthHalted (budget : Nat) : console.sliceLength budget = 0 := by
  have stops : console.stopped = true := by rw [stopped, halted, Bool.true_or]
  have slice : SliceOf console budget 0 := ⟨fun k below => absurd below k.not_lt_zero, .inr stops⟩
  exact (console.sliceOfLength budget).unique slice

theorem sliceEndHalted (budget : Nat) : console.sliceEnd budget = console := by
  rw [sliceEnd, sliceLengthHalted halted]
  rfl

theorem sliceSignalsHalted (budget : Nat) : console.sliceSignals budget = [] := by
  rw [sliceSignals, sliceLengthHalted halted]
  rfl

theorem blankHalted :
    console.blankCycles = 0 ∧
      console.blanked = { console with bus := console.bus.play console.blankSignals } ∧
      ∀ signal ∈ console.blankSignals, signal.idle = true := by
  have played := console.replayBlank
  cases wanted : (console.bus.receive .beginVblank).video.ppu.wantsNmi with
  | true =>
    obtain ⟨cycles, blanked⟩ := blankedNmi wanted
    simp only [Cpu.requestNmi, Cpu.spendHalted halted] at cycles blanked
    refine ⟨cycles, ?_, ?_⟩
    · rw [played, blanked]
    · simp [blankSignals, wanted, Cpu.spendTrace, halted, Cpu.requestNmi, Cpu.spendHalted,
        Signal.idle]
  | false =>
    obtain ⟨cycles, blanked⟩ := blankedQuiet wanted
    refine ⟨cycles, ?_, ?_⟩
    · rw [played, blanked]
    · simp [blankSignals, wanted, Signal.idle]

theorem blankedCore :
    console.blanked.core = console.core ∧ console.blanked.bus.apu = console.bus.apu := by
  obtain ⟨-, blanked, idle⟩ := blankHalted halted
  obtain ⟨core, sound⟩ := console.bus.playIdle idle
  rw [blanked]
  exact ⟨congrArg (fun bus => { console.core with bus }) core, sound⟩

theorem pausedHalted (running : console.fault = none) :
    console.runPaused = (.ok ⟨0, 0⟩, console.ready.updatePpu Ppu.render) ∧
      console.pausedSignals = [.render] := by
  have halted' : console.ready.cpu.registers.halted = true := halted
  have running' : console.ready.fault = none := running
  constructor
  · rw [runPausedParts, sliceLengthHalted halted', sliceEndHalted halted']
    exact reportRunning running' _ Ppu.render
  · rw [pausedSignals, sliceSignalsHalted halted', sliceEndHalted halted', running']
    rfl

theorem budgetHalted (running : console.fault = none) (budget : Nat) :
    console.runBudget budget = (.ok ⟨0, 0⟩, console.blanked.updatePpu Ppu.endVblank) ∧
      console.budgetSignals budget = console.blankSignals ++ [.endVblank] := by
  have halted' := blankedHalted halted
  have running' : console.blanked.fault = none := (blankedFault console).trans running
  have passed : ¬console.fault.isSome = true := by simp [running]
  constructor
  · rw [runBudgetParts]
    simp only [sliceLengthHalted halted, sliceEndHalted halted, sliceLengthHalted halted',
      sliceEndHalted halted', if_neg passed, (blankHalted halted).1]
    exact reportRunning running' _ Ppu.endVblank
  · rw [budgetSignals]
    simp only [sliceSignalsHalted halted, sliceEndHalted halted, sliceSignalsHalted halted',
      sliceEndHalted halted', if_neg passed, running', List.nil_append, List.append_nil]
    rfl

theorem frameHalted (running : console.fault = none)
    (inserted : console.bus.video.cart.isSome = true) (elapsed : Duration) :
    (console.runFrame elapsed).1 = .ok ⟨0, 0⟩ ∧
      (∀ signal ∈ console.frameSignals elapsed, signal.idle = true) ∧
      (console.runFrame elapsed).2.core = console.core ∧
      (console.runFrame elapsed).2.bus.apu = console.bus.apu := by
  obtain ⟨cart, present⟩ := Option.isSome_iff_exists.mp inserted
  cases held : console.paused with
  | true =>
    obtain ⟨done, signals⟩ := pausedHalted halted running
    have frame : console.runFrame elapsed = console.runPaused := by
      simp [runFrame, running, present, held]
    have sent : console.frameSignals elapsed = console.pausedSignals := by
      simp [frameSignals, running, present, held]
    rw [frame, sent, done, signals]
    exact ⟨rfl, by simp [Signal.idle], updatePpuCore console.ready (Ppu.renderCore _), rfl⟩
  | false =>
    obtain ⟨done, signals⟩ := budgetHalted halted running (console.budget elapsed)
    obtain ⟨-, blanked, idle⟩ := blankHalted halted
    have frame : console.runFrame elapsed = console.runBudget (console.budget elapsed) := by
      simp [runFrame, running, present, held]
    have sent : console.frameSignals elapsed =
        console.budgetSignals (console.budget elapsed) := by
      simp [frameSignals, running, present, held]
    rw [frame, sent, done, signals]
    refine ⟨rfl, List.forall_mem_append.mpr ⟨idle, by simp [Signal.idle]⟩, ?_, ?_⟩
    · exact (updatePpuCore console.blanked rfl).trans (blankedCore halted).1
    · exact (blankedCore halted).2

end

def jams (console : Console) : Bool :=
  (Instruction.decode (console.bus.read console.cpu.registers.pc).1).operation = .jam

def opcodeRead (console : Console) : Access :=
  .read console.cpu.registers.pc (console.bus.read console.cpu.registers.pc).1

theorem advanceJams {console : Console} (goes : console.stopped = false)
    (clear : console.bus.fault = none) (jams : console.jams = true) :
    console.advance.2.cpu.registers = { console.cpu.registers with halted := true } ∧
      console.advance.2.fault = none ∧
      console.stepTrace ++ console.entryTrace = [console.opcodeRead] := by
  obtain ⟨running, passed⟩ := Bool.or_eq_false_iff.mp goes
  have go : ¬console.cpu.registers.halted = true := by simp [running]
  obtain ⟨registers, trace⟩ := Registers.instructionJam (of_decide_eq_true jams)
  have stepped : (console.cpu.step console.bus).2.1.registers =
      { console.cpu.registers with halted := true } := by
    rw [Cpu.step, Cpu.spend, if_neg go]
    exact registers
  have halted : (console.cpu.step console.bus).2.1.registers.halted = true := by rw [stepped]
  have steps : console.stepTrace = [console.opcodeRead] := by
    rw [stepTrace, Cpu.spendTrace, if_neg go]
    exact trace
  have entered : console.entryTrace = [] := by
    unfold entryTrace
    generalize console.cpu.step console.bus = done at halted
    simp only [Cpu.interruptTrace, Cpu.spendTrace, if_pos halted, ite_self]
  have quiet : console.rejected = none := by
    rw [rejected, steps]
    exact Bus.firstRejectionNone (by simp [opcodeRead, Bus.rejection]) console.bus
  refine ⟨?_, ?_, ?_⟩
  · rw [advanceParts]
    rcases console.interruptedCases with ignored | requested
    · simp only [ignored, stepped]
    · simp only [requested, Cpu.requestInterruptHalted halted, stepped]
  · have unmoved : console.fault = none := by simpa using passed
    rw [advanceFault clear, quiet, unmoved]
    rfl
  · rw [steps, entered, List.append_nil]

theorem memSteps {console step : Console} {n : Nat} (inside : step ∈ console.steps n) :
    ∃ k < n, step = console.after k := by
  induction n with
  | zero => cases inside
  | succ n ih =>
    rw [stepsSucc, List.mem_append, List.mem_singleton] at inside
    rcases inside with before | last
    · obtain ⟨k, below, same⟩ := ih before
      exact ⟨k, Nat.lt_succ_of_lt below, same⟩
    · exact ⟨n, Nat.lt_succ_self n, last⟩

theorem signalsSucc (console : Console) (n : Nat) :
    console.signals (n + 1) = console.signals n ++ (console.after n).advanceSignals := by
  induction n generalizing console with
  | zero => exact List.append_nil _
  | succ n ih =>
    rw [signals, ih, signals, List.append_assoc]
    rfl

theorem sliceStep {console step : Console} {budget : Nat} (clear : console.bus.fault = none)
    (inside : step ∈ console.sliceSteps budget) :
    step.stopped = false ∧ step.bus.fault = none := by
  obtain ⟨k, below, rfl⟩ := memSteps inside
  exact ⟨((console.sliceOfLength budget).running k below).2, afterClear clear k⟩

theorem sliceHalts {console step : Console} {budget : Nat}
    (inside : step ∈ console.sliceSteps budget)
    (halts : step.advance.2.cpu.registers.halted = true) :
    console.sliceEnd budget = step.advance.2 ∧
      ∃ before, console.sliceSignals budget = before ++ step.advanceSignals := by
  obtain ⟨k, below, rfl⟩ := memSteps inside
  rw [← afterSucc] at halts ⊢
  have last : k + 1 = console.sliceLength budget := by
    rcases Nat.lt_or_eq_of_le below with more | last
    · have goes := ((console.sliceOfLength budget).running (k + 1) more).2
      rw [stopped, halts, Bool.true_or] at goes
      cases goes
    · exact last
  rw [sliceEnd, sliceSignals, ← last]
  exact ⟨rfl, _, console.signalsSucc k⟩

structure JamsIn (step console : Console) (signals : List Signal) : Prop where
  registers : step.advance.2.cpu.registers = { step.cpu.registers with halted := true }
  running : step.advance.2.fault = none
  accesses : step.stepTrace ++ step.entryTrace = [step.opcodeRead]
  core : console.core = step.advance.2.core
  sound : console.bus.apu = step.advance.2.bus.apu
  signals : ∃ before rest, signals = before ++ step.advanceSignals ++ rest ∧
    ∀ signal ∈ rest, signal.idle = true

theorem pausedJams {console step : Console} (clear : console.bus.fault = none)
    (inside : step ∈ console.pausedSteps) (jams : step.jams = true) :
    JamsIn step console.runPaused.2 console.pausedSignals := by
  have clear' : console.ready.bus.fault = none := clear
  obtain ⟨goes, quiet⟩ := sliceStep clear' inside
  obtain ⟨registers, running, accesses⟩ := advanceJams goes quiet jams
  obtain ⟨last, before, signals⟩ := sliceHalts inside (by rw [registers])
  rw [runPausedParts, reportConsole, pausedSignals, last, signals, running, finishRunning running]
  exact ⟨registers, running, accesses, updatePpuCore _ (Ppu.renderCore _), rfl, before, [.render],
    rfl, by simp [Signal.idle]⟩

theorem budgetJamsBefore {console step : Console} {budget : Nat} (clear : console.bus.fault = none)
    (inside : step ∈ console.sliceSteps (budget - console.blankShare budget))
    (jams : step.jams = true) :
    JamsIn step (console.runBudget budget).2 (console.budgetSignals budget) := by
  obtain ⟨goes, quiet⟩ := sliceStep clear inside
  obtain ⟨registers, running, accesses⟩ := advanceJams goes quiet jams
  have halted : step.advance.2.cpu.registers.halted = true := by rw [registers]
  obtain ⟨last, before, signals⟩ := sliceHalts inside halted
  obtain ⟨-, -, idle⟩ := blankHalted halted
  obtain ⟨core, sound⟩ := blankedCore halted
  have halted' := blankedHalted halted
  have running' : step.advance.2.blanked.fault = none := (blankedFault _).trans running
  have passed : ¬step.advance.2.fault.isSome = true := by simp [running]
  rw [runBudgetParts, budgetSignals]
  simp only [last, signals, if_neg passed, reportConsole, sliceEndHalted halted',
    sliceSignalsHalted halted', finishRunning running', running', List.append_nil]
  refine ⟨registers, running, accesses, (updatePpuCore _ rfl).trans core, sound, before,
    step.advance.2.blankSignals ++ [.endVblank], rfl, ?_⟩
  exact List.forall_mem_append.mpr ⟨idle, by simp [Signal.idle]⟩

theorem budgetJamsAfter {console step before : Console} {budget : Nat}
    (boundary : console.sliceEnd (budget - console.blankShare budget) = before)
    (clear : before.bus.fault = none) (passed : before.fault = none)
    (inside : step ∈ before.blanked.sliceSteps (console.blankShare budget))
    (jams : step.jams = true) :
    JamsIn step (console.runBudget budget).2 (console.budgetSignals budget) := by
  obtain ⟨goes, quiet⟩ := sliceStep (blankedClear clear) inside
  obtain ⟨registers, running, accesses⟩ := advanceJams goes quiet jams
  obtain ⟨last, earlier, signals⟩ := sliceHalts inside (by rw [registers])
  have begun : ¬before.fault.isSome = true := by simp [passed]
  rw [runBudgetParts, budgetSignals]
  simp only [boundary, last, signals, if_neg begun, reportConsole, finishRunning running, running]
  refine ⟨registers, running, accesses, updatePpuCore _ rfl, rfl,
    console.sliceSignals (budget - console.blankShare budget) ++ (before.blankSignals ++ earlier),
    [.endVblank], ?_, by simp [Signal.idle]⟩
  simp only [List.append_assoc]
  rfl

theorem budgetJams {console step : Console} {budget : Nat} (clear : console.bus.fault = none)
    (inside : step ∈ console.budgetSteps budget) (jams : step.jams = true) :
    JamsIn step (console.runBudget budget).2 (console.budgetSignals budget) := by
  generalize made : console.sliceEnd (budget - console.blankShare budget) = before
  simp only [budgetSteps, made] at inside
  rcases List.mem_append.mp inside with first | second
  · exact budgetJamsBefore clear first jams
  · have cleared : before.bus.fault = none := by
      rw [← made]
      exact afterClear clear _
    cases passed : before.fault with
    | some e => simp [passed] at second
    | none =>
      simp only [passed, Option.isSome_none, Bool.false_eq_true, if_false] at second
      exact budgetJamsAfter made cleared passed second jams

theorem frameJams {console step : Console} {elapsed : Duration} (clear : console.bus.fault = none)
    (inside : step ∈ console.frameSteps elapsed) (jams : step.jams = true) :
    console.bus.video.cart.isSome = true ∧
      JamsIn step (console.runFrame elapsed).2 (console.frameSignals elapsed) := by
  cases running : console.fault with
  | some e => simp [frameSteps, running] at inside
  | none =>
    cases present : console.bus.video.cart with
    | none => simp [frameSteps, present] at inside
    | some cart =>
      refine ⟨rfl, ?_⟩
      cases held : console.paused with
      | true =>
        simp only [frameSteps, running, present, held] at inside
        simp only [frameSignals, runFrame, running, present, held]
        exact pausedJams clear inside jams
      | false =>
        simp only [frameSteps, running, present, held] at inside
        simp only [frameSignals, runFrame, running, present, held]
        exact budgetJams clear inside jams

theorem frameInserted {console : Console} (inserted : console.bus.video.cart.isSome = true)
    (elapsed : Duration) : (console.runFrame elapsed).2.bus.video.cart.isSome = true := by
  rw [← replayFrame]
  exact Bus.playVideo Video.keptInserted inserted _

structure Frozen (jammed console : Console) (drained : Bool) : Prop where
  core : console.core = jammed.core
  sound : console.bus.apu = if drained then jammed.bus.apu.drain.2 else jammed.bus.apu

namespace Frozen
variable {jammed console : Console} {drained : Bool} (frozen : Frozen jammed console drained)
include frozen

theorem cpu : console.cpu = jammed.cpu :=
  coreCpu frozen.core

theorem fault : console.fault = jammed.fault :=
  congrArg (·.fault) frozen.core

theorem cart : console.bus.video.cart = jammed.bus.video.cart :=
  congrArg (·.bus.video.cart) frozen.core

variable (halted : jammed.cpu.registers.halted = true) (running : jammed.fault = none)
  (inserted : jammed.bus.video.cart.isSome = true)
include halted running inserted

theorem frame (elapsed : Duration) :
    (console.runFrame elapsed).1 = .ok ⟨0, 0⟩ ∧
      (∀ signal ∈ console.frameSignals elapsed, signal.idle = true) ∧
      Frozen jammed (console.runFrame elapsed).2 drained := by
  obtain ⟨done, idle, core, sound⟩ := frameHalted (by rw [frozen.cpu, halted])
    (frozen.fault.trans running) (by rw [frozen.cart, inserted]) elapsed
  exact ⟨done, idle, core.trans frozen.core, sound.trans frozen.sound⟩

theorem perform {operation : Operation} (without : operation.loads = false) :
    Frozen jammed (console.perform operation) (drained || operation.drains) := by
  have undrained {console : Console} (frozen : Frozen jammed console drained) :
      Frozen jammed console (drained || false) := by
    rwa [Bool.or_false]
  have failed (cart : Except LoadError Cartridge) (bad : cart.isOk = false) :
      Frozen jammed (console.load cart).2 drained := by
    cases cart with
    | error e => exact frozen
    | ok cart => cases bad
  cases operation with
  | loadBytes data => exact undrained (failed _ without)
  | loadFile contents => exact undrained (failed _ without)
  | insert cart => cases without
  | runFrame elapsed => exact undrained (frozen.frame halted running inserted elapsed).2.2
  | setPaused | requestStep | hold => exact undrained ⟨frozen.core, frozen.sound⟩
  | drainSamples =>
    have drained' : (console.perform .drainSamples).bus.apu = jammed.bus.apu.drain.2 := by
      change console.bus.apu.drain.2 = _
      rw [frozen.sound]
      cases drained <;> rfl
    rw [Operation.drains, Bool.or_true]
    exact ⟨frozen.core, drained'⟩

theorem performAll {later : List Operation}
    (without : ∀ operation ∈ later, operation.loads = false) :
    Frozen jammed (later.foldl Console.perform console)
      (drained || later.any Operation.drains) := by
  induction later generalizing console drained with
  | nil =>
    rw [List.any_nil, Bool.or_false]
    exact frozen
  | cons operation later ih =>
    obtain ⟨here, others⟩ := List.forall_mem_cons.mp without
    rw [List.any_cons, ← Bool.or_assoc]
    exact ih (frozen.perform halted running inserted here) others

end Frozen

/-- An instruction of some frame is a jam. It reads its opcode and leaves all registers as they
were, the program counter at the opcode. What is left of the frame, and every operation from then
on that loads no cartridge, brings the devices nothing but the blank and the picture: no access and
no cycle. Everything stays but the video status, the pictures, the buttons held, the pause and the
samples that are drained, and every frame reports success and counts nothing. -/
theorem jamFreezes (config : Config) (earlier : List Operation) (elapsed : Duration)
    (step : Console) (inside : step ∈ (session config earlier).frameSteps elapsed)
    (jams : step.jams = true) :
    let jammed := step.advance.2
    (jammed.cpu.registers = { step.cpu.registers with halted := true } ∧
      step.stepTrace ++ step.entryTrace = [step.opcodeRead] ∧
      ∃ before rest, (session config earlier).frameSignals elapsed =
          before ++ step.advanceSignals ++ rest ∧
        ∀ signal ∈ rest, signal.idle = true) ∧
      ∀ later : List Operation, (∀ operation ∈ later, operation.loads = false) →
        let console := session config (earlier ++ .runFrame elapsed :: later)
        console.core = jammed.core ∧
          console.bus.apu =
            (if later.any Operation.drains then jammed.bus.apu.drain.2 else jammed.bus.apu) ∧
          ∀ elapsed', (console.runFrame elapsed').1 = .ok ⟨0, 0⟩ ∧
            ∀ signal ∈ console.frameSignals elapsed', signal.idle = true := by
  intro jammed
  obtain ⟨inserted, jam⟩ := frameJams (sessionClear config earlier) inside jams
  refine ⟨⟨jam.registers, jam.accesses, jam.signals⟩, fun later without => ?_⟩
  have frozen : Frozen jammed ((session config earlier).runFrame elapsed).2 false :=
    ⟨jam.core, jam.sound⟩
  have halted : jammed.cpu.registers.halted = true := by rw [jam.registers]
  have present : jammed.bus.video.cart.isSome = true := by
    rw [← frozen.cart]
    exact frameInserted inserted elapsed
  have stays := frozen.performAll halted jam.running present without
  rw [Bool.false_or] at stays
  have same : session config (earlier ++ .runFrame elapsed :: later) =
      later.foldl perform ((session config earlier).runFrame elapsed).2 := by
    rw [session, List.foldl_append]
    rfl
  rw [same]
  refine ⟨stays.core, stays.sound, fun elapsed' => ?_⟩
  obtain ⟨done, idle, -⟩ := stays.frame halted jam.running present elapsed'
  exact ⟨done, idle⟩

def jammingCartridge : Cartridge where
  prg := Array.replicate 0x4000 0x92
  chr := .rom #[]
  prgBanks := 1
  chrBanks := 1
  mapper := 0
  mirroring := .vertical

def jammingOperations : List Operation :=
  [.insert jammingCartridge, .setPaused true, .requestStep]

theorem jamFreezesStepped :
    let running := session {} jammingOperations
    let console := session {} (jammingOperations ++ .runFrame ⟨0, 0⟩ :: [.setPaused false, .hold 1])
    ∃ step ∈ running.frameSteps ⟨0, 0⟩, step.jams = true ∧
      console.cpu.registers = { step.cpu.registers with halted := true } ∧
      step.cpu.registers.pc = 0x9292 ∧
      console.bus.apu = step.advance.2.bus.apu ∧
      (console.runFrame ⟨1, 0⟩).1 = .ok ⟨0, 0⟩ := by
  intro running console
  have found : ∃ step ∈ running.frameSteps ⟨0, 0⟩,
      step.jams = true ∧ step.cpu.registers.pc = 0x9292 := by
    decide +kernel
  obtain ⟨step, inside, jams, pc⟩ := found
  obtain ⟨⟨registers, -⟩, later⟩ := jamFreezes {} jammingOperations ⟨0, 0⟩ step inside jams
  obtain ⟨core, sound, frames⟩ := later [.setPaused false, .hold 1] (by decide)
  have cpu : console.cpu = step.advance.2.cpu := coreCpu core
  have undrained : [Operation.setPaused false, .hold 1].any Operation.drains = false := rfl
  rw [undrained] at sound
  exact ⟨step, inside, jams, (congrArg Cpu.registers cpu).trans registers, pc, sound,
    (frames ⟨1, 0⟩).1⟩

end Console
end Nes
