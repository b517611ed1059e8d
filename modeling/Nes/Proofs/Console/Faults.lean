import Nes.Proofs.Bus.Rejection
import Nes.Proofs.Console.FrameCycles
import Nes.Proofs.Console.Session

/-! Faults. The first write that the board rejects ends the frame after its instruction, and every
frame from then on, until a cartridge is loaded. -/
namespace Nes

theorem Registers.interruptAccesses {σ : Type} [Device σ] (vector : UInt16) (r : Registers)
    (s : σ) :
    ∃ high low status target target',
      (interrupt vector r).trace s =
        [.write (word r.sp 1) high, .write (word (r.sp - 1) 1) low,
          .write (word (r.sp - 1 - 1) 1) status, .read vector target, .read (vector + 1) target'] :=
  ⟨_, _, _, _, _, rfl⟩

namespace Cpu

theorem spendInterruptRejection (cpu : Cpu) (vector : UInt16) (bus : Bus) :
    bus.firstRejection (cpu.spendTrace (Registers.interrupt vector) bus) = none := by
  unfold spendTrace
  split
  · rfl
  · obtain ⟨high, low, status, target, target', accesses⟩ :=
      cpu.registers.interruptAccesses vector bus
    rw [accesses]
    apply Bus.firstRejectionNone
    simp [Bus.rejection, Bus.writeRejectionStack]

theorem interruptRejection (cpu : Cpu) (bus : Bus) :
    bus.firstRejection (cpu.interruptTrace bus) = none := by
  unfold interruptTrace
  split
  · rfl
  · exact cpu.spendInterruptRejection _ bus

end Cpu

namespace Console

def rejected (console : Console) : Option BoardFault :=
  console.bus.firstRejection console.stepTrace

theorem entryRejection (console : Console) :
    (console.cpu.step console.bus).2.2.firstRejection console.entryTrace = none := by
  unfold entryTrace
  obtain ⟨cycles, cpu, bus⟩ := console.cpu.step console.bus
  simp only
  split
  · exact cpu.interruptRejection bus
  · rfl

theorem interruptedFault {console : Console} (clear : console.bus.fault = none) :
    console.interrupted.2.2.fault = console.rejected := by
  have stepped : console.stepTrace.foldl Access.perform console.bus =
      (console.cpu.step console.bus).2.2 := console.cpu.replaySpend _ _
  rw [← replayInterrupted, Bus.performAllFault, clear, Option.none_or, Bus.firstRejectionAppend,
    stepped, entryRejection, Option.or_none, rejected]

theorem advanceFault {console : Console} (clear : console.bus.fault = none) :
    console.advance.2.fault = console.fault.or console.rejected := by
  rw [advanceParts]
  exact congrArg console.fault.or (interruptedFault clear)

theorem advanceClear (console : Console) : console.advance.2.bus.fault = none := by
  rw [advanceParts]
  rfl

-- An instruction makes a write that the board rejects, and none before. Memory stays as it is when
-- that write is made.
def StoppedBy (console : Console) (e : BoardFault) : Prop :=
  ∃ before access rest, console.stepTrace = before ++ access :: rest ∧
    console.bus.firstRejection before = none ∧
    (before.foldl Access.perform console.bus).rejection access = some e ∧
    (access.perform (before.foldl Access.perform console.bus)).memory =
      (before.foldl Access.perform console.bus).memory

theorem stoppedBy {console : Console} {e : BoardFault} (stops : console.rejected = some e) :
    console.StoppedBy e := by
  obtain ⟨before, access, rest, trace, quiet, found⟩ := Bus.firstRejectionSome stops
  exact ⟨before, access, rest, trace, quiet, found, Bus.performRejected found⟩

def steps (console : Console) : Nat → List Console
  | 0 => []
  | n + 1 => console :: console.advance.2.steps n

theorem stepsSucc (console : Console) (n : Nat) :
    console.steps (n + 1) = console.steps n ++ [console.after n] := by
  induction n generalizing console with
  | zero => rfl
  | succ n ih =>
    rw [steps, ih, steps]
    rfl

theorem stepsLength (console : Console) (n : Nat) : (console.steps n).length = n := by
  induction n generalizing console with
  | zero => rfl
  | succ n ih => rw [steps, List.length_cons, ih]

theorem afterClear {console : Console} (clear : console.bus.fault = none) (n : Nat) :
    (console.after n).bus.fault = none := by
  cases n with
  | zero => exact clear
  | succ n =>
    rw [afterSucc]
    exact advanceClear _

theorem finishBusFault (console : Console) (change : Ppu → Ppu) :
    (console.finish change).bus.fault = console.bus.fault :=
  finishKeeps (·.bus.fault) rfl

inductive Outcome : List Console → Console → Prop where
  | passed {steps final} (accepted : ∀ step ∈ steps, step.rejected = none)
      (running : final.fault = none) (clear : final.bus.fault = none) : Outcome steps final
  | failed {earlier : List Console} {last : Console} {e : BoardFault}
      (accepted : ∀ step ∈ earlier, step.rejected = none)
      (stops : last.rejected = some e) (faulty : last.advance.2.fault = some e) :
      Outcome (earlier ++ [last]) last.advance.2

namespace Outcome
variable {earlier later : List Console} {middle final : Console}

theorem clear (outcome : Outcome earlier final) : final.bus.fault = none := by
  cases outcome with
  | passed accepted running clear => exact clear
  | failed => exact advanceClear _

theorem accepted (outcome : Outcome earlier final) (running : final.fault = none) :
    ∀ step ∈ earlier, step.rejected = none := by
  cases outcome with
  | passed accepted => exact accepted
  | failed accepted stops faulty => simp [running] at faulty

theorem append (first : Outcome earlier middle) (running : middle.fault = none)
    (second : Outcome later final) : Outcome (earlier ++ later) final := by
  have before := first.accepted running
  cases second with
  | passed after running clear =>
    exact .passed (List.forall_mem_append.mpr ⟨before, after⟩) running clear
  | failed after stops faulty =>
    rw [← List.append_assoc]
    exact .failed (List.forall_mem_append.mpr ⟨before, after⟩) stops faulty

theorem finish (outcome : Outcome earlier final) (change : Ppu → Ppu) :
    Outcome earlier (final.finish change) := by
  cases outcome with
  | passed accepted running clear =>
    exact .passed accepted ((finishFault _ change).trans running)
      ((finishBusFault _ change).trans clear)
  | failed accepted stops faulty =>
    have stopped := Outcome.failed accepted stops faulty
    rwa [Console.finish, if_pos (by rw [faulty, Option.isSome_some])]

theorem faulty (outcome : Outcome earlier final) (e : BoardFault) :
    final.fault = some e ↔ ∃ step ∈ earlier, step.rejected = some e := by
  cases outcome with
  | passed accepted running =>
    constructor
    · intro faulty
      simp [running] at faulty
    · rintro ⟨step, inside, stops⟩
      simp [accepted step inside] at stops
  | failed accepted stops faulty =>
    rw [faulty]
    constructor
    · rintro ⟨⟩
      exact ⟨_, List.mem_append_right _ (List.mem_singleton_self _), stops⟩
    · rintro ⟨step, inside, stops'⟩
      rcases List.mem_append.mp inside with before | now
      · simp [accepted step before] at stops'
      · rw [List.mem_singleton.mp now, stops] at stops'
        exact stops'

theorem last (outcome : Outcome earlier final) {e : BoardFault} (faulty : final.fault = some e) :
    ∃ before last, earlier = before ++ [last] ∧ (∀ step ∈ before, step.rejected = none) ∧
      last.StoppedBy e ∧ final = last.advance.2 := by
  cases outcome with
  | passed accepted running => simp [running] at faulty
  | failed accepted stops faulty' =>
    rw [faulty'] at faulty
    cases faulty
    exact ⟨_, _, rfl, accepted, stoppedBy stops, rfl⟩

end Outcome

theorem stepsOutcome {console : Console} (clear : console.bus.fault = none)
    (running : console.fault = none) {n : Nat} (goes : ∀ k < n, (console.after k).fault = none) :
    Outcome (console.steps n) (console.after n) := by
  induction n with
  | zero => exact .passed (by simp [steps]) running clear
  | succ n ih =>
    have before := goes n (Nat.lt_succ_self n)
    have accepted := (ih fun k below => goes k (Nat.lt_succ_of_lt below)).accepted before
    have faulty := advanceFault (afterClear clear n)
    rw [before, Option.none_or] at faulty
    rw [stepsSucc, afterSucc]
    -- A fault of an instruction before would have ended the row there.
    cases stops : (console.after n).rejected with
    | some e => exact .failed accepted stops (faulty.trans stops)
    | none =>
      refine .passed (List.forall_mem_append.mpr ⟨accepted, ?_⟩) (faulty.trans stops) ?_
      · simpa using stops
      · exact advanceClear _

def sliceSteps (console : Console) (budget : Nat) : List Console :=
  console.steps (console.sliceLength budget)

theorem sliceOutcome {console : Console} (clear : console.bus.fault = none)
    (running : console.fault = none) (budget : Nat) :
    Outcome (console.sliceSteps budget) (console.sliceEnd budget) :=
  stepsOutcome clear running fun k below => by
    have goes := ((console.sliceOfLength budget).running k below).2
    simpa using (Bool.or_eq_false_iff.mp goes).2

theorem blankedFault (console : Console) : console.blanked.fault = console.fault := by
  obtain ⟨cpu, bus, same⟩ := console.blankedDevices
  rw [same]

theorem blankedClear {console : Console} (clear : console.bus.fault = none) :
    console.blanked.bus.fault = none := by
  cases wanted : (console.bus.receive .beginVblank).video.ppu.wantsNmi with
  | true =>
    have entered := (console.bus.receive .beginVblank).performAllFault
      (console.cpu.spendTrace (Registers.interrupt Registers.nonMaskableVector)
        (console.bus.receive .beginVblank))
    rw [Cpu.replaySpend, Cpu.spendInterruptRejection, Option.or_none] at entered
    rw [(blankedNmi wanted).2]
    exact entered.trans clear
  | false =>
    rw [(blankedQuiet wanted).2]
    exact clear

def pausedSteps (console : Console) : List Console :=
  console.ready.sliceSteps console.requestedCycles

def budgetSteps (console : Console) (budget : Nat) : List Console :=
  let post := console.blankShare budget
  let before := console.sliceEnd (budget - post)
  console.sliceSteps (budget - post) ++
    if before.fault.isSome then [] else before.blanked.sliceSteps post

def frameSteps (console : Console) (elapsed : Duration) : List Console :=
  if console.fault.isSome ∨ console.bus.video.cart.isNone then []
  else if console.paused then console.pausedSteps
  else console.budgetSteps (console.budget elapsed)

theorem pausedOutcome {console : Console} (clear : console.bus.fault = none)
    (running : console.fault = none) :
    ∃ stats final, console.runPaused = report stats final ∧
      stats.instructions = console.pausedSteps.length ∧ Outcome console.pausedSteps final := by
  have readyClear : console.ready.bus.fault = none := clear
  have slice := sliceOutcome readyClear running console.requestedCycles
  rw [runPausedParts]
  exact ⟨_, _, rfl, (stepsLength _ _).symm, slice.finish Ppu.render⟩

theorem budgetOutcome {console : Console} (clear : console.bus.fault = none)
    (running : console.fault = none) (budget : Nat) :
    ∃ stats final, console.runBudget budget = report stats final ∧
      stats.instructions = (console.budgetSteps budget).length ∧
      Outcome (console.budgetSteps budget) final := by
  have first := sliceOutcome clear running (budget - console.blankShare budget)
  have firstLength := console.stepsLength (console.sliceLength (budget - console.blankShare budget))
  rw [runBudgetParts]
  simp only [budgetSteps]
  generalize console.sliceEnd (budget - console.blankShare budget) = before at *
  cases failed : before.fault with
  | some e =>
    simp only [Option.isSome_some, if_true, List.append_nil]
    exact ⟨_, _, rfl, firstLength.symm, first⟩
  | none =>
    have second := sliceOutcome (blankedClear first.clear) ((blankedFault before).trans failed)
      (console.blankShare budget)
    simp only [Option.isSome_none, Bool.false_eq_true, if_false]
    refine ⟨_, _, rfl, ?_, first.append failed (second.finish Ppu.endVblank)⟩
    rw [List.length_append, sliceSteps, sliceSteps, stepsLength, stepsLength]

theorem frameOutcome {console : Console} (clear : console.bus.fault = none)
    (running : console.fault = none) (inserted : console.bus.video.cart.isSome = true)
    (elapsed : Duration) :
    ∃ stats final, console.runFrame elapsed = report stats final ∧
      stats.instructions = (console.frameSteps elapsed).length ∧
      Outcome (console.frameSteps elapsed) final := by
  obtain ⟨cart, present⟩ := Option.isSome_iff_exists.mp inserted
  unfold frameSteps runFrame
  simp only [running, present, Option.isSome_none, Option.isNone_some, Bool.false_eq_true, or_self,
    if_false]
  cases held : console.paused with
  | true => exact pausedOutcome clear running
  | false => exact budgetOutcome clear running _

theorem reportFault (stats : FrameStats) (console : Console) (e : BoardFault) :
    (report stats console).1 = .error (.fault e) ↔ console.fault = some e := by
  unfold report
  cases console.fault <;> simp

theorem insertFaults (console : Console) (cart : Cartridge) :
    (console.insert cart).fault = none ∧ (console.insert cart).bus.fault = none := by
  have low := (console.bus.powerOn cart).readFault Registers.resetVector
  have high := ((console.bus.powerOn cart).read Registers.resetVector).2.readFault
    (Registers.resetVector + 1)
  exact ⟨rfl, high.trans low⟩

theorem faultyFrame {console : Console} {e : BoardFault} (faulty : console.fault = some e)
    (elapsed : Duration) : console.runFrame elapsed = (.error (.fault e), console) := by
  unfold runFrame
  rw [faulty]

theorem runFrameClear {console : Console} (clear : console.bus.fault = none)
    (elapsed : Duration) : (console.runFrame elapsed).2.bus.fault = none := by
  cases faulty : console.fault with
  | some e => rwa [faultyFrame faulty]
  | none =>
    cases inserted : console.bus.video.cart with
    | none =>
      unfold runFrame
      rwa [faulty, inserted]
    | some cart =>
      obtain ⟨stats, final, done, -, outcome⟩ :=
        frameOutcome clear faulty (by rw [inserted, Option.isSome_some]) elapsed
      rw [done, reportConsole]
      exact outcome.clear

theorem loadClear {console : Console} (clear : console.bus.fault = none)
    (cart : Except LoadError Cartridge) : (console.load cart).2.bus.fault = none := by
  cases cart with
  | error e => exact clear
  | ok cart => exact (console.insertFaults cart).2

theorem performClear (console : Console) (operation : Operation)
    (clear : console.bus.fault = none) : (console.perform operation).bus.fault = none := by
  cases operation with
  | loadBytes data => exact loadClear clear (Cartridge.ofBytes data)
  | loadFile contents => exact loadClear clear (Cartridge.ofFile contents)
  | insert cart => exact (console.insertFaults cart).2
  | runFrame elapsed => exact runFrameClear clear elapsed
  | setPaused | requestStep | hold | drainSamples => exact clear

theorem sessionClear (config : Config) (operations : List Operation) :
    (session config operations).bus.fault = none :=
  @sessionInvariant config (fun console => console.bus.fault = none) rfl performClear operations

def Operation.loads : Operation → Bool
  | loadBytes data => (Cartridge.ofBytes data).isOk
  | loadFile contents => (Cartridge.ofFile contents).isOk
  | insert _ => true
  | _ => false

theorem loadFault (console : Console) (cart : Except LoadError Cartridge) :
    (console.load cart).2.fault = if cart.isOk then none else console.fault := by
  cases cart <;> rfl

theorem performFault {console : Console} {e : BoardFault} (faulty : console.fault = some e)
    (operation : Operation) :
    (console.perform operation).fault = if operation.loads then none else some e := by
  rw [← faulty]
  cases operation with
  | loadBytes data => exact console.loadFault _
  | loadFile contents => exact console.loadFault _
  | runFrame elapsed => rw [perform, faultyFrame faulty]; rfl
  | insert | setPaused | requestStep | hold | drainSamples => rfl

theorem performAllFault {console : Console} {e : BoardFault} (faulty : console.fault = some e)
    {later : List Operation} (without : ∀ operation ∈ later, operation.loads = false) :
    (later.foldl perform console).fault = some e := by
  induction later generalizing console with
  | nil => exact faulty
  | cons operation later ih =>
    obtain ⟨now, others⟩ := List.forall_mem_cons.mp without
    have kept := performFault faulty operation
    rw [now] at kept
    exact ih kept others

/-- A frame ends with a fault exactly if one of its instructions made a write that the board
rejects. Then that instruction was its last, and with the interrupt that waited for it led to the
console after the frame. No frame from then on does anything but report the fault, until a
cartridge is loaded. -/
theorem faultStopsOnce (config : Config) (operations : List Operation) (elapsed : Duration)
    (running : (session config operations).fault = none)
    (inserted : (session config operations).bus.video.cart.isSome = true) :
    let console := session config operations
    let result := (console.runFrame elapsed).1
    let final := (console.runFrame elapsed).2
    (∀ e, result = .error (.fault e) ↔
      ∃ step ∈ console.frameSteps elapsed, step.rejected = some e) ∧
    (∀ stats, result = .ok stats → stats.instructions = (console.frameSteps elapsed).length) ∧
    ∀ e, result = .error (.fault e) →
      (∃ earlier last, console.frameSteps elapsed = earlier ++ [last] ∧
        (∀ step ∈ earlier, step.rejected = none) ∧ last.StoppedBy e ∧ final = last.advance.2) ∧
      ∀ later : List Operation, (∀ operation ∈ later, operation.loads = false) →
        let frozen := later.foldl perform final
        (∀ elapsed', frozen.runFrame elapsed' = (.error (.fault e), frozen)) ∧
          ∀ operation, operation.loads = true → (frozen.perform operation).fault = none := by
  intro console result final
  obtain ⟨stats, last, done, length, outcome⟩ :=
    frameOutcome (sessionClear config operations) running inserted elapsed
  have ends : final = last := (congrArg Prod.snd done).trans (reportConsole stats last)
  have reported : result = (report stats last).1 := congrArg Prod.fst done
  rw [reported, ends]
  refine ⟨fun e => (reportFault stats last e).trans (outcome.faulty e), ?_, ?_⟩
  · intro stats' passed
    obtain ⟨rfl, -, -⟩ := reportOk (Prod.ext passed rfl)
    exact length
  · intro e failed
    have faulty := (reportFault stats last e).mp failed
    refine ⟨outcome.last faulty, fun later without => ?_⟩
    have frozen := performAllFault faulty without
    refine ⟨faultyFrame frozen, fun operation loads => ?_⟩
    rw [performFault frozen, loads]
    rfl

def storingCartridge : Cartridge where
  prg := Array.replicate 0x4000 0x8D
  chr := .rom #[]
  prgBanks := 1
  chrBanks := 1
  mapper := 0
  mirroring := .vertical

def storingOperations : List Operation :=
  [.insert storingCartridge, .setPaused true, .requestStep]

theorem faultStopsOnceStoring :
    let console := session {} storingOperations
    let final := (console.runFrame ⟨0, 0⟩).2
    let frozen := [Operation.setPaused false, .drainSamples].foldl perform final
    (console.fault = none ∧ console.bus.video.cart.isSome = true) ∧
      (∃ step ∈ console.frameSteps ⟨0, 0⟩, step.rejected = some (.cpuWrite 0x8D8D 0)) ∧
      (∃ earlier last, console.frameSteps ⟨0, 0⟩ = earlier ++ [last] ∧
        (∀ step ∈ earlier, step.rejected = none) ∧
        last.StoppedBy (.cpuWrite 0x8D8D 0) ∧ final = last.advance.2) ∧
      frozen.runFrame ⟨1, 0⟩ = (.error (.fault (.cpuWrite 0x8D8D 0)), frozen) ∧
      (frozen.perform (.insert storingCartridge)).fault = none := by
  intro console final frozen
  have running : console.fault = none := rfl
  have inserted : console.bus.video.cart.isSome = true := rfl
  have stops : ∃ step ∈ console.frameSteps ⟨0, 0⟩, step.rejected = some (.cpuWrite 0x8D8D 0) := by
    decide +kernel
  obtain ⟨errors, -, once⟩ :=
    faultStopsOnce {} storingOperations ⟨0, 0⟩ running inserted
  obtain ⟨last, later⟩ := once _ ((errors _).mpr stops)
  obtain ⟨stays, ends⟩ := later [.setPaused false, .drainSamples] (by decide)
  exact ⟨⟨running, inserted⟩, stops, last, stays ⟨1, 0⟩, ends (.insert storingCartridge) rfl⟩

end Console
end Nes
