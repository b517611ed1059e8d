import Nes.Proofs.Bus.Signals
import Nes.Proofs.Console.Slice
import Nes.Proofs.Cpu.DeviceMap

/-! The timeline of a frame: every signal that reaches the devices while the console runs, in its
order. Played to the bus of the console before the frame, the timeline gives the bus after it. -/
namespace Nes

def Cpu.spendTrace {σ : Type} [Device σ] (cpu : Cpu) (work : Registers → Transaction Registers)
    (bus : σ) : List Access :=
  if cpu.registers.halted then [] else (work cpu.registers).trace bus

def Cpu.interruptTrace {σ : Type} [Device σ] (cpu : Cpu) (bus : σ) : List Access :=
  if cpu.registers.status.interruptDisable then []
  else cpu.spendTrace (Registers.interrupt Registers.interruptVector) bus

namespace Console

def interrupted (console : Console) : Nat × Cpu × Bus :=
  let (_, cpu, bus) := console.cpu.step console.bus
  if bus.apu.irqPending then cpu.requestInterrupt bus else (0, cpu, bus)

def stepTrace (console : Console) : List Access :=
  console.cpu.spendTrace Registers.instruction console.bus

def entryTrace (console : Console) : List Access :=
  let (_, cpu, bus) := console.cpu.step console.bus
  if bus.apu.irqPending then cpu.interruptTrace bus else []

def advanceSignals (console : Console) : List Signal :=
  (console.stepTrace ++ console.entryTrace).map .access ++
    [.tick ((console.cpu.step console.bus).1 + console.interrupted.1), .takeFault]

def signals (console : Console) : Nat → List Signal
  | 0 => []
  | n + 1 => console.advanceSignals ++ console.advance.2.signals n

def sliceSignals (console : Console) (budget : Nat) : List Signal :=
  console.signals (console.sliceLength budget)

def blankSignals (console : Console) : List Signal :=
  let bus := console.bus.receive .beginVblank
  .beginVblank ::
    if bus.video.ppu.wantsNmi then
      (console.cpu.spendTrace (Registers.interrupt Registers.nonMaskableVector) bus).map .access ++
        [.tick (console.cpu.requestNmi bus).1]
    else []

def pausedSignals (console : Console) : List Signal :=
  console.ready.sliceSignals console.requestedCycles ++
    if (console.ready.sliceEnd console.requestedCycles).fault.isSome then [] else [.render]

def budgetSignals (console : Console) (budget : Nat) : List Signal :=
  let post := console.blankShare budget
  let before := console.sliceEnd (budget - post)
  console.sliceSignals (budget - post) ++
    if before.fault.isSome then []
    else
      before.blankSignals ++ before.blanked.sliceSignals post ++
        if (before.blanked.sliceEnd post).fault.isSome then [] else [.endVblank]

def frameSignals (console : Console) (elapsed : Duration) : List Signal :=
  if console.fault.isSome ∨ console.bus.video.cart.isNone then []
  else if console.paused then console.pausedSignals
  else console.budgetSignals (console.budget elapsed)

end Console

namespace Cpu
variable {σ : Type} [Device σ]

theorem replaySpend (cpu : Cpu) (work : Registers → Transaction Registers) (bus : σ) :
    (cpu.spendTrace work bus).foldl Access.perform bus = (cpu.spend work bus).2.2 := by
  unfold spendTrace spend
  split
  · rfl
  · exact Transaction.replay (work cpu.registers) bus

theorem replayInterrupt (cpu : Cpu) (bus : σ) :
    (cpu.interruptTrace bus).foldl Access.perform bus = (cpu.requestInterrupt bus).2.2 := by
  unfold interruptTrace requestInterrupt
  split
  · rfl
  · exact cpu.replaySpend _ bus

end Cpu

namespace Console

theorem advanceParts (console : Console) :
    let cycles := (console.cpu.step console.bus).1 + console.interrupted.1
    let ticked := console.interrupted.2.2.tick cycles
    console.advance = (cycles, { console with
      cpu := console.interrupted.2.1
      bus := ticked.takeFault.2
      fault := console.fault.or ticked.fault }) := by
  rfl

theorem interruptedMap {f : Bus → Bus} (map : DeviceMap f)
    (line : ∀ bus : Bus, (f bus).apu.irqPending = bus.apu.irqPending) {console console' : Console}
    (cpu : console'.cpu = console.cpu) (bus : console'.bus = f console.bus) :
    (console'.cpu.step console'.bus).1 = (console.cpu.step console.bus).1 ∧
      console'.interrupted =
        (console.interrupted.1, console.interrupted.2.1, f console.interrupted.2.2) := by
  have step := map.step console.cpu console.bus
  unfold interrupted
  rw [cpu, bus, step]
  refine ⟨rfl, ?_⟩
  obtain ⟨cycles, cpu, bus⟩ := console.cpu.step console.bus
  simp only [line]
  split
  · exact map.requestInterrupt cpu bus
  · rfl

theorem replayInterrupted (console : Console) :
    (console.stepTrace ++ console.entryTrace).foldl Access.perform console.bus =
      console.interrupted.2.2 := by
  rw [List.foldl_append, stepTrace, Cpu.replaySpend]
  change console.entryTrace.foldl Access.perform (console.cpu.step console.bus).2.2 = _
  unfold entryTrace interrupted
  obtain ⟨cycles, cpu, bus⟩ := console.cpu.step console.bus
  by_cases pending : bus.apu.irqPending
  · simp only [if_pos pending]
    exact cpu.replayInterrupt bus
  · simp only [if_neg pending]
    rfl

theorem replayAdvance (console : Console) :
    console.bus.play console.advanceSignals = console.advance.2.bus := by
  rw [advanceSignals, Bus.playAppend, Bus.playAccesses, replayInterrupted, advanceParts]
  rfl

theorem replaySignals (console : Console) (n : Nat) :
    console.bus.play (console.signals n) = (console.after n).bus := by
  induction n generalizing console with
  | zero => rfl
  | succ n ih => rw [signals, Bus.playAppend, replayAdvance, ih, after]

theorem replaySlice (console : Console) (budget : Nat) :
    console.bus.play (console.sliceSignals budget) = (console.sliceEnd budget).bus :=
  console.replaySignals _

theorem blankedNmi {console : Console}
    (wanted : (console.bus.receive .beginVblank).video.ppu.wantsNmi = true) :
    let entered := console.cpu.requestNmi (console.bus.receive .beginVblank)
    console.blankCycles = entered.1 ∧ console.blanked = { console with
      cpu := entered.2.1
      bus := entered.2.2.tick entered.1 } := by
  have shown : (console.bus.video.update Ppu.beginVblank).ppu.wantsNmi = true := wanted
  unfold blankCycles blanked enterBlank
  simp only [if_pos shown, Nat.zero_add]
  exact ⟨rfl, rfl⟩

theorem blankedQuiet {console : Console}
    (quiet : (console.bus.receive .beginVblank).video.ppu.wantsNmi = false) :
    console.blankCycles = 0 ∧
      console.blanked = { console with bus := console.bus.receive .beginVblank } := by
  have shown : ¬(console.bus.video.update Ppu.beginVblank).ppu.wantsNmi = true :=
    Bool.eq_false_iff.mp quiet
  unfold blankCycles blanked enterBlank
  simp only [if_neg shown, true_and]
  rfl

theorem blankedDevices (console : Console) :
    ∃ cpu bus, console.blanked = { console with cpu, bus } := by
  cases wanted : (console.bus.receive .beginVblank).video.ppu.wantsNmi with
  | true => exact ⟨_, _, (blankedNmi wanted).2⟩
  | false => exact ⟨_, _, (blankedQuiet wanted).2⟩

theorem replayBlank (console : Console) :
    console.bus.play console.blankSignals = console.blanked.bus := by
  cases wanted : (console.bus.receive .beginVblank).video.ppu.wantsNmi with
  | true =>
    have entered := console.cpu.replaySpend (Registers.interrupt Registers.nonMaskableVector)
      (console.bus.receive .beginVblank)
    simp only [blankSignals, wanted, if_true]
    rw [(blankedNmi wanted).2, Bus.playCons, Bus.playAppend, Bus.playAccesses, entered]
    rfl
  | false =>
    simp only [blankSignals, wanted, Bool.false_eq_true, if_false]
    rw [(blankedQuiet wanted).2]
    rfl

theorem replayFinish (console : Console) (change : Ppu → Ppu) (signal : Signal)
    (same : ∀ bus : Bus, bus.receive signal = { bus with video := bus.video.update change }) :
    console.bus.play (if console.fault.isSome then [] else [signal]) =
      (console.finish change).bus := by
  unfold finish
  split
  · rfl
  · exact same console.bus

theorem reportConsole (stats : FrameStats) (console : Console) :
    (report stats console).2 = console := by
  unfold report
  split <;> rfl

theorem reportSame {console console' : Console} (same : console'.fault = console.fault)
    (stats : FrameStats) : (report stats console').1 = (report stats console).1 := by
  unfold report
  rw [same]
  split <;> rfl

theorem replayPaused (console : Console) :
    console.bus.play console.pausedSignals = console.runPaused.2.bus := by
  rw [runPausedParts, reportConsole, pausedSignals, Bus.playAppend]
  have slice := console.ready.replaySlice console.requestedCycles
  rw [show console.bus = console.ready.bus from rfl, slice]
  exact replayFinish _ Ppu.render .render fun _ => rfl

theorem replayBudget (console : Console) (budget : Nat) :
    console.bus.play (console.budgetSignals budget) = (console.runBudget budget).2.bus := by
  rw [runBudgetParts]
  simp only [budgetSignals]
  rw [Bus.playAppend, replaySlice]
  split
  · rw [reportConsole]
    rfl
  · rw [reportConsole, Bus.playAppend, Bus.playAppend, replayBlank, replaySlice]
    exact replayFinish _ Ppu.endVblank .endVblank fun _ => rfl

theorem replayFrame (console : Console) (elapsed : Duration) :
    console.bus.play (console.frameSignals elapsed) = (console.runFrame elapsed).2.bus := by
  unfold frameSignals runFrame
  cases failed : console.fault with
  | some cause => simp [Bus.play]
  | none =>
    cases inserted : console.bus.video.cart with
    | none => simp [Bus.play]
    | some cart =>
      simp only [Option.isSome_none, Option.isNone_some, Bool.false_eq_true, or_self, if_false]
      split
      · exact console.replayPaused
      · exact console.replayBudget _

end Console
end Nes
