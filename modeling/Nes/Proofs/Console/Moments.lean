import Nes.Proofs.Console.Timeline
import Nes.Proofs.Ppu.Composition

/-! The timeline of a frame with the processor in it. The processor executes an instruction or
enters a handler, and between these come the signals that it has no part in. -/
namespace Nes

inductive Work where
  | instruction
  | entry (vector : UInt16)
  deriving DecidableEq, Repr

def Work.transaction : Work → Registers → Transaction Registers
  | instruction => Registers.instruction
  | entry vector => Registers.interrupt vector

inductive Moment where
  | work (work : Work)
  | signal (signal : Signal)
  deriving DecidableEq, Repr

def Moment.nmi : Moment :=
  .work (.entry Registers.nonMaskableVector)

structure Machine where
  cpu : Cpu
  bus : Bus

namespace Machine

def work (machine : Machine) (work : Work) : Machine :=
  let (_, cpu, bus) := machine.cpu.spend work.transaction machine.bus
  ⟨cpu, bus⟩

def accesses (machine : Machine) (work : Work) : List Signal :=
  (machine.cpu.spendTrace work.transaction machine.bus).map .access

-- The moments lead from one machine to another, and to its devices come these signals. A halted
-- processor does no work.
inductive Leads : Machine → List Moment → List Signal → Machine → Prop where
  | rest (machine : Machine) : Leads machine [] [] machine
  | work {machine final : Machine} {work : Work} {moments : List Moment} {signals : List Signal}
      (running : machine.cpu.registers.halted = false)
      (later : Leads (machine.work work) moments signals final) :
      Leads machine (.work work :: moments) (machine.accesses work ++ signals) final
  | signal {machine final : Machine} {signal : Signal} {moments : List Moment}
      {signals : List Signal}
      (later : Leads { machine with bus := machine.bus.receive signal } moments signals final) :
      Leads machine (.signal signal :: moments) (signal :: signals) final

theorem Leads.append {machine middle final : Machine} {moments moments' : List Moment}
    {signals signals' : List Signal} (one : Leads machine moments signals middle)
    (other : Leads middle moments' signals' final) :
    Leads machine (moments ++ moments') (signals ++ signals') final := by
  induction one with
  | rest machine => exact other
  | work running later ih =>
    rw [List.cons_append, List.append_assoc]
    exact .work running (ih other)
  | signal later ih => exact .signal (ih other)

def does (machine : Machine) (work : Work) : List Moment :=
  if machine.cpu.registers.halted then [] else [.work work]

theorem doesLeads (machine : Machine) (work : Work) :
    machine.Leads (machine.does work) (machine.accesses work) (machine.work work) := by
  unfold does
  cases halted : machine.cpu.registers.halted with
  | true =>
    have silent : machine.accesses work = [] := by
      rw [accesses, Cpu.spendTrace, if_pos halted, List.map_nil]
    have idle : machine.work work = machine := by
      rw [Machine.work, Cpu.spend, if_pos halted]
    rw [if_pos rfl, silent, idle]
    exact .rest machine
  | false =>
    rw [if_neg Bool.false_ne_true, ← List.append_nil (machine.accesses work)]
    exact .work halted (.rest _)

end Machine

namespace Console

def machine (console : Console) : Machine :=
  ⟨console.cpu, console.bus⟩

def entryMoments (console : Console) : List Moment :=
  let machine := console.machine.work .instruction
  if machine.bus.apu.irqPending && !machine.cpu.registers.status.interruptDisable then
    machine.does (.entry Registers.interruptVector)
  else []

def advanceMoments (console : Console) : List Moment :=
  console.machine.does .instruction ++ console.entryMoments ++
    [.signal (.tick console.advance.1), .signal .takeFault]

def moments (console : Console) : Nat → List Moment
  | 0 => []
  | n + 1 => console.advanceMoments ++ console.advance.2.moments n

def sliceMoments (console : Console) (budget : Nat) : List Moment :=
  console.moments (console.sliceLength budget)

def blankMoments (console : Console) : List Moment :=
  let bus := console.bus.receive .beginVblank
  .signal .beginVblank ::
    if bus.video.ppu.wantsNmi then
      Machine.does ⟨console.cpu, bus⟩ (.entry Registers.nonMaskableVector) ++
        [.signal (.tick (console.cpu.requestNmi bus).1)]
    else []

def pausedMoments (console : Console) : List Moment :=
  console.ready.sliceMoments console.requestedCycles ++
    if (console.ready.sliceEnd console.requestedCycles).fault.isSome then []
    else [.signal .render]

def budgetMoments (console : Console) (budget : Nat) : List Moment :=
  let post := console.blankShare budget
  let before := console.sliceEnd (budget - post)
  console.sliceMoments (budget - post) ++
    if before.fault.isSome then []
    else
      before.blankMoments ++ before.blanked.sliceMoments post ++
        if (before.blanked.sliceEnd post).fault.isSome then [] else [.signal .endVblank]

def frameMoments (console : Console) (elapsed : Duration) : List Moment :=
  if console.fault.isSome ∨ console.bus.video.cart.isNone then []
  else if console.paused then console.pausedMoments
  else console.budgetMoments (console.budget elapsed)

theorem entryLeads (console : Console) :
    (console.machine.work .instruction).Leads console.entryMoments
      (console.entryTrace.map .access) ⟨console.interrupted.2.1, console.interrupted.2.2⟩ := by
  have stepped : console.machine.work .instruction =
      ⟨(console.cpu.step console.bus).2.1, (console.cpu.step console.bus).2.2⟩ := rfl
  unfold entryMoments entryTrace interrupted
  rw [stepped]
  obtain ⟨cycles, cpu, bus⟩ := console.cpu.step console.bus
  simp only
  by_cases pending : bus.apu.irqPending = true
  · rw [if_pos pending, if_pos pending, pending, Bool.true_and]
    unfold Cpu.interruptTrace Cpu.requestInterrupt
    cases masked : cpu.registers.status.interruptDisable with
    | true => exact .rest _
    | false => exact Machine.doesLeads ⟨cpu, bus⟩ (.entry Registers.interruptVector)
  · rw [if_neg pending, if_neg pending, Bool.eq_false_iff.mpr pending, Bool.false_and]
    exact .rest _

theorem advanceLeads (console : Console) :
    console.machine.Leads console.advanceMoments console.advanceSignals
      console.advance.2.machine := by
  have worked := (console.machine.doesLeads .instruction).append console.entryLeads
  unfold advanceMoments advanceSignals
  rw [List.map_append]
  exact worked.append (.signal (.signal (.rest _)))

theorem momentsLead (console : Console) (n : Nat) :
    console.machine.Leads (console.moments n) (console.signals n) (console.after n).machine := by
  induction n generalizing console with
  | zero => exact .rest _
  | succ n ih => exact console.advanceLeads.append (ih console.advance.2)

theorem sliceLeads (console : Console) (budget : Nat) :
    console.machine.Leads (console.sliceMoments budget) (console.sliceSignals budget)
      (console.sliceEnd budget).machine :=
  console.momentsLead _

theorem blankLeads (console : Console) :
    console.machine.Leads console.blankMoments console.blankSignals console.blanked.machine := by
  unfold blankMoments blankSignals
  refine .signal ?_
  cases wanted : (console.bus.receive .beginVblank).video.ppu.wantsNmi with
  | true =>
    rw [if_pos rfl, if_pos rfl, (blankedNmi wanted).2]
    exact (Machine.doesLeads _ (.entry Registers.nonMaskableVector)).append (.signal (.rest _))
  | false =>
    rw [if_neg Bool.false_ne_true, if_neg Bool.false_ne_true, (blankedQuiet wanted).2]
    exact .rest _

theorem finishLeads (console : Console) (change : Ppu → Ppu) (signal : Signal)
    (same : ∀ bus : Bus, bus.receive signal = { bus with video := bus.video.update change }) :
    console.machine.Leads (if console.fault.isSome then [] else [.signal signal])
      (if console.fault.isSome then [] else [signal]) (console.finish change).machine := by
  unfold finish
  split
  · exact .rest _
  · refine .signal ?_
    rw [same]
    exact .rest _

theorem pausedLeads (console : Console) :
    console.machine.Leads console.pausedMoments console.pausedSignals
      console.runPaused.2.machine := by
  rw [runPausedParts, reportConsole]
  exact (console.ready.sliceLeads console.requestedCycles).append
    (finishLeads _ Ppu.render .render fun _ => rfl)

theorem budgetLeads (console : Console) (budget : Nat) :
    console.machine.Leads (console.budgetMoments budget) (console.budgetSignals budget)
      (console.runBudget budget).2.machine := by
  rw [runBudgetParts]
  refine (console.sliceLeads (budget - console.blankShare budget)).append ?_
  simp only
  generalize console.sliceEnd (budget - console.blankShare budget) = before
  split
  · rw [reportConsole]
    exact .rest _
  · rw [reportConsole]
    exact (before.blankLeads.append (before.blanked.sliceLeads _)).append
      (finishLeads _ Ppu.endVblank .endVblank fun _ => rfl)

theorem frameLeads (console : Console) (elapsed : Duration) :
    console.machine.Leads (console.frameMoments elapsed) (console.frameSignals elapsed)
      (console.runFrame elapsed).2.machine := by
  unfold frameMoments frameSignals runFrame
  cases failed : console.fault with
  | some cause => exact .rest _
  | none =>
    cases inserted : console.bus.video.cart with
    | none => exact .rest _
    | some cart =>
      simp only [Option.isSome_none, Option.isNone_some, Bool.false_eq_true, or_self, if_false]
      split
      · exact console.pausedLeads
      · exact console.budgetLeads _

end Console

theorem Ppu.beginVblankWants (ppu : Ppu) : ppu.beginVblank.wantsNmi = ppu.wantsNmi := by
  unfold beginVblank
  rw [renderParts]
  rfl

namespace Machine

theorem doesOther (machine : Machine) {work : Work}
    (other : work ≠ .entry Registers.nonMaskableVector) : .nmi ∉ machine.does work := by
  intro inside
  unfold does at inside
  split at inside
  · cases inside
  · cases List.mem_singleton.mp inside
    exact other rfl

theorem doesNmi (machine : Machine) :
    (machine.does (.entry Registers.nonMaskableVector)).count .nmi =
      (!machine.cpu.registers.halted).toNat := by
  unfold does
  cases machine.cpu.registers.halted <;> rfl

end Machine

namespace Console

theorem advanceNmi (console : Console) : .nmi ∉ console.advanceMoments := by
  have entered : .nmi ∉ console.entryMoments := by
    unfold entryMoments
    simp only
    split
    · exact Machine.doesOther _ (by decide)
    · exact List.not_mem_nil
  unfold advanceMoments
  simp only [List.mem_append, not_or]
  exact ⟨⟨Machine.doesOther _ (by decide), entered⟩, by simp [Moment.nmi]⟩

theorem momentsNmi (console : Console) (n : Nat) : .nmi ∉ console.moments n := by
  induction n generalizing console with
  | zero => nofun
  | succ n ih =>
    intro inside
    rcases List.mem_append.mp inside with now | later
    · exact console.advanceNmi now
    · exact ih _ later

theorem sliceNmi (console : Console) (budget : Nat) :
    (console.sliceMoments budget).count .nmi = 0 :=
  List.count_eq_zero.mpr (console.momentsNmi _)

theorem blankNmi (console : Console) :
    console.blankMoments.count .nmi =
      (console.bus.video.ppu.wantsNmi && !console.cpu.registers.halted).toNat := by
  have entry := Machine.doesNmi ⟨console.cpu, console.bus.receive .beginVblank⟩
  have wants : (console.bus.receive .beginVblank).video.ppu.wantsNmi =
      console.bus.video.ppu.wantsNmi := console.bus.video.ppu.beginVblankWants
  unfold blankMoments
  simp only [wants]
  rw [List.count_cons_of_ne (by decide : Moment.signal .beginVblank ≠ .nmi)]
  cases console.bus.video.ppu.wantsNmi with
  | true =>
    rw [if_pos rfl, List.count_append, entry]
    rfl
  | false => rfl

end Console
end Nes
