import Nes.Proofs.Console.FrameCycles

/-! When an interrupt of the sound unit is served. The line is looked at after an instruction and
before the sound unit is ticked by its cycles. What these cycles raise is therefore not served
before the next instruction, but after it. -/
namespace Nes

theorem Cpu.requestInterruptServed {σ : Type} [Device σ] {cpu : Cpu}
    (unmasked : cpu.registers.status.interruptDisable = false)
    (running : cpu.registers.halted = false) (bus : σ) :
    (cpu.requestInterrupt bus).1 = 7 ∧
      (cpu.requestInterrupt bus).2.1.registers.status.interruptDisable = true := by
  rw [requestInterrupt, if_neg (by simp [unmasked]), spend, if_neg (by simp [running])]
  exact ⟨rfl, rfl⟩

namespace Console

def waits (console : Console) : Bool :=
  console.bus.apu.irqPending && !console.cpu.registers.status.interruptDisable

def stepped (console : Console) : Cpu × Bus :=
  (console.cpu.step console.bus).2

def stepCycles (console : Console) : Nat :=
  (console.cpu.step console.bus).1

theorem interruptedQuiet {console : Console} (quiet : console.stepped.2.apu.irqPending = false) :
    console.interrupted = (0, console.stepped) := by
  have low : ¬console.stepped.2.apu.irqPending = true := by simp [quiet]
  exact if_neg low

theorem interruptedRequest {console : Console} (raised : console.stepped.2.apu.irqPending = true) :
    console.interrupted = console.stepped.1.requestInterrupt console.stepped.2 :=
  if_pos raised

theorem interruptedMasked {console : Console} (raised : console.stepped.2.apu.irqPending = true)
    (masked : console.stepped.1.registers.status.interruptDisable = true) :
    console.interrupted = (0, console.stepped) := by
  rw [interruptedRequest raised, Cpu.requestInterrupt, if_pos masked]

theorem interruptedServed {console : Console} (raised : console.stepped.2.apu.irqPending = true)
    (unmasked : console.stepped.1.registers.status.interruptDisable = false)
    (running : console.stepped.1.registers.halted = false) :
    console.interrupted.1 = 7 ∧
      console.interrupted.2.1.registers.status.interruptDisable = true := by
  rw [interruptedRequest raised]
  exact Cpu.requestInterruptServed unmasked running _

theorem waitsAfterQuiet {console : Console} (quiet : console.stepped.2.apu.irqPending = false) :
    console.advance.2.waits =
      ((console.stepped.2.apu.tick console.stepCycles).irqPending &&
        !console.stepped.1.registers.status.interruptDisable) := by
  rw [advanceParts, interruptedQuiet quiet]
  rfl

theorem waitsNotAfterRaised {console : Console}
    (running : console.advance.2.cpu.registers.halted = false)
    (raised : console.stepped.2.apu.irqPending = true) : console.advance.2.waits = false := by
  have cpu : console.advance.2.cpu = console.interrupted.2.1 := by rw [advanceParts]
  rw [cpu] at running
  suffices masked : console.interrupted.2.1.registers.status.interruptDisable = true by
    rw [waits, cpu, masked, Bool.not_true, Bool.and_false]
  cases masked : console.stepped.1.registers.status.interruptDisable with
  | true =>
    rw [interruptedMasked raised masked]
    exact masked
  | false =>
    cases halted : console.stepped.1.registers.halted with
    | true =>
      rw [interruptedRequest raised, Cpu.requestInterruptHalted halted, halted] at running
      cases running
    | false => exact (interruptedServed raised masked halted).2

theorem waitsNext {console : Console} (running : console.advance.2.cpu.registers.halted = false) :
    console.advance.2.waits = true ↔
      console.stepped.2.apu.irqPending = false ∧
      console.stepped.1.registers.status.interruptDisable = false ∧
      (console.stepped.2.apu.tick console.stepCycles).irqPending = true := by
  cases line : console.stepped.2.apu.irqPending with
  | true => simp [waitsNotAfterRaised running line]
  | false =>
    rw [waitsAfterQuiet line, Bool.and_eq_true, Bool.not_eq_true']
    constructor
    · rintro ⟨raised, unmasked⟩
      exact ⟨rfl, unmasked, raised⟩
    · rintro ⟨-, unmasked, raised⟩
      exact ⟨raised, unmasked⟩

theorem advanceServed {console : Console} (raised : console.stepped.2.apu.irqPending = true)
    (unmasked : console.stepped.1.registers.status.interruptDisable = false)
    (running : console.stepped.1.registers.halted = false) :
    console.advance.1 = console.stepCycles + 7 ∧
      console.advance.2.cpu.registers.status.interruptDisable = true := by
  obtain ⟨cycles, masked⟩ := interruptedServed raised unmasked running
  rw [advanceParts, cycles]
  exact ⟨rfl, masked⟩

theorem sliceRunning {console : Console} {budget k : Nat}
    (inside : k < console.sliceLength budget) :
    (console.after k).cpu.registers.halted = false :=
  (Bool.or_eq_false_iff.mp ((console.sliceOfLength budget).running k inside).2).1

/-- An interrupt waits at the next instruction of a slice exactly if the cycles of the one before
have raised it after the line was found low, and it is not masked. It is served after that
instruction, if the line is still raised then, not masked and the processor not halted. -/
theorem interruptWaitsOneInstruction (console : Console) (budget k : Nat)
    (inside : k + 1 < console.sliceLength budget) :
    let last := console.after k
    let now := console.after (k + 1)
    (now.waits = true ↔
      last.stepped.2.apu.irqPending = false ∧
      last.stepped.1.registers.status.interruptDisable = false ∧
      (last.stepped.2.apu.tick last.stepCycles).irqPending = true) ∧
    (now.stepped.2.apu.irqPending = true →
      now.stepped.1.registers.status.interruptDisable = false →
      now.stepped.1.registers.halted = false →
      now.advance.1 = now.stepCycles + 7 ∧
        now.advance.2.cpu.registers.status.interruptDisable = true) := by
  intro last now
  have next : now = last.advance.2 := console.afterSucc k
  have running : now.cpu.registers.halted = false := sliceRunning inside
  refine ⟨?_, advanceServed⟩
  rw [next] at running ⊢
  exact waitsNext running

def expiringConsole : Console where
  bus := {
    ram := WorkRam.clear.writeAll 0 [0xEA, 0xEA]
    apu := { Apu.standard with
      dmc := { irqEnabled := true, timer := ⟨53, 1⟩, bytes := 1, bits := 1 } } }
  config := {}

theorem interruptWaitsOneInstructionExpiring :
    0 + 1 < expiringConsole.sliceLength 3 ∧ (expiringConsole.after 1).waits = true ∧
      (expiringConsole.after 1).advance.1 = (expiringConsole.after 1).stepCycles + 7 ∧
      (expiringConsole.after 1).advance.2.cpu.registers.status.interruptDisable = true := by
  have inside : 0 + 1 < expiringConsole.sliceLength 3 := by decide +kernel
  have slice := interruptWaitsOneInstruction expiringConsole 3 0 inside
  simp only [Nat.zero_add] at slice
  obtain ⟨waiting, served⟩ := slice
  refine ⟨inside, waiting.mpr ⟨?_, ?_, ?_⟩, served ?_ ?_ ?_⟩
  all_goals decide +kernel

example :
    let masking := { expiringConsole with
      bus := { expiringConsole.bus with ram := WorkRam.clear.writeAll 0 [0xEA, 0x78] } }
    (masking.after 1).waits = true ∧ (masking.after 1).advance.1 = 2 ∧
      (masking.after 2).bus.apu.irqPending = true ∧ (masking.after 2).waits = false := by
  decide +kernel

end Console
end Nes
