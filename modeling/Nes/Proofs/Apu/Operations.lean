import Mathlib.Data.List.Induction
import Nes.Apu

/-! Histories of the sound unit: what is written to it, what is read from it, and the cycles that
pass. An event of a cycle can raise a flag, which then stands until an operation clears it. -/
namespace Nes.Apu

inductive Operation where
  | write (addr : UInt16) (value : UInt8)
  | readStatus
  | tick (cycles : Nat)
  | drain
  | reset
  deriving DecidableEq, Repr

def Operation.cycles : Operation → Nat
  | tick cycles => cycles
  | _ => 0

def elapsed : List Operation → Nat
  | [] => 0
  | operation :: rest => operation.cycles + elapsed rest

def perform (apu : Apu) : Operation → Apu
  | .write addr value => apu.write addr value
  | .readStatus => apu.readStatus.2
  | .tick cycles => apu.tick cycles
  | .drain => apu.drain.2
  | .reset => apu.reset

def performAll (apu : Apu) (operations : List Operation) : Apu :=
  operations.foldl perform apu

theorem tickSucc (apu : Apu) (n : Nat) : apu.tick (n + 1) = (apu.tick n).cycle := by
  induction n generalizing apu with
  | zero => rfl
  | succ n ih => exact ih apu.cycle

theorem tickHolds {holds : Apu → Prop} (cycle : ∀ apu, holds apu → holds apu.cycle) {apu : Apu}
    (now : holds apu) (n : Nat) : holds (apu.tick n) := by
  induction n with
  | zero => exact now
  | succ n ih =>
    rw [tickSucc]
    exact cycle _ ih

theorem elapsedConcat (operations : List Operation) (operation : Operation) :
    elapsed (operations ++ [operation]) = elapsed operations + operation.cycles := by
  induction operations with
  | nil => exact Nat.add_comm _ _
  | cons first rest ih => rw [List.cons_append, elapsed, ih, elapsed, Nat.add_assoc]

theorem performAllConcat (apu : Apu) (operations : List Operation) (operation : Operation) :
    apu.performAll (operations ++ [operation]) = (apu.performAll operations).perform operation :=
  List.foldl_append

theorem registerAt {addr : UInt16} {n : Nat} (here : addr.toNat = n) : addr = .ofNat n := by
  rw [← here, UInt16.ofNat_toNat]

theorem beatFrame (apu : Apu) (beat : Beat) : (apu.beat beat).frame = apu.frame := by
  cases beat <;> rfl

theorem beatDmc (apu : Apu) (beat : Beat) : (apu.beat beat).dmc = apu.dmc := by
  cases beat <;> rfl

theorem cyclePart {α : Type} (part : Apu → α)
    (blind : ∀ apu output, part { apu with output } = part apu) (apu : Apu) :
    part apu.cycle = part apu.clockFrame.clockTimers := by
  unfold cycle
  simp only
  split <;> exact blind _ _

theorem timersPulses {α : Type} (part : Pulse → α) (kept : ∀ p, part p.clockTimer = part p)
    (apu : Apu) :
    part apu.clockTimers.pulse1 = part apu.pulse1 ∧
      part apu.clockTimers.pulse2 = part apu.pulse2 := by
  unfold clockTimers
  simp only
  split
  · exact ⟨kept _, kept _⟩
  · exact ⟨rfl, rfl⟩

theorem cycleFrame (apu : Apu) : apu.cycle.frame = apu.frame.clock.2 :=
  (cyclePart Apu.frame (fun _ _ => rfl) apu).trans (beatFrame _ _)

theorem cycleDmc (apu : Apu) : apu.cycle.dmc = apu.dmc.clockTimer :=
  (cyclePart Apu.dmc (fun _ _ => rfl) apu).trans (congrArg Dmc.clockTimer (beatDmc _ _))

def told (apu : Apu) : Nat → Bool
  | 0 => apu.pulse1.length.active
  | 1 => apu.pulse2.length.active
  | 2 => apu.triangle.length.active
  | 3 => apu.noise.length.active
  | 4 => apu.dmc.active
  | 6 => apu.frame.irq
  | 7 => apu.dmc.irq
  | _ => false

theorem statusTold (apu : Apu) {i : Nat} (inside : i < 8) : testBit apu.status i = apu.told i := by
  have told (pulse1 pulse2 triangle noise dmc frame sample : Bool) :
      (List.range 8).map (testBit (pulse1.toUInt8 + 2 * pulse2.toUInt8 + 4 * triangle.toUInt8 +
        8 * noise.toUInt8 + 16 * dmc.toUInt8 + 64 * frame.toUInt8 + 128 * sample.toUInt8)) =
      [pulse1, pulse2, triangle, noise, dmc, false, frame, sample] := by
    revert pulse1 pulse2 triangle noise dmc frame sample
    decide
  have bits : (List.range 8).map (testBit apu.status) = (List.range 8).map apu.told :=
    told _ _ _ _ _ _ _
  exact List.map_inj_left.mp bits i (List.mem_range.mpr inside)

-- The event has happened in a cycle of the history, and no operation after that cycle clears it.
def Since (event : Apu → Prop) (clears : Operation → Bool) (apu : Apu)
    (operations : List Operation) : Prop :=
  ∃ before cycles after k, operations = before ++ .tick cycles :: after ∧ k < cycles ∧
    event ((apu.performAll before).tick k) ∧ ∀ operation ∈ after, clears operation = false

section
variable (event : Apu → Prop) (clears : Operation → Bool) (apu : Apu)

theorem sinceNil : ¬Since event clears apu [] := by
  rintro ⟨before, cycles, after, k, split, -⟩
  simp at split

theorem sinceConcat (operations : List Operation) (operation : Operation) :
    Since event clears apu (operations ++ [operation]) ↔
      Since event clears apu operations ∧ clears operation = false ∨
        ∃ k < operation.cycles, event ((apu.performAll operations).tick k) := by
  constructor
  · rintro ⟨before, cycles, after, k, split, inside, now, quiet⟩
    cases after using List.reverseRecOn with
    | nil =>
      obtain ⟨rfl, same⟩ := List.append_inj' split rfl
      cases same
      exact .inr ⟨k, inside, now⟩
    | append_singleton after last =>
      rw [← List.cons_append, ← List.append_assoc] at split
      obtain ⟨rfl, same⟩ := List.append_inj' split rfl
      cases same
      obtain ⟨quiet, stands⟩ := List.forall_mem_append.mp quiet
      exact .inl ⟨⟨before, cycles, after, k, rfl, inside, now, quiet⟩,
        stands operation (List.mem_singleton_self _)⟩
  · rintro (⟨⟨before, cycles, after, k, rfl, inside, now, quiet⟩, stands⟩ | ⟨k, inside, now⟩)
    · refine ⟨before, cycles, after ++ [operation], k, ?_, inside, now, ?_⟩
      · rw [List.append_assoc, List.cons_append]
      · exact List.forall_mem_append.mpr ⟨quiet, by simpa using stands⟩
    · cases operation with
      | tick cycles => exact ⟨operations, cycles, [], k, rfl, inside, now, by simp⟩
      | write | readStatus | drain | reset => exact absurd inside k.not_lt_zero

end

structure Latch (flag : Apu → Bool) (event : Apu → Prop) (clears : Operation → Bool) : Prop where
  cycle : ∀ apu : Apu, flag apu.cycle = true ↔ flag apu = true ∨ event apu
  tick : ∀ cycles, clears (.tick cycles) = false
  write : ∀ (apu : Apu) addr value,
    flag (apu.write addr value) = (flag apu && !clears (.write addr value))
  readStatus : ∀ apu : Apu, flag apu.readStatus.2 = (flag apu && !clears .readStatus)
  drain : ∀ apu : Apu, flag apu.drain.2 = (flag apu && !clears .drain)
  reset : ∀ apu : Apu, flag apu.reset = (flag apu && !clears .reset)

namespace Latch
variable {flag : Apu → Bool} {event : Apu → Prop} {clears : Operation → Bool}
  (latch : Latch flag event clears)
include latch

theorem afterTick (apu : Apu) (n : Nat) :
    flag (apu.tick n) = true ↔ flag apu = true ∨ ∃ k < n, event (apu.tick k) := by
  induction n with
  | zero => simp [Apu.tick]
  | succ n ih =>
    rw [tickSucc, latch.cycle, ih, or_assoc]
    refine or_congr_right ⟨?_, ?_⟩
    · rintro (⟨k, inside, now⟩ | now)
      · exact ⟨k, Nat.lt_succ_of_lt inside, now⟩
      · exact ⟨n, Nat.lt_succ_self n, now⟩
    · rintro ⟨k, inside, now⟩
      rcases Nat.lt_succ_iff_lt_or_eq.mp inside with before | rfl
      · exact .inl ⟨k, before, now⟩
      · exact .inr now

theorem afterPerform (apu : Apu) (operation : Operation) :
    flag (apu.perform operation) = true ↔
      flag apu = true ∧ clears operation = false ∨
        ∃ k < operation.cycles, event (apu.tick k) := by
  have other (kept : flag (apu.perform operation) = (flag apu && !clears operation))
      (instant : operation.cycles = 0) :
      flag (apu.perform operation) = true ↔ flag apu = true ∧ clears operation = false ∨
        ∃ k < operation.cycles, event (apu.tick k) := by
    simp [kept, instant]
  cases operation with
  | tick cycles =>
    rw [perform, latch.afterTick, latch.tick, and_iff_left rfl]
    rfl
  | write addr value => exact other (latch.write apu addr value) rfl
  | readStatus => exact other (latch.readStatus apu) rfl
  | drain => exact other (latch.drain apu) rfl
  | reset => exact other (latch.reset apu) rfl

theorem history {apu : Apu} (low : flag apu = false) (operations : List Operation) :
    flag (apu.performAll operations) = true ↔ Since event clears apu operations := by
  induction operations using List.reverseRecOn with
  | nil => simp [performAll, low, sinceNil]
  | append_singleton operations operation ih =>
    rw [performAllConcat, latch.afterPerform, ih, sinceConcat]

end Latch
end Nes.Apu
