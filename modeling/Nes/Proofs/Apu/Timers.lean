import Mathlib.Logic.Function.Iterate
import Nes.Proofs.Apu.Operations

/-! Timers over many cycles. A count runs out at fixed distances, one cycle more than its period,
and a part of the unit that nothing writes to is a matter of the cycles that have passed. -/
namespace Nes

namespace Timer

def marks (t : Timer) : Nat → List Bool
  | 0 => []
  | n + 1 => t.due :: t.clock.marks n

def expiries (t : Timer) (n : Nat) : Nat :=
  (t.marks n).count true

theorem clocksPeriod (t : Timer) (n : Nat) : (clock^[n] t).period = t.period := by
  induction n generalizing t with
  | zero => rfl
  | succ n ih => exact (ih t.clock).trans t.clockPeriod

theorem marksLength (t : Timer) (n : Nat) : (t.marks n).length = n := by
  induction n generalizing t with
  | zero => rfl
  | succ n ih => exact congrArg (· + 1) (ih t.clock)

theorem marksAdd (t : Timer) (m n : Nat) :
    t.marks (m + n) = t.marks m ++ (clock^[m] t).marks n := by
  induction m generalizing t with
  | zero => rw [Nat.zero_add]; rfl
  | succ m ih =>
    rw [Nat.succ_add, marks, ih]
    rfl

theorem marksRow (t : Timer) {m n total : Nat} (inside : m + n ≤ total) :
    ((t.marks total).drop m).take n = (clock^[m] t).marks n := by
  obtain ⟨rest, rfl⟩ := Nat.exists_eq_add_of_le inside
  rw [Nat.add_assoc, marksAdd, marksAdd, List.drop_left' (t.marksLength m),
    List.take_left' (marksLength _ n)]

theorem expiriesSucc (t : Timer) (n : Nat) :
    t.expiries (n + 1) = t.clock.expiries n + t.due.toNat := by
  unfold expiries
  rw [marks, List.count_cons]
  cases t.due <;> rfl

theorem clockCount (t : Timer) :
    t.clock.count = if t.count = 0 then t.period else t.count - 1 := by
  unfold clock due
  simp only [beq_iff_eq]
  split <;> rfl

theorem expiriesTotal (t : Timer) (n : Nat) :
    t.expiries n = (n + t.period - t.count) / (t.period + 1) := by
  induction n generalizing t with
  | zero =>
    rw [Nat.zero_add]
    exact (Nat.div_eq_of_lt (by omega)).symm
  | succ n ih =>
    rw [expiriesSucc, ih, clockPeriod, clockCount]
    cases ends : t.due with
    | true =>
      have out : t.count = 0 := beq_iff_eq.mp ends
      have one : n + 1 + t.period = n + (t.period + 1) := by omega
      rw [if_pos out, out, Nat.add_sub_cancel, Nat.sub_zero, one,
        Nat.add_div_right _ (Nat.succ_pos _)]
      rfl
    | false =>
      have left : t.count ≠ 0 := beq_eq_false_iff_ne.mp ends
      have same : n + t.period - (t.count - 1) = n + 1 + t.period - t.count := by omega
      rw [if_neg left, same]
      rfl

theorem clocksCount (t : Timer) (n : Nat) :
    (clock^[n] t).count ≤ max t.period (t.count - n) := by
  induction n generalizing t with
  | zero => exact Nat.le_max_right _ _
  | succ n ih =>
    have later := ih t.clock
    rw [clockPeriod, clockCount] at later
    refine Nat.le_trans later ?_
    split <;> omega

theorem expiriesSettled (t : Timer) (settled : t.count ≤ t.period) (n : Nat) :
    (n = t.period + 1 → t.expiries n = 1) ∧
      (t.expiries n = n / (t.period + 1) ∨
        t.expiries n = (n + t.period) / (t.period + 1)) := by
  have low : n / (t.period + 1) ≤ (n + t.period - t.count) / (t.period + 1) :=
    Nat.div_le_div_right (by omega)
  have high : (n + t.period - t.count) / (t.period + 1) ≤ (n + t.period) / (t.period + 1) :=
    Nat.div_le_div_right (Nat.sub_le _ _)
  have near : (n + t.period) / (t.period + 1) ≤ n / (t.period + 1) + 1 := by
    rw [← Nat.add_div_right n (Nat.succ_pos t.period)]
    exact Nat.div_le_div_right (by omega)
  rw [expiriesTotal]
  refine ⟨?_, by omega⟩
  rintro rfl
  have once : (t.period + 1 + t.period) / (t.period + 1) = 1 :=
    Nat.div_eq_of_lt_le (by omega) (by omega)
  rw [Nat.div_self (Nat.succ_pos t.period)] at low
  omega

end Timer

namespace Apu

namespace Operation

def sets (register : UInt16) (last : Option UInt8) : Operation → Option UInt8
  | write addr value => if addr = register then some value else last
  | reset => none
  | readStatus | tick _ | drain => last

end Operation

def lastWrite (register : UInt16) (operations : List Operation) : Option UInt8 :=
  operations.foldl (Operation.sets register) none

theorem lastWriteConcat (register : UInt16) (operations : List Operation) (operation : Operation) :
    lastWrite register (operations ++ [operation]) =
      operation.sets register (lastWrite register operations) :=
  List.foldl_append

structure Setting {α : Type} (part : Apu → α) (register : UInt16) (set : Option UInt8 → α) :
    Prop where
  powerOn : ∀ output, part { output } = set none
  write : ∀ apu addr value,
    part (apu.write addr value) = if addr = register then set (some value) else part apu
  readStatus : ∀ apu, part apu.readStatus.2 = part apu
  cycle : ∀ apu, part apu.cycle = part apu
  drain : ∀ apu, part apu.drain.2 = part apu

theorem Setting.performAll {α : Type} {part : Apu → α} {register : UInt16}
    {set : Option UInt8 → α} (setting : Setting part register set) (clockHz : Float)
    (sampleRate : Nat) (operations : List Operation) :
    part ((new clockHz sampleRate).performAll operations) =
      set (lastWrite register operations) := by
  induction operations using List.reverseRecOn with
  | nil => exact setting.powerOn _
  | append_singleton operations operation ih =>
    rw [performAllConcat, lastWriteConcat]
    cases operation with
    | write addr value =>
      refine (setting.write _ addr value).trans ?_
      rw [Operation.sets]
      split
      · rfl
      · exact ih
    | readStatus => exact (setting.readStatus _).trans ih
    | tick cycles =>
      have kept (apu : Apu) (held : part apu = set (lastWrite register operations)) :
          part apu.cycle = set (lastWrite register operations) :=
        (setting.cycle apu).trans held
      exact tickHolds kept ih cycles
    | drain => exact (setting.drain _).trans ih
    | reset => exact setting.powerOn _

structure Clocked {α : Type} (part : Apu → α) (clock : α → α) (disturbs : Operation → Bool) :
    Prop where
  cycle : ∀ apu, part apu.cycle = clock (part apu)
  write : ∀ apu addr value, disturbs (.write addr value) = false →
    part (apu.write addr value) = part apu
  readStatus : ∀ apu, disturbs .readStatus = false → part apu.readStatus.2 = part apu
  drain : ∀ apu, part apu.drain.2 = part apu
  reset : disturbs .reset = true

namespace Clocked
variable {α : Type} {part : Apu → α} {clock : α → α} {disturbs : Operation → Bool}
  (clocked : Clocked part clock disturbs)
include clocked

theorem tick (apu : Apu) (n : Nat) : part (apu.tick n) = clock^[n] (part apu) := by
  induction n with
  | zero => rfl
  | succ n ih => rw [tickSucc, clocked.cycle, ih, Function.iterate_succ_apply']

theorem perform (apu : Apu) {operation : Operation} (quiet : disturbs operation = false) :
    part (apu.perform operation) = clock^[operation.cycles] (part apu) := by
  cases operation with
  | write addr value => exact clocked.write apu addr value quiet
  | readStatus => exact clocked.readStatus apu quiet
  | tick cycles => exact clocked.tick apu cycles
  | drain => exact clocked.drain apu
  | reset => rw [clocked.reset] at quiet; cases quiet

theorem performAll (apu : Apu) {operations : List Operation}
    (quiet : ∀ operation ∈ operations, disturbs operation = false) :
    part (apu.performAll operations) = clock^[elapsed operations] (part apu) := by
  induction operations generalizing apu with
  | nil => rfl
  | cons operation rest ih =>
    obtain ⟨first, others⟩ := List.forall_mem_cons.mp quiet
    rw [elapsed, Nat.add_comm, Function.iterate_add_apply, ← clocked.perform apu first]
    exact ih (apu.perform operation) others

end Clocked
end Apu

namespace Noise

def bare (n : Noise) : Noise :=
  { n with envelope := {}, length := {} }

theorem clockShift (n : Noise) (k : Nat) :
    (clockTimer^[k] n).shift = (nextShift n.short)^[n.timer.expiries k] n.shift := by
  induction k generalizing n with
  | zero => rfl
  | succ k ih =>
    rw [Function.iterate_succ_apply, ih, Timer.expiriesSucc, Function.iterate_add_apply]
    cases ends : n.timer.due <;> simp only [clockTimer, ends] <;> rfl

theorem clockBareTimer (n : Noise) (k : Nat) :
    (clockTimer^[k] n).timer = Timer.clock^[k] n.timer := by
  have step : Function.Semiconj timer clockTimer Timer.clock := fun _ => rfl
  exact step.iterate_right k n

end Noise

namespace Apu

def Operation.disturbsNoise : Operation → Bool
  | write addr _ => addr == 0x400E
  | reset => true
  | readStatus | tick _ | drain => false

theorem beatNoise (apu : Apu) (beat : Beat) : (apu.beat beat).noise.bare = apu.noise.bare := by
  cases beat <;> rfl

theorem cycleNoise (apu : Apu) : apu.cycle.noise.bare = apu.noise.bare.clockTimer :=
  (cyclePart (·.noise.bare) (fun _ _ => rfl) apu).trans
    (congrArg Noise.clockTimer (beatNoise _ _))

theorem writeNoise (apu : Apu) (addr : UInt16) (value : UInt8) :
    (apu.write addr value).noise.bare =
      if addr = 0x400E then apu.noise.bare.writePeriod value else apu.noise.bare := by
  split
  · rename_i here
    rw [here]
    rfl
  · rename_i other
    unfold write
    split
    case h_13 here => exact absurd (UInt16.toNat_inj.mp here) other
    case h_20 => exact beatNoise _ _
    all_goals rfl

theorem noiseClocked : Clocked (·.noise.bare) Noise.clockTimer Operation.disturbsNoise where
  cycle := cycleNoise
  write apu addr value quiet := by
    rw [writeNoise, if_neg (by simpa [Operation.disturbsNoise] using quiet)]
  readStatus _ _ := rfl
  drain _ := rfl
  reset := rfl

theorem noisePeriodSet : Setting (·.noise.timer.period) 0x400E
    fun last => Noise.periods.getD ((last.getD 0).toNat % 16) 0 where
  powerOn _ := rfl
  write apu addr value := by
    refine (congrArg (fun n : Noise => n.timer.period) (apu.writeNoise addr value)).trans ?_
    split <;> rfl
  readStatus _ := rfl
  cycle apu :=
    (congrArg (fun n : Noise => n.timer.period) apu.cycleNoise).trans (Timer.clockPeriod _)
  drain _ := rfl

theorem noiseTimer {apu apu' : Apu} {n : Nat}
    (clocked : apu'.noise.bare = Noise.clockTimer^[n] apu.noise.bare) :
    apu'.noise.timer = Timer.clock^[n] apu.noise.timer :=
  (congrArg Noise.timer clocked).trans (Noise.clockBareTimer _ n)

def noiseMarks (apu : Apu) : Nat → List Bool
  | 0 => []
  | n + 1 => apu.noise.timer.due :: apu.cycle.noiseMarks n

def noiseClocks (apu : Apu) : List Operation → List Bool
  | [] => []
  | operation :: rest => apu.noiseMarks operation.cycles ++ (apu.perform operation).noiseClocks rest

theorem noiseMarksTimer (apu : Apu) (n : Nat) : apu.noiseMarks n = apu.noise.timer.marks n := by
  induction n generalizing apu with
  | zero => rfl
  | succ n ih =>
    have next : apu.cycle.noise.timer = apu.noise.timer.clock := @noiseTimer _ _ 1 apu.cycleNoise
    rw [noiseMarks, ih, next]
    rfl

theorem noiseClocksTimer (apu : Apu) {operations : List Operation}
    (quiet : ∀ operation ∈ operations, operation.disturbsNoise = false) :
    apu.noiseClocks operations = apu.noise.timer.marks (elapsed operations) := by
  induction operations generalizing apu with
  | nil => rfl
  | cons operation rest ih =>
    obtain ⟨first, others⟩ := List.forall_mem_cons.mp quiet
    rw [noiseClocks, noiseMarksTimer, ih _ others, noiseTimer (noiseClocked.perform apu first),
      elapsed, Timer.marksAdd]

/-- The shift register is clocked once in every row of cycles that is one cycle longer than the
period, when the count that stood has run out; and in any row as often as that distance goes into
it, rounded down or up. Before it the count runs out first. Nothing but a write to the register of
the period and a reset disturbs this. -/
theorem noiseRate (clockHz : Float) (sampleRate : Nat) (operations rest : List Operation)
    (quiet : ∀ operation ∈ rest, operation.disturbsNoise = false) :
    let apu := (new clockHz sampleRate).performAll operations
    let period := Noise.periods.getD (((lastWrite 0x400E operations).getD 0).toNat % 16) 0
    let count := apu.noise.timer.count
    let clocks := apu.noiseClocks rest
    (apu.performAll rest).noise.shift =
        (Noise.nextShift apu.noise.short)^[clocks.count true] apu.noise.shift ∧
      clocks.length = elapsed rest ∧
      clocks.count true = (elapsed rest + period - count) / (period + 1) ∧
      ∀ m n, count ≤ m → m + n ≤ elapsed rest →
        let row := ((clocks.drop m).take n).count true
        (n = period + 1 → row = 1) ∧
          (row = n / (period + 1) ∨ row = (n + period) / (period + 1)) := by
  intro apu period count clocks
  have setting : apu.noise.timer.period = period :=
    noisePeriodSet.performAll clockHz sampleRate operations
  have marks : clocks = apu.noise.timer.marks (elapsed rest) := apu.noiseClocksTimer quiet
  rw [marks]
  refine ⟨?_, Timer.marksLength _ _, ?_, ?_⟩
  · exact (congrArg Noise.shift (noiseClocked.performAll apu quiet)).trans
      (Noise.clockShift apu.noise.bare _)
  · rw [← setting]
    exact Timer.expiriesTotal _ _
  · intro m n passed inside row
    have settled := apu.noise.timer.clocksCount m
    have period' := apu.noise.timer.clocksPeriod m
    have rate := (Timer.clock^[m] apu.noise.timer).expiriesSettled (by omega) n
    rw [Timer.expiries, ← apu.noise.timer.marksRow inside, period', setting] at rate
    exact rate

theorem noiseRateFastest :
    let fresh := new 1789773 44100
    let rest := [Operation.tick 1, .tick 4, .tick 16]
    let clocks := fresh.noiseClocks rest
    (fresh.performAll rest).noise.shift = 0x0400 ∧ clocks.count true = 5 ∧
      ((clocks.drop 1).take 5).count true = 1 := by
  intro fresh rest clocks
  have start : (new 1789773 44100).performAll [] = fresh := rfl
  obtain ⟨shift, -, total, row⟩ := noiseRate 1789773 44100 [] rest (by decide)
  simp only [start] at shift total row
  have five : clocks.count true = 5 := total.trans (by decide +kernel)
  have steps : (Noise.nextShift false)^[5] 1 = 0x0400 := rfl
  rw [five] at shift
  exact ⟨shift.trans steps, five, (row 1 5 (Nat.zero_le 1) (by decide)).1 rfl⟩

end Apu
end Nes
