import Mathlib.Data.List.Forall2
import Nes.Proofs.Apu.Operations

/-! The channels do not see each other. Who sees nothing but one channel, the sequencer and the
output clock knows what they will do, and so what is written to another channel is nothing to
them. -/
namespace Nes.Apu

inductive Channel where
  | pulse1
  | pulse2
  | triangle
  | noise
  | dmc
  deriving DecidableEq, Repr

namespace Channel

def State : Channel → Type
  | pulse1 | pulse2 => Pulse
  | triangle => Triangle
  | noise => Noise
  | dmc => Dmc

def ofRegister (addr : UInt16) : Option Channel :=
  match addr.toNat with
  | 0x4000 | 0x4001 | 0x4002 | 0x4003 => some pulse1
  | 0x4004 | 0x4005 | 0x4006 | 0x4007 => some pulse2
  | 0x4008 | 0x400A | 0x400B => some triangle
  | 0x400C | 0x400E | 0x400F => some noise
  | 0x4010 | 0x4011 | 0x4012 | 0x4013 => some dmc
  | _ => none

def enableBit : Channel → Nat
  | pulse1 => 0
  | pulse2 => 1
  | triangle => 2
  | noise => 3
  | dmc => 4

theorem enableBitInj {c c' : Channel} (same : c.enableBit = c'.enableBit) : c = c' := by
  cases c <;> cases c' <;> first | rfl | cases same

def ofStatusBit : Nat → Option Channel
  | 0 => some pulse1
  | 1 => some pulse2
  | 2 => some triangle
  | 3 => some noise
  | 4 | 7 => some dmc
  | _ => none

-- The same operation, but for what it writes to one channel.
inductive Alike (chosen : Channel) : Operation → Operation → Prop where
  | same (operation : Operation) : Alike chosen operation operation
  | register {addr : UInt16} (own : ofRegister addr = some chosen) (value value' : UInt8) :
      Alike chosen (.write addr value) (.write addr value')
  | enable {value value' : UInt8}
      (others : ∀ i, i ≠ chosen.enableBit → testBit value i = testBit value' i) :
      Alike chosen (.write 0x4015 value) (.write 0x4015 value')

end Channel

def channel (apu : Apu) : (c : Channel) → c.State
  | .pulse1 => apu.pulse1
  | .pulse2 => apu.pulse2
  | .triangle => apu.triangle
  | .noise => apu.noise
  | .dmc => apu.dmc

def view (apu : Apu) (c : Channel) : Apu where
  pulse1 := if c = .pulse1 then apu.pulse1 else { negation := .onesComplement }
  pulse2 := if c = .pulse2 then apu.pulse2 else { negation := .twosComplement }
  triangle := if c = .triangle then apu.triangle else {}
  noise := if c = .noise then apu.noise else {}
  dmc := if c = .dmc then apu.dmc else {}
  frame := apu.frame
  oddCycle := apu.oddCycle
  output := { apu.output with samples := .replicate apu.output.samples.size 0 }

section
variable (apu : Apu) (c : Channel)

theorem viewChannel : (apu.view c).channel c = apu.channel c := by
  cases c <;> rfl

theorem viewSize : (apu.view c).output.samples.size = apu.output.samples.size :=
  Array.size_replicate

theorem viewView : (apu.view c).view c = apu.view c := by
  unfold view
  simp only [Array.size_replicate]
  cases c <;> rfl

theorem viewBeat (beat : Beat) : (apu.beat beat).view c = ((apu.view c).beat beat).view c := by
  rw [← viewView]
  cases beat <;> cases c <;> rfl

theorem viewTimers : apu.clockTimers.view c = (apu.view c).clockTimers.view c := by
  rw [← viewView]
  cases c <;> rfl

theorem viewClockFrame : apu.clockFrame.view c = (apu.view c).clockFrame.view c :=
  viewBeat { apu with frame := apu.frame.clock.2 } c apu.frame.clock.1

theorem viewEmit (sample : Int16) :
    view { apu with output := apu.output.emit sample } c =
      view { apu.view c with output := (apu.view c).output.emit 0 } c := by
  unfold view Resampler.emit
  simp only [Array.size_push, Array.size_replicate]
  cases c <;> rfl

theorem viewCycle : apu.cycle.view c = (apu.view c).cycle.view c := by
  have clocked : apu.clockFrame.clockTimers.view c =
      (apu.view c).clockFrame.clockTimers.view c := by
    rw [viewTimers, viewClockFrame, ← viewTimers]
  have due : apu.clockFrame.clockTimers.output.due =
      (apu.view c).clockFrame.clockTimers.output.due :=
    congrArg (·.output.due) clocked
  unfold cycle
  simp only
  rw [due]
  split
  · rw [viewEmit, clocked, ← viewEmit]
  · exact congrArg (fun seen => { seen with output := seen.output.skip }) clocked

theorem viewWrite (addr : UInt16) (value : UInt8) :
    (apu.write addr value).view c = ((apu.view c).write addr value).view c := by
  unfold write
  split
  case h_20 => exact viewBeat { apu with frame := (apu.frame.write value).2 } c _
  case h_21 => exact (viewView apu c).symm
  all_goals
    rw [← viewView]
    cases c <;> rfl

theorem viewReadStatus : apu.readStatus.2.view c = (apu.view c).readStatus.2.view c := by
  rw [← viewView]
  cases c <;> rfl

theorem viewDrain : apu.drain.2.view c = (apu.view c).drain.2.view c := by
  cases c <;> rfl

theorem viewReset : apu.reset.view c = (apu.view c).reset.view c :=
  rfl

theorem viewOther {addr : UInt16} {own : Channel} (register : Channel.ofRegister addr = some own)
    (other : c ≠ own) (value : UInt8) : (apu.write addr value).view c = apu.view c := by
  unfold Channel.ofRegister at register
  unfold write
  split at register
  all_goals cases register
  all_goals
    rename_i here
    simp only [here]
    cases c
  all_goals first | rfl | exact absurd rfl other

theorem viewTick (cycles : Nat) : (apu.tick cycles).view c = ((apu.view c).tick cycles).view c := by
  induction cycles with
  | zero => exact (viewView apu c).symm
  | succ n ih => rw [tickSucc, viewCycle, ih, ← viewCycle, tickSucc]

theorem viewPerform (operation : Operation) :
    (apu.perform operation).view c = ((apu.view c).perform operation).view c := by
  cases operation with
  | write addr value => exact viewWrite apu c addr value
  | readStatus => exact viewReadStatus apu c
  | tick cycles => exact viewTick apu c cycles
  | drain => exact viewDrain apu c
  | reset => exact viewReset apu c

theorem viewEnable {value value' : UInt8}
    (same : testBit value c.enableBit = testBit value' c.enableBit) :
    (apu.write 0x4015 value).view c = (apu.write 0x4015 value').view c := by
  cases c with
  | pulse1 =>
    exact congrArg (fun on => view { apu with pulse1 := apu.pulse1.enable on } .pulse1) same
  | pulse2 =>
    exact congrArg (fun on => view { apu with pulse2 := apu.pulse2.enable on } .pulse2) same
  | triangle =>
    exact congrArg (fun on => view { apu with triangle := apu.triangle.enable on } .triangle) same
  | noise => exact congrArg (fun on => view { apu with noise := apu.noise.enable on } .noise) same
  | dmc => exact congrArg (fun on => view { apu with dmc := apu.dmc.enable on } .dmc) same

theorem toldView {i : Nat} (owner : ∀ own ∈ Channel.ofStatusBit i, own = c) :
    (apu.view c).told i = apu.told i := by
  unfold told
  split
  all_goals first | rfl | cases owner _ rfl; rfl

end

def Apart (chosen : Channel) (apu apu' : Apu) : Prop :=
  ∀ c, c ≠ chosen → apu.view c = apu'.view c

namespace Apart
variable {chosen : Channel} {apu apu' : Apu}

theorem perform (apart : Apart chosen apu apu') {operation operation' : Operation}
    (alike : chosen.Alike operation operation') :
    Apart chosen (apu.perform operation) (apu'.perform operation') := by
  intro c other
  have seen := apart c other
  cases alike with
  | same => rw [viewPerform, seen, ← viewPerform]
  | register own value value' =>
    rw [Apu.perform, Apu.perform, viewOther apu c own other, viewOther apu' c own other, seen]
  | enable others =>
    rename_i value value'
    have same : testBit value c.enableBit = testBit value' c.enableBit :=
      others c.enableBit fun same => other (Channel.enableBitInj same)
    rw [viewPerform, seen, ← viewPerform]
    exact viewEnable apu' c same

theorem performAll (apart : Apart chosen apu apu') {operations operations' : List Operation}
    (alike : List.Forall₂ chosen.Alike operations operations') :
    Apart chosen (apu.performAll operations) (apu'.performAll operations') := by
  induction alike generalizing apu apu' with
  | nil => exact apart
  | cons first rest ih => exact ih (apart.perform first)

end Apart

/-- Two histories from power on that differ only in what is written to the registers of one channel
and to its bit of the enable register. At every cycle of every operation the other channels are in
the same state, and so are the sequencer, with its flags, and the parity of the pulse channels;
there are equally many samples, and the status differs only in the bits of that channel. -/
theorem channelsIsolated (clockHz : Float) (sampleRate : Nat) (chosen : Channel)
    {operations operations' : List Operation}
    (alike : List.Forall₂ chosen.Alike operations operations') (k cycles : Nat) :
    let fresh := Apu.new clockHz sampleRate
    let apu := (fresh.performAll (operations.take k)).tick cycles
    let apu' := (fresh.performAll (operations'.take k)).tick cycles
    (∀ c, c ≠ chosen → apu.channel c = apu'.channel c) ∧
      apu.frame = apu'.frame ∧
      apu.oddCycle = apu'.oddCycle ∧
      apu.output.samples.size = apu'.output.samples.size ∧
      ∀ i < 8, Channel.ofStatusBit i ≠ some chosen →
        testBit apu.readStatus.1 i = testBit apu'.readStatus.1 i := by
  intro fresh apu apu'
  have begun : Apart chosen fresh fresh := fun _ _ => rfl
  have apart : Apart chosen apu apu' :=
    (begun.performAll (List.forall₂_take k alike)).perform (.same (.tick cycles))
  obtain ⟨observer, other⟩ : ∃ c, c ≠ chosen := by
    cases chosen with
    | pulse1 => exact ⟨.pulse2, nofun⟩
    | pulse2 | triangle | noise | dmc => exact ⟨.pulse1, nofun⟩
  have seen := apart observer other
  have sequencer : (apu.view observer).frame = (apu'.view observer).frame := by rw [seen]
  have parity : (apu.view observer).oddCycle = (apu'.view observer).oddCycle := by rw [seen]
  refine ⟨fun c other => ?_, sequencer, parity, ?_, ?_⟩
  · rw [← viewChannel, apart c other, viewChannel]
  · rw [← viewSize apu observer, seen, viewSize]
  · intro i inside free
    have told : apu.told i = apu'.told i := by
      cases owner : Channel.ofStatusBit i with
      | none =>
        have own : ∀ own ∈ Channel.ofStatusBit i, own = observer := by simp [owner]
        rw [← toldView apu observer own, seen, toldView apu' observer own]
      | some c =>
        have own : ∀ own ∈ Channel.ofStatusBit i, own = c := by simp [owner]
        rw [← toldView apu c own, apart c fun same => free (same ▸ owner), toldView apu' c own]
    exact (statusTold apu inside).trans (told.trans (statusTold apu' inside).symm)

theorem channelsIsolatedPulse :
    let operations := [.write 0x4015 0x13, .write 0x4003 0xF8, .write 0x4007 0x18,
      .write 0x4017 0x80, .tick 2, .readStatus]
    let operations' := [.write 0x4015 0x12, .write 0x4003 0x00, .write 0x4007 0x18,
      .write 0x4017 0x80, .tick 2, .readStatus]
    let apu := standard.performAll operations
    let apu' := standard.performAll operations'
    List.Forall₂ Channel.pulse1.Alike operations operations' ∧
      apu.pulse1.length.value = 29 ∧ apu'.pulse1.length.value = 0 ∧
      apu.pulse2 = apu'.pulse2 ∧ apu.pulse2.length.value = 1 ∧
      apu.frame = apu'.frame ∧
      testBit apu.readStatus.1 0 = true ∧ testBit apu'.readStatus.1 0 = false ∧
      testBit apu.readStatus.1 1 = testBit apu'.readStatus.1 1 := by
  intro operations operations' apu apu'
  have bits : ∀ i, i ≠ Channel.pulse1.enableBit → testBit 0x13 i = testBit 0x12 i := by
    rintro (_ | i) other
    · exact absurd rfl other
    · exact (Nat.testBit_succ 19 i).trans (Nat.testBit_succ 18 i).symm
  have alike : List.Forall₂ Channel.pulse1.Alike operations operations' :=
    .cons (.enable bits) <| .cons (.register rfl _ _) <| .cons (.same _) <| .cons (.same _) <|
      .cons (.same _) <| .cons (.same _) .nil
  obtain ⟨others, frame, -, -, status⟩ := channelsIsolated _ _ .pulse1 alike 6 0
  exact ⟨alike, by decide +kernel, by decide +kernel, others .pulse2 nofun, by decide +kernel,
    frame, by decide +kernel, by decide +kernel, status 1 (by decide) nofun⟩

end Nes.Apu
