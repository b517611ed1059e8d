import Nes.Proofs.Apu.ChannelIsolation
import Nes.Proofs.Apu.SampleDrain

/-! How a sample starts. Enabling the delta channel starts the sample that its registers describe,
unless one is being played; but a length that was never written is no length, and then there is
nothing to start. -/
namespace Nes

namespace Dmc
variable (d : Dmc)

theorem enableOn :
    d.enable true = { d with
      irq := false
      currentAddress := if d.bytes = 0 then d.sampleAddress else d.currentAddress
      bytes := if d.bytes = 0 then d.sampleLength else d.bytes } := by
  unfold enable active
  cases empty : d.bytes with
  | zero => simp [restart]
  | succ n => simp

theorem lengthOfPos (last : Option UInt8) : 0 < lengthOf last ↔ last.isSome = true := by
  cases last with
  | none => exact iff_of_false (Nat.lt_irrefl 0) Bool.false_ne_true
  | some value => exact iff_of_true (Nat.succ_pos _) rfl

end Dmc

namespace Apu

/-- Enabling the delta channel leaves the bytes that are left of a sample, and without any it
starts a sample of the length that was last written. The channel is then active, exactly if a
length has been written since power on or a reset, and its interrupt is acknowledged. The other
channels are as they would be without this bit. -/
theorem enableStartsSample (clockHz : Float) (outputRate : Nat) (operations : List Operation)
    {value : UInt8} (on : testBit value Channel.dmc.enableBit = true) :
    let apu := (new clockHz outputRate).performAll operations
    let written := apu.write 0x4015 value
    let last := lastWrite 0x4013 operations
    written.dmc.bytes = (if apu.dmc.bytes = 0 then Dmc.lengthOf last else apu.dmc.bytes) ∧
      written.dmc.active = last.isSome ∧
      testBit written.readStatus.1 4 = last.isSome ∧
      written.dmc.irq = false ∧
      ∀ value', (∀ i, i ≠ Channel.dmc.enableBit → testBit value' i = testBit value i) →
        ∀ c, c ≠ .dmc → (apu.write 0x4015 value').channel c = written.channel c := by
  intro apu written last
  have set : apu.dmc.sampleLength = Dmc.lengthOf last :=
    sampleLengthSet.performAll clockHz outputRate operations
  have lasting : apu.dmc.Lasting :=
    @Kept.performAll _ keptLasting (new clockHz outputRate) nofun operations
  have enabled : written.dmc = apu.dmc.enable true := congrArg apu.dmc.enable on
  rw [Dmc.enableOn] at enabled
  have bytes : written.dmc.bytes =
      if apu.dmc.bytes = 0 then Dmc.lengthOf last else apu.dmc.bytes := by
    rw [enabled, ← set]
  -- A sample that is being played got its length from a write.
  have active : written.dmc.active = last.isSome := by
    rw [Bool.eq_iff_iff, ← Dmc.lengthOfPos, Dmc.active, bne_iff_ne, bytes, ← Nat.pos_iff_ne_zero]
    split
    · exact Iff.rfl
    · rename_i playing
      have some : 0 < apu.dmc.bytes := Nat.pos_of_ne_zero playing
      exact iff_of_true some (set ▸ lasting some)
  refine ⟨bytes, active, (written.statusTold (by decide)).trans active, ?_, ?_⟩
  · rw [enabled]
  · intro value' same c other
    have seen := viewEnable apu c
      (same c.enableBit fun bit => other (Channel.enableBitInj bit))
    rw [← viewChannel, seen, viewChannel]

theorem enableStartsSampleWritten :
    let fresh := new 1789773 44100
    let set := fresh.performAll [.write 0x4013 2, .tick 3]
    testBit 0x1F Channel.dmc.enableBit = true ∧
      (set.write 0x4015 0x1F).dmc.bytes = 33 ∧
      testBit (set.write 0x4015 0x1F).readStatus.1 4 = true ∧
      testBit (fresh.write 0x4015 0x1F).readStatus.1 4 = false := by
  intro fresh set
  have on : testBit 0x1F Channel.dmc.enableBit = true := rfl
  obtain ⟨bytes, -, status, -, -⟩ :=
    enableStartsSample 1789773 44100 [.write 0x4013 2, .tick 3] on
  obtain ⟨-, -, none, -, -⟩ := enableStartsSample 1789773 44100 [] on
  exact ⟨on, bytes.trans (by decide +kernel), status, none⟩

end Apu
end Nes
