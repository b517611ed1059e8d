import Nes.Proofs.Bus.Signals

/-! Histories of the bus, as video and the sound unit see them. Each has a few operations of its
own; what these keep is kept by every signal, and so by every history. -/
namespace Nes

structure Video.Kept (holds : Video → Prop) : Prop where
  powerOn : ∀ cart, holds (powerOn cart)
  readRegister : ∀ video addr, holds video → holds (video.readRegister addr).2
  writeRegister : ∀ video addr value, holds video → holds (video.writeRegister addr value).2
  writeVram : ∀ video addr value, holds video → holds (video.writeVram addr value).2
  copyToOam : ∀ video bytes, holds video → holds (video.update (·.copyToOam bytes))
  beginVblank : ∀ video, holds video → holds (video.update Ppu.beginVblank)
  endVblank : ∀ video, holds video → holds (video.update Ppu.endVblank)
  render : ∀ video, holds video → holds (video.update Ppu.render)

structure Apu.Kept (holds : Apu → Prop) : Prop where
  reset : ∀ apu, holds apu → holds apu.reset
  readStatus : ∀ apu, holds apu → holds apu.readStatus.2
  write : ∀ apu addr value, holds apu → holds (apu.write addr value)
  tick : ∀ apu cycles, holds apu → holds (apu.tick cycles)
  drain : ∀ apu, holds apu → holds apu.drain.2

theorem Video.keptTrivial : Kept fun _ => True where
  powerOn _ := trivial
  readRegister _ _ _ := trivial
  writeRegister _ _ _ _ := trivial
  writeVram _ _ _ _ := trivial
  copyToOam _ _ _ := trivial
  beginVblank _ _ := trivial
  endVblank _ _ := trivial
  render _ _ := trivial

theorem Apu.keptTrivial : Kept fun _ => True where
  reset _ _ := trivial
  readStatus _ _ := trivial
  write _ _ _ _ := trivial
  tick _ _ _ := trivial
  drain _ _ := trivial

theorem Video.Kept.and {p q : Video → Prop} (first : Kept p) (second : Kept q) :
    Kept fun video => p video ∧ q video where
  powerOn cart := ⟨first.powerOn cart, second.powerOn cart⟩
  readRegister video addr now :=
    ⟨first.readRegister video addr now.1, second.readRegister video addr now.2⟩
  writeRegister video addr value now :=
    ⟨first.writeRegister video addr value now.1, second.writeRegister video addr value now.2⟩
  writeVram video addr value now :=
    ⟨first.writeVram video addr value now.1, second.writeVram video addr value now.2⟩
  copyToOam video bytes now :=
    ⟨first.copyToOam video bytes now.1, second.copyToOam video bytes now.2⟩
  beginVblank video now := ⟨first.beginVblank video now.1, second.beginVblank video now.2⟩
  endVblank video now := ⟨first.endVblank video now.1, second.endVblank video now.2⟩
  render video now := ⟨first.render video now.1, second.render video now.2⟩

namespace Video
variable (video : Video)

theorem readRegisterParts (addr : UInt16) :
    ∃ status scroll latch readBuffer, (video.readRegister addr).2 =
      { video with ppu := { video.ppu with status, scroll, latch, readBuffer } } := by
  unfold readRegister
  split
  · exact ⟨_, _, _, _, rfl⟩
  · exact ⟨_, _, _, _, rfl⟩
  · unfold readData
    simp only
    split <;> exact ⟨_, _, _, _, rfl⟩
  · exact ⟨_, _, _, _, rfl⟩

theorem writeVramParts (addr : UInt16) (value : UInt8) :
    ∃ nametables palette tiles cart,
      (video.writeVram addr value).2 = ⟨{ video.ppu with nametables, palette, tiles }, cart⟩ ∧
        cart.isSome = video.cart.isSome := by
  obtain ⟨ppu, cart⟩ := video
  unfold writeVram
  cases VideoCell.ofAddress ppu.mirroring addr with
  | pattern addr =>
    cases cart with
    | none => exact ⟨_, _, _, _, rfl, rfl⟩
    | some cart =>
      simp only [writeCell, writePattern]
      cases cart.ppuWrite addr value <;> exact ⟨_, _, _, _, rfl, rfl⟩
  | nametable bank offset => exact ⟨_, _, _, _, rfl, rfl⟩
  | palette cell => exact ⟨_, _, _, _, rfl, rfl⟩

theorem readRegisterCart (addr : UInt16) : (video.readRegister addr).2.cart = video.cart := by
  obtain ⟨status, scroll, latch, readBuffer, same⟩ := video.readRegisterParts addr
  rw [same]

theorem writeVramCart (addr : UInt16) (value : UInt8) :
    (video.writeVram addr value).2.cart.isSome = video.cart.isSome := by
  obtain ⟨nametables, palette, tiles, cart, same, inserted⟩ := video.writeVramParts addr value
  rw [same, inserted]

theorem writeRegisterCart (addr : UInt16) (value : UInt8) :
    (video.writeRegister addr value).2.cart.isSome = video.cart.isSome := by
  unfold writeRegister
  split
  case h_7 => exact writeVramCart _ video.ppu.scroll.v value
  all_goals rfl

theorem keptInserted : Kept fun video => video.cart.isSome = true where
  powerOn _ := rfl
  readRegister video addr now := by rwa [video.readRegisterCart]
  writeRegister video addr value now := (video.writeRegisterCart addr value).trans now
  writeVram video addr value now := (video.writeVramCart addr value).trans now
  copyToOam _ _ now := now
  beginVblank _ now := now
  endVblank _ now := now
  render _ now := now

end Video

namespace Bus

def lasting (bus : Bus) : Bus :=
  { bus with
    video := bus.video.update fun ppu =>
      { ppu with status := 0, scroll := {}, latch := 0, readBuffer := 0 }
    apu := .standard
    controller := {}
    openBus := 0 }

theorem readLasting (bus : Bus) (addr : UInt16) : (bus.read addr).2.lasting = bus.lasting := by
  change (bus.answer addr).2.lasting = bus.lasting
  unfold answer
  split
  · rfl
  split
  · obtain ⟨status, scroll, latch, readBuffer, same⟩ := bus.video.readRegisterParts addr
    simp only [same]
    rfl
  split
  · split <;> rfl
  · rfl

theorem readPageLasting (bus : Bus) (page : UInt8) :
    (bus.readPage page).2.lasting = bus.lasting := by
  have kept (now : Bus) (addr : UInt16) (same : now.lasting = bus.lasting) :
      (now.read addr).2.lasting = bus.lasting :=
    (now.readLasting addr).trans same
  exact readPageKeeps kept rfl page

theorem readKeepsView {α : Type} (view : Bus → α) (lasts : ∀ bus, view (lasting bus) = view bus)
    (bus : Bus) (addr : UInt16) : view (bus.read addr).2 = view bus := by
  rw [← lasts, readLasting, lasts]

theorem readPageKeepsView {α : Type} (view : Bus → α)
    (lasts : ∀ bus, view (lasting bus) = view bus) (bus : Bus) (page : UInt8) :
    view (bus.readPage page).2 = view bus := by
  rw [← lasts, readPageLasting, lasts]

structure Holds (ofVideo : Video → Prop) (ofApu : Apu → Prop) (bus : Bus) : Prop where
  video : ofVideo bus.video
  apu : ofApu bus.apu

section
variable {ofVideo : Video → Prop} {ofApu : Apu → Prop} {bus : Bus}
  (video : Video.Kept ofVideo) (apu : Apu.Kept ofApu) (now : Holds ofVideo ofApu bus)
include video apu now

theorem answerHolds (addr : UInt16) : Holds ofVideo ofApu (bus.answer addr).2 := by
  unfold answer
  split
  · exact ⟨now.video, now.apu⟩
  split
  · exact ⟨video.readRegister bus.video addr now.video, now.apu⟩
  split
  · split
    · exact ⟨now.video, apu.readStatus bus.apu now.apu⟩
    all_goals exact ⟨now.video, now.apu⟩
  · exact ⟨now.video, now.apu⟩

theorem readHolds (addr : UInt16) : Holds ofVideo ofApu (bus.read addr).2 := by
  have answered := answerHolds video apu now addr
  exact ⟨answered.video, answered.apu⟩

theorem readPageHolds (page : UInt8) : Holds ofVideo ofApu (bus.readPage page).2 := by
  have kept (bus : Bus) (addr : UInt16) (held : Holds ofVideo ofApu bus) :
      Holds ofVideo ofApu (bus.read addr).2 :=
    readHolds video apu held addr
  exact readPageKeeps kept now page

theorem writeHolds (addr : UInt16) (value : UInt8) :
    Holds ofVideo ofApu (bus.write addr value) := by
  have driven : Holds ofVideo ofApu { bus with openBus := value } := ⟨now.video, now.apu⟩
  unfold write deliver
  split
  · exact ⟨now.video, now.apu⟩
  split
  · exact ⟨video.writeRegister bus.video addr value now.video, now.apu⟩
  split
  · split
    · have copied := readPageHolds video apu driven value
      exact ⟨video.copyToOam _ _ copied.video, copied.apu⟩
    · exact ⟨now.video, now.apu⟩
    · exact ⟨now.video, apu.write bus.apu addr value now.apu⟩
  · exact ⟨now.video, now.apu⟩

theorem receiveHolds (signal : Signal) : Holds ofVideo ofApu (bus.receive signal) := by
  cases signal with
  | access access =>
    cases access with
    | read addr value => exact readHolds video apu now addr
    | write addr value => exact writeHolds video apu now addr value
  | tick cycles => exact ⟨now.video, apu.tick bus.apu cycles now.apu⟩
  | takeFault => exact ⟨now.video, now.apu⟩
  | beginVblank => exact ⟨video.beginVblank bus.video now.video, now.apu⟩
  | endVblank => exact ⟨video.endVblank bus.video now.video, now.apu⟩
  | render => exact ⟨video.render bus.video now.video, now.apu⟩
  | insert cart => exact ⟨video.powerOn cart, apu.reset bus.apu now.apu⟩
  | ppuWrite addr value => exact ⟨video.writeVram bus.video addr value now.video, now.apu⟩
  | hold buttons => exact ⟨now.video, now.apu⟩
  | drain => exact ⟨now.video, apu.drain bus.apu now.apu⟩

theorem playHolds (signals : List Signal) : Holds ofVideo ofApu (bus.play signals) :=
  List.foldlRecOn signals receive now fun _ held signal _ => receiveHolds video apu held signal

end

theorem playVideo {holds : Video → Prop} {bus : Bus} (kept : Video.Kept holds)
    (now : holds bus.video) (signals : List Signal) : holds (bus.play signals).video :=
  (playHolds kept Apu.keptTrivial ⟨now, trivial⟩ signals).video

theorem playApu {holds : Apu → Prop} {bus : Bus} (kept : Apu.Kept holds) (now : holds bus.apu)
    (signals : List Signal) : holds (bus.play signals).apu :=
  (playHolds Video.keptTrivial kept ⟨trivial, now⟩ signals).apu

end Bus
end Nes
