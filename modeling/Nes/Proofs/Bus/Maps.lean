import Nes.Bus
import Nes.Proofs.Cpu.DeviceMap

/-! Maps of the bus. A change of video or of the sound unit that their registers do not show, and
that stays the same change whatever is done to the registers, goes through the whole bus. -/
namespace Nes

structure Video.Maps (f : Video → Video) : Prop where
  cart : ∀ video, (f video).cart = video.cart
  readRegister : ∀ video addr,
    (f video).readRegister addr = ((video.readRegister addr).1, f (video.readRegister addr).2)
  writeRegister : ∀ video addr value,
    (f video).writeRegister addr value =
      ((video.writeRegister addr value).1, f (video.writeRegister addr value).2)
  copyToOam : ∀ video bytes,
    (f video).update (·.copyToOam bytes) = f (video.update (·.copyToOam bytes))

structure Apu.Maps (g : Apu → Apu) : Prop where
  readStatus : ∀ apu, (g apu).readStatus = (apu.readStatus.1, g apu.readStatus.2)
  write : ∀ apu addr value, (g apu).write addr value = g (apu.write addr value)

theorem Video.mapsId : Maps id :=
  ⟨fun _ => rfl, fun _ _ => rfl, fun _ _ _ => rfl, fun _ _ => rfl⟩

theorem Apu.mapsId : Maps id :=
  ⟨fun _ => rfl, fun _ _ _ => rfl⟩

namespace Bus

def map (f : Video → Video) (g : Apu → Apu) (bus : Bus) : Bus :=
  { bus with video := f bus.video, apu := g bus.apu }

section
variable {f : Video → Video} {g : Apu → Apu} (video : Video.Maps f) (apu : Apu.Maps g) (bus : Bus)
include video apu

theorem answerMap (addr : UInt16) :
    (bus.map f g).answer addr = ((bus.answer addr).1, (bus.answer addr).2.map f g) := by
  have register := video.readRegister bus.video addr
  have status := apu.readStatus bus.apu
  unfold answer
  split
  · rfl
  split
  · exact congrArg (fun done => (done.1, { bus.map f g with video := done.2 })) register
  split
  · split
    · exact congrArg (fun done => (done.1, { bus.map f g with apu := done.2 })) status
    all_goals rfl
  · rw [map, video.cart]

theorem readMap (addr : UInt16) :
    (bus.map f g).read addr = ((bus.read addr).1, (bus.read addr).2.map f g) := by
  unfold read
  rw [answerMap video apu]
  rfl

theorem readIntoMap (bytes : List UInt8) (addrs : List UInt16) :
    (bus.map f g).readInto bytes addrs =
      ((bus.readInto bytes addrs).1, (bus.readInto bytes addrs).2.map f g) := by
  induction addrs generalizing bus bytes with
  | nil => rfl
  | cons addr rest ih =>
    unfold readInto
    rw [readMap video apu]
    exact ih _ _

theorem readPageMap (page : UInt8) :
    (bus.map f g).readPage page = ((bus.readPage page).1, (bus.readPage page).2.map f g) := by
  unfold readPage
  split
  · rfl
  · generalize pageAddresses page = addrs
    rw [readIntoMap video apu]

theorem copyPageMap (page : UInt8) :
    (bus.map f g).copyPageToOam page = (bus.copyPageToOam page).map f g := by
  unfold copyPageToOam
  rw [readPageMap video apu]
  generalize bus.readPage page = read
  exact congrArg (fun copied => { read.2.map f g with video := copied })
    (video.copyToOam read.2.video read.1)

theorem writeMap (addr : UInt16) (value : UInt8) :
    (bus.map f g).write addr value = (bus.write addr value).map f g := by
  have register := video.writeRegister bus.video addr value
  have sound := apu.write bus.apu addr value
  unfold write deliver
  split
  · rfl
  split
  · exact congrArg
      (fun done => { bus.map f g with video := done.2, openBus := value }.record done.1) register
  split
  · split
    · exact copyPageMap video apu { bus with openBus := value } value
    · rfl
    · exact congrArg (fun written => { bus.map f g with apu := written, openBus := value }) sound
  · change record _ ((f bus.video).cart.map _) = _
    rw [video.cart]
    rfl

end

theorem mapDevice {f : Video → Video} {g : Apu → Apu} (video : Video.Maps f) (apu : Apu.Maps g) :
    DeviceMap (map f g) where
  read addr bus := readMap video apu bus addr
  write addr value bus := writeMap video apu bus addr value

end Bus
end Nes
