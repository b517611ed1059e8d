import Nes.Proofs.Bus.Maps
import Nes.Proofs.Ppu.Composition

/-! The pictures that the unit has drawn. Nothing that a program does on the bus reads them or
changes them. -/
namespace Nes

structure Pictures where
  background : Field Pixel
  sprites : Layer Pixel
  overlap : Bool
  frame : Layer UInt32

namespace Ppu

def pictures (ppu : Ppu) : Pictures where
  background := ppu.background
  sprites := ppu.sprites
  overlap := ppu.overlap
  frame := ppu.frame

def withPictures (ppu : Ppu) (p : Pictures) : Ppu :=
  { ppu with
    background := p.background
    sprites := p.sprites
    overlap := p.overlap
    frame := p.frame }

theorem renderPictures (ppu : Ppu) : ppu.render = ppu.withPictures ppu.render.pictures := by
  rw [renderParts]
  rfl

end Ppu

namespace Video

def withPictures (video : Video) (p : Pictures) : Video :=
  { video with ppu := video.ppu.withPictures p }

variable (video : Video) (p : Pictures)

theorem writePatternPictures (addr : UInt16) (value : UInt8) :
    (video.withPictures p).writePattern addr value =
      ((video.writePattern addr value).1, (video.writePattern addr value).2.withPictures p) := by
  obtain ⟨ppu, cart⟩ := video
  cases cart with
  | none => rfl
  | some cart =>
    unfold withPictures writePattern
    simp only
    cases cart.ppuWrite addr value <;> rfl

theorem writeVramPictures (addr : UInt16) (value : UInt8) :
    (video.withPictures p).writeVram addr value =
      ((video.writeVram addr value).1, (video.writeVram addr value).2.withPictures p) := by
  unfold writeVram
  change (video.withPictures p).writeCell value (.ofAddress video.ppu.mirroring addr) = _
  cases VideoCell.ofAddress video.ppu.mirroring addr with
  | pattern addr => exact video.writePatternPictures p addr value
  | nametable bank offset => rfl
  | palette cell => rfl

theorem readDataPictures :
    (video.withPictures p).readData = (video.readData.1, video.readData.2.withPictures p) := by
  have same (addr : UInt16) : (video.withPictures p).readVram addr = video.readVram addr := by
    unfold readVram
    change (video.withPictures p).readCell (.ofAddress video.ppu.mirroring addr) = _
    cases VideoCell.ofAddress video.ppu.mirroring addr <;> rfl
  unfold readData
  simp only [same]
  change (if video.ppu.scroll.v % 0x4000 < 0x3F00 then _ else _) = _
  split <;> rfl

theorem readRegisterPictures (addr : UInt16) :
    (video.withPictures p).readRegister addr =
      ((video.readRegister addr).1, (video.readRegister addr).2.withPictures p) := by
  unfold readRegister
  split
  · rfl
  · rfl
  · rw [readDataPictures]
    rfl
  · rfl

theorem writeRegisterPictures (addr : UInt16) (value : UInt8) :
    (video.withPictures p).writeRegister addr value =
      ((video.writeRegister addr value).1, (video.writeRegister addr value).2.withPictures p) := by
  let written := video.update fun ppu => { ppu with latch := value }.advance
  unfold writeRegister
  split
  case h_7 => exact written.writeVramPictures p video.ppu.scroll.v value
  all_goals rfl

theorem mapsPictures : Maps (·.withPictures p) where
  cart _ := rfl
  readRegister video addr := video.readRegisterPictures p addr
  writeRegister video addr value := video.writeRegisterPictures p addr value
  copyToOam _ _ := rfl

end Video

namespace Bus

def withPictures (bus : Bus) (p : Pictures) : Bus :=
  { bus with video := bus.video.withPictures p }

theorem mapPictures (p : Pictures) : DeviceMap fun bus : Bus => bus.withPictures p :=
  mapDevice (Video.mapsPictures p) Apu.mapsId

end Bus
end Nes
