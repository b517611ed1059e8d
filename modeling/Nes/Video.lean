import Nes.Cartridge
import Nes.Ppu.Frame

/-! Video: the picture unit and the cartridge whose patterns it reads. A write into pattern space
goes to the board of the cartridge, which may reject it. -/
namespace Nes

structure Video where
  ppu : Ppu := {}
  cart : Option Cartridge := none

inductive VideoCell where
  | pattern (addr : UInt16)
  | nametable (bank : Fin 2) (offset : Nat)
  | palette (cell : Nat)
  deriving DecidableEq, Repr

def VideoCell.ofAddress (mirroring : Mirroring) (addr : UInt16) : VideoCell :=
  let addr := addr % 0x4000
  if addr < 0x2000 then .pattern addr
  else if addr < 0x3F00 then
    let (bank, offset) := mirroring.locate addr.toNat
    .nametable bank offset
  else .palette (PaletteRam.cell addr.toNat)

namespace Video

def chr (cart : Option Cartridge) (addr : UInt16) : UInt8 :=
  match cart with
  | none => 0
  | some cart => cart.ppuRead addr

def readCell (video : Video) : VideoCell → UInt8
  | .pattern addr => chr video.cart addr
  | .nametable bank offset => (video.ppu.nametables.bank bank).read offset
  | .palette cell => video.ppu.palette.read cell

def readVram (video : Video) (addr : UInt16) : UInt8 :=
  video.readCell (.ofAddress video.ppu.mirroring addr)

def writePattern (video : Video) (addr : UInt16) (value : UInt8) : Option BoardFault × Video :=
  match video with
  | ⟨ppu, none⟩ => (none, ⟨ppu, none⟩)
  | ⟨ppu, some cart⟩ =>
    match cart.ppuWrite addr value with
    | .error fault => (some fault, ⟨ppu, some cart⟩)
    | .ok cart =>
      let tiles := ppu.tiles.refresh cart.ppuRead (addr.toNat / 16) (addr.toNat % 8)
      (none, ⟨{ ppu with tiles }, some cart⟩)

def writeCell (video : Video) (value : UInt8) : VideoCell → Option BoardFault × Video
  | .pattern addr => video.writePattern addr value
  | .nametable bank offset =>
    let { ppu, cart } := video
    (none, ⟨{ ppu with nametables := ppu.nametables.write bank offset value }, cart⟩)
  | .palette cell =>
    let { ppu, cart } := video
    (none, ⟨{ ppu with palette := ppu.palette.write cell (value % 64) }, cart⟩)

def writeVram (video : Video) (addr : UInt16) (value : UInt8) : Option BoardFault × Video :=
  video.writeCell value (.ofAddress video.ppu.mirroring addr)

-- Below the palette the byte comes from the read buffer, which takes the byte at the address. The
-- palette answers at once, and the buffer takes the nametable byte underneath.
def readData (video : Video) : UInt8 × Video :=
  let addr := video.ppu.scroll.v % 0x4000
  if addr < 0x3F00 then
    let next := video.readVram addr
    (video.ppu.readBuffer, { video with ppu := { video.ppu with readBuffer := next }.advance })
  else
    let next := video.readVram (addr - 0x1000)
    (video.readVram addr, { video with ppu := { video.ppu with readBuffer := next }.advance })

def writeData (video : Video) (value : UInt8) : Option BoardFault × Video :=
  let addr := video.ppu.scroll.v
  let { ppu, cart } := video
  Video.writeVram ⟨ppu.advance, cart⟩ addr value

def update (video : Video) (change : Ppu → Ppu) : Video :=
  let { ppu, cart } := video
  ⟨change ppu, cart⟩

def latched (value : UInt8) (video : Video) : UInt8 × Video :=
  (value, video.update fun ppu => { ppu with latch := value })

def readRegister (video : Video) (addr : UInt16) : UInt8 × Video :=
  match addr.toNat % 8 with
  | 2 =>
    let { ppu, cart } := video
    let (value, ppu) := ppu.readStatus
    latched value ⟨ppu, cart⟩
  | 4 =>
    let value := video.ppu.readOam
    latched value video
  | 7 =>
    let (value, video) := video.readData
    latched value video
  | _ => (video.ppu.latch, video)

def writeRegister (video : Video) (addr : UInt16) (value : UInt8) : Option BoardFault × Video :=
  let video := video.update fun ppu => { ppu with latch := value }
  match addr.toNat % 8 with
  | 0 => (none, video.update (·.writeCtrl value))
  | 1 => (none, video.update (·.writeMask value))
  | 3 => (none, video.update (·.writeOamAddr value))
  | 4 => (none, video.update (·.writeOam value))
  | 5 => (none, video.update (·.writeScroll value))
  | 6 => (none, video.update (·.writeAddress value))
  | 7 => video.writeData value
  | _ => (none, video)

def loadTiles (video : Video) : Video :=
  match video with
  | ⟨ppu, none⟩ => ⟨ppu, none⟩
  | ⟨ppu, some cart⟩ => ⟨{ ppu with tiles := .ofChr cart.ppuRead }, some cart⟩

def powerOn (cart : Cartridge) : Video :=
  loadTiles ⟨{ mirroring := cart.mirroring }, some cart⟩

end Video
end Nes
