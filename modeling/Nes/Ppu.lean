import Nes.Ppu.Nametable
import Nes.Ppu.Palette
import Nes.Ppu.Picture
import Nes.Ppu.ScrollLatch
import Nes.Ppu.Sprite

/-! The picture unit: its registers, its memories, and the last pictures that it made of them.
The registers here stay inside the unit; those that reach the cartridge are left to the module
on video. -/
namespace Nes

def screenWidth : Nat := 256
def screenHeight : Nat := 240

abbrev Layer (α : Type) :=
  Picture 256 240 α

abbrev Field (α : Type) :=
  Picture 512 480 α

structure Ppu where
  ctrl : UInt8 := 0
  mask : UInt8 := 0
  -- Vertical blank in bit 7, overlap of sprite 0 in bit 6.
  status : UInt8 := 0
  scroll : ScrollLatch := {}
  latch : UInt8 := 0
  readBuffer : UInt8 := 0
  mirroring : Mirroring := .horizontal
  nametables : Nametables := {}
  palette : PaletteRam := .filled 32 0
  oam : ObjectMemory := .filled 0x100 0
  oamAddr : UInt8 := 0
  tiles : Tiles := .filled 0x8000 0
  overlap : Bool := false
  background : Field Pixel := .filled 512 480 .transparent
  sprites : Layer Pixel := .filled 256 240 .transparent
  frame : Layer UInt32 := .filled 256 240 0

namespace Ppu

def step (ppu : Ppu) : UInt16 :=
  if testBit ppu.ctrl 2 then 32 else 1

def spriteMode (ppu : Ppu) : SpriteMode where
  tall := testBit ppu.ctrl 5
  secondTable := testBit ppu.ctrl 3

def wantsNmi (ppu : Ppu) : Bool :=
  testBit ppu.ctrl 7

def showsBackground (ppu : Ppu) : Bool :=
  testBit ppu.mask 3

def showsSprites (ppu : Ppu) : Bool :=
  testBit ppu.mask 4

def inVblank (ppu : Ppu) : Bool :=
  testBit ppu.status 7

def writeCtrl (ppu : Ppu) (value : UInt8) : Ppu :=
  { ppu with ctrl := value, scroll := ppu.scroll.selectNametable value }

def writeMask (ppu : Ppu) (value : UInt8) : Ppu :=
  { ppu with mask := value }

def readStatus (ppu : Ppu) : UInt8 × Ppu :=
  (ppu.status &&& 0xE0 ||| ppu.latch &&& 0x1F,
    { ppu with status := ppu.status &&& 0x7F, scroll := ppu.scroll.clearToggle })

def writeOamAddr (ppu : Ppu) (value : UInt8) : Ppu :=
  { ppu with oamAddr := value }

def readOam (ppu : Ppu) : UInt8 :=
  ppu.oam.read ppu.oamAddr.toNat

def writeOam (ppu : Ppu) (value : UInt8) : Ppu :=
  { ppu with oam := ppu.oam.write ppu.oamAddr.toNat value, oamAddr := ppu.oamAddr + 1 }

def copyToOam (ppu : Ppu) (bytes : List UInt8) : Ppu :=
  { ppu with oam := ppu.oam.writeAll ppu.oamAddr.toNat (bytes.take 0x100) }

def writeScroll (ppu : Ppu) (value : UInt8) : Ppu :=
  { ppu with scroll := ppu.scroll.writeScroll value }

def writeAddress (ppu : Ppu) (value : UInt8) : Ppu :=
  { ppu with scroll := ppu.scroll.writeAddress value }

def advance (ppu : Ppu) : Ppu :=
  { ppu with scroll := ppu.scroll.advance ppu.step }

end Ppu
end Nes
