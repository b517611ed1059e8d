import Nes.Ppu.Background

/-! The frame: sprites over the background, drawn once at the beginning of vertical blank. -/
namespace Nes.Ppu

def dots (ppu : Ppu) (i : Nat) : List Dot :=
  (ppu.oam.sprite i).dots ppu.spriteMode ppu.tiles

def paintSprite (ppu : Ppu) (layer : Layer Pixel) (i : Nat) : Layer Pixel :=
  let palette := (ppu.oam.sprite i).palette
  (ppu.dots i).foldl
    (fun layer dot =>
      layer.set dot.x dot.y (.solid (ppu.palette.color (palette + dot.pixel.toNat))))
    layer

def paintSprites (ppu : Ppu) : Layer Pixel :=
  (List.range 64).reverse.foldl ppu.paintSprite (.filled 256 240 .transparent)

def overlaps (ppu : Ppu) : Bool :=
  (ppu.dots 0).any fun dot =>
    decide (dot.x < screenWidth ∧ dot.y < screenHeight) && ppu.backgroundSolid dot.x dot.y

def renderSprites (ppu : Ppu) : Ppu :=
  if ppu.showsSprites then
    { ppu with sprites := ppu.paintSprites, overlap := ppu.overlaps }
  else
    { ppu with sprites := .filled 256 240 .transparent, overlap := false }

def shown (ppu : Ppu) (x y : Nat) : UInt32 :=
  let sprite := ppu.sprites.get x y
  if sprite.alpha ≠ 0 then sprite.color
  else (ppu.background.get (ppu.originX + x) (ppu.originY + y)).color

def compose (ppu : Ppu) : Ppu :=
  { ppu with frame := .ofFn ppu.shown }

def render (ppu : Ppu) : Ppu :=
  ppu.renderBackground.renderSprites.compose

def beginVblank (ppu : Ppu) : Ppu :=
  { ppu with status := (ppu.status ||| 0x80) &&& 0xBF }.render

def endVblank (ppu : Ppu) : Ppu :=
  { ppu with
    status := if ppu.overlap then (ppu.status &&& 0x7F) ||| 0x40 else ppu.status &&& 0x7F }

end Nes.Ppu
