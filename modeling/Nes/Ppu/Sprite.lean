import Nes.Ppu.Tile

/-! Sprites: the 64 entries of object memory, four bytes each. -/
namespace Nes

abbrev ObjectMemory :=
  Ram 0x100

structure Sprite where
  y : UInt8
  tile : UInt8
  attributes : UInt8
  x : UInt8
  deriving DecidableEq, Repr

structure SpriteMode where
  tall : Bool
  secondTable : Bool
  deriving DecidableEq, Repr

def SpriteMode.height (mode : SpriteMode) : Nat :=
  if mode.tall then 16 else 8

def ObjectMemory.sprite (oam : ObjectMemory) (i : Nat) : Sprite where
  y := oam.read (4 * i)
  tile := oam.read (4 * i + 1)
  attributes := oam.read (4 * i + 2)
  x := oam.read (4 * i + 3)

namespace Sprite

def top (s : Sprite) : Nat :=
  s.y.toNat + 1

def left (s : Sprite) : Nat :=
  s.x.toNat

def flippedAcross (s : Sprite) : Bool :=
  testBit s.attributes 6

def flippedDown (s : Sprite) : Bool :=
  testBit s.attributes 7

def palette (s : Sprite) : Nat :=
  16 + 4 * (s.attributes.toNat % 4)

-- The tile that holds a row of the pattern. A tall sprite is an even tile and the next one, and the
-- lowest bit of its number selects the pattern table.
def tileOfRow (s : Sprite) (mode : SpriteMode) (row : Nat) : Nat :=
  let tile := s.tile.toNat
  if mode.tall then 256 * (tile % 2) + tile / 2 * 2 + row / 8
  else if mode.secondTable then 256 + tile else tile

def pixel (s : Sprite) (mode : SpriteMode) (tiles : Tiles) (column row : Nat) : UInt8 :=
  let row := if s.flippedDown then mode.height - 1 - row else row
  let column := if s.flippedAcross then 7 - column else column
  tiles.pixel (s.tileOfRow mode row) column (row % 8)

end Sprite

structure Dot where
  x : Nat
  y : Nat
  pixel : UInt8
  deriving DecidableEq, Repr

def Sprite.dots (s : Sprite) (mode : SpriteMode) (tiles : Tiles) : List Dot :=
  (List.range mode.height).flatMap fun row =>
    (List.range 8).filterMap fun column =>
      let pixel := s.pixel mode tiles column row
      if pixel = 0 then none else some ⟨s.left + column, s.top + row, pixel⟩

end Nes
