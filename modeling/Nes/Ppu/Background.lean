import Nes.Ppu

/-! The background: a picture of all four nametables, of which the screen shows a part that wraps
around at the edges. -/
namespace Nes.Ppu

def backgroundTile (ppu : Ppu) (number : UInt8) : Nat :=
  if testBit ppu.ctrl 4 then 256 + number.toNat else number.toNat

def tableBank (ppu : Ppu) (table : Nat) : Ram 0x400 :=
  ppu.nametables.bank (ppu.mirroring.bank table)

def tileColor (ppu : Ppu) (palette : Nat) (pixel : UInt8) : UInt32 :=
  ppu.palette.color (if pixel = 0 then 0 else 4 * palette + pixel.toNat)

def paintTile (ppu : Ppu) (place : TilePlace) : Field Pixel → Field Pixel :=
  let bank := ppu.tableBank place.table
  let tile := ppu.backgroundTile (bank.read place.tileCell)
  let palette := place.palette (bank.read place.attributeCell)
  Picture.sweep 8 8 fun x y field =>
    field.set (place.left + x) (place.top + y)
      (.solid (ppu.tileColor palette (ppu.tiles.pixel tile x y)))

def paintTable (ppu : Ppu) (table : Nat) : Field Pixel → Field Pixel :=
  Picture.sweep 32 30 fun column row => ppu.paintTile ⟨table, column, row⟩

def renderBackground (ppu : Ppu) : Ppu :=
  let background :=
    if ppu.showsBackground then
      (List.range 4).foldl (fun field table => ppu.paintTable table field) ppu.background
    else .filled 512 480 (.solid (ppu.palette.color 0))
  { ppu with background }

def originX (ppu : Ppu) : Nat :=
  ppu.scroll.x + 256 * (testBit ppu.ctrl 0).toNat

def originY (ppu : Ppu) : Nat :=
  ppu.scroll.y + 240 * (testBit ppu.ctrl 1).toNat

def backgroundSolid (ppu : Ppu) (x y : Nat) : Bool :=
  let x := (ppu.originX + x) % 512
  let y := (ppu.originY + y) % 480
  let place := TilePlace.ofPoint x y
  let tile := ppu.backgroundTile ((ppu.tableBank place.table).read place.tileCell)
  ppu.showsBackground && ppu.tiles.pixel tile (x % 256 % 8) (y % 240 % 8) != 0

end Nes.Ppu
