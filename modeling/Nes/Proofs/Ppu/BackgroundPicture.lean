import Nes.Ppu.Background
import Nes.Proofs.Ppu.Painting

/-! The picture that the loops over tables, tiles and points draw: every point of the field once,
with the ink that its own column and row give. The unit draws with colours; the loops are the
same for whatever else a point is to keep of the palette and the pixel that it is drawn from. -/
namespace Nes

theorem TilePlace.ofPointInTile (table : Nat) {column row x y : Nat} (hc : column < 32)
    (hr : row < 30) (hx : x < 8) (hy : y < 8) :
    ofPoint ((TilePlace.mk table column row).left + x) ((TilePlace.mk table column row).top + y) =
      ⟨table, column, row⟩ := by
  simp only [ofPoint, left, top, TilePlace.mk.injEq]
  omega

theorem TilePlace.pointInTile (x y : Nat) (hx : x < 512) (hy : y < 480) :
    (ofPoint x y).table < 4 ∧ (ofPoint x y).column < 32 ∧ (ofPoint x y).row < 30 ∧
      (ofPoint x y).left + x % 8 = x ∧ (ofPoint x y).top + y % 8 = y := by
  simp only [ofPoint, left, top]
  omega

structure TilePlace.Inside (p : TilePlace) : Prop where
  table : p.table < 4
  column : p.column < 32
  row : p.row < 30

namespace TilePlace

theorem insideOfPoint {x y : Nat} (hx : x < 512) (hy : y < 480) : (ofPoint x y).Inside := by
  obtain ⟨table, column, row, -, -⟩ := pointInTile x y hx hy
  exact ⟨table, column, row⟩

namespace Inside
variable {p : TilePlace} (inside : p.Inside)
include inside

theorem tileCellBound : p.tileCell < 0x400 := by
  have column := inside.column
  have row := inside.row
  rw [TilePlace.tileCell]
  omega

theorem attributeCellBound : p.attributeCell < 0x400 := by
  have column := inside.column
  have row := inside.row
  rw [TilePlace.attributeCell]
  omega

end Inside
end TilePlace

namespace Ppu
open Picture
variable {α : Type}

theorem backgroundTileBound (ppu : Ppu) (number : UInt8) :
    ppu.backgroundTile number = 256 * (testBit ppu.ctrl 4).toNat + number.toNat ∧
      ppu.backgroundTile number < 512 := by
  have bound := number.toNat_lt
  unfold backgroundTile
  cases testBit ppu.ctrl 4 <;> simp <;> omega

def drawTile (ppu : Ppu) (ink : Nat → UInt8 → α) (place : TilePlace) : Field α → Field α :=
  let bank := ppu.tableBank place.table
  let tile := ppu.backgroundTile (bank.read place.tileCell)
  let palette := place.palette (bank.read place.attributeCell)
  Picture.sweep 8 8 fun x y field =>
    field.set (place.left + x) (place.top + y) (ink palette (ppu.tiles.pixel tile x y))

def drawTable (ppu : Ppu) (ink : Nat → UInt8 → α) (table : Nat) : Field α → Field α :=
  Picture.sweep 32 30 fun column row => ppu.drawTile ink ⟨table, column, row⟩

def drawTables (ppu : Ppu) (ink : Nat → UInt8 → α) (field : Field α) : Field α :=
  (List.range 4).foldl (fun field table => ppu.drawTable ink table field) field

def colorInk (ppu : Ppu) (palette : Nat) (pixel : UInt8) : Pixel :=
  .solid (ppu.tileColor palette pixel)

theorem paintTables (ppu : Ppu) (field : Field Pixel) :
    (List.range 4).foldl (fun field table => ppu.paintTable table field) field =
      ppu.drawTables ppu.colorInk field :=
  rfl

def fieldPixel (ppu : Ppu) (x y : Nat) : UInt8 :=
  let place := TilePlace.ofPoint x y
  let tile := ppu.backgroundTile ((ppu.tableBank place.table).read place.tileCell)
  ppu.tiles.pixel tile (x % 8) (y % 8)

def fieldPalette (ppu : Ppu) (x y : Nat) : Nat :=
  let place := TilePlace.ofPoint x y
  place.palette ((ppu.tableBank place.table).read place.attributeCell)

def fieldColor (ppu : Ppu) (x y : Nat) : UInt32 :=
  ppu.tileColor (ppu.fieldPalette x y) (ppu.fieldPixel x y)

theorem drawTilePaints (ppu : Ppu) (ink : Nat → UInt8 → α) {table column row : Nat}
    (hc : column < 32) (hr : row < 30) :
    Paints (ppu.drawTile ink ⟨table, column, row⟩)
      (fun x y => ∃ dy ∈ List.range 8, ∃ dx ∈ List.range 8,
        (TilePlace.mk table column row).left + dx = x ∧
          (TilePlace.mk table column row).top + dy = y)
      (fun x y => ink (ppu.fieldPalette x y) (ppu.fieldPixel x y)) := by
  apply Paints.sweep
  intro dx hx dy hy
  apply Paints.set
  have place := TilePlace.ofPointInTile table hc hr hx hy
  have across : ((TilePlace.mk table column row).left + dx) % 8 = dx := by
    simp only [TilePlace.left]
    omega
  have down : ((TilePlace.mk table column row).top + dy) % 8 = dy := by
    simp only [TilePlace.top]
    omega
  simp only [fieldPalette, fieldPixel, place, across, down]

theorem drawTablePaints (ppu : Ppu) (ink : Nat → UInt8 → α) (table : Nat) :
    Paints (ppu.drawTable ink table)
      (fun x y => ∃ row ∈ List.range 30, ∃ column ∈ List.range 32,
        ∃ dy ∈ List.range 8, ∃ dx ∈ List.range 8,
          (TilePlace.mk table column row).left + dx = x ∧
            (TilePlace.mk table column row).top + dy = y)
      (fun x y => ink (ppu.fieldPalette x y) (ppu.fieldPixel x y)) :=
  Paints.sweep fun _ hc _ hr => ppu.drawTilePaints ink hc hr

theorem getDrawTables (ppu : Ppu) (ink : Nat → UInt8 → α) (old : Field α) {x y : Nat}
    (hx : x < 512) (hy : y < 480) :
    (ppu.drawTables ink old).get x y = ink (ppu.fieldPalette x y) (ppu.fieldPixel x y) := by
  have tables := Paints.foldl fun table (_ : table ∈ List.range 4) =>
    ppu.drawTablePaints ink table
  obtain ⟨ht, hc, hr, across, down⟩ := TilePlace.pointInTile x y hx hy
  refine tables.inside old hx hy ⟨_, List.mem_range.mpr ht, _, List.mem_range.mpr hr, _,
    List.mem_range.mpr hc, y % 8, ?_, x % 8, ?_, across, down⟩
  · exact List.mem_range.mpr (Nat.mod_lt y (by decide))
  · exact List.mem_range.mpr (Nat.mod_lt x (by decide))

theorem getRenderBackground (ppu : Ppu) {x y : Nat} (hx : x < 512) (hy : y < 480) :
    ppu.renderBackground.background.get x y =
      .solid (if ppu.showsBackground then ppu.fieldColor x y else ppu.palette.color 0) := by
  unfold renderBackground
  rw [paintTables]
  cases shown : ppu.showsBackground with
  | true => exact ppu.getDrawTables ppu.colorInk ppu.background hx hy
  | false => exact getFilled _ x y

end Ppu
end Nes
