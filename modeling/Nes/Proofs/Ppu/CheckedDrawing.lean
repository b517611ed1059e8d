import Nes.Proofs.Ppu.Canvas
import Nes.Proofs.Ppu.Composition

/-! Drawing on the canvas, with every index and every sum checked. Both layers are painted in a
buffer that is taken out of the canvas and put back when it is done. -/
namespace Nes
open Width

namespace TilePlace
variable (p : TilePlace)

def column? (x : Nat) : Option Nat := do
  let inTable ← bits64.mulAdd p.column 8 x
  bits64.mulAdd (p.table % 2) 256 inTable

def line? (y : Nat) : Option Nat := do
  let inTable ← bits64.mulAdd p.row 8 y
  bits64.mulAdd (p.table / 2) 240 inTable

def tileCell? : Option Nat :=
  bits64.mulAdd p.row 32 p.column

def attributeCell? : Option Nat := do
  let block ← bits64.mulAdd (p.row / 4) 8 (p.column / 4)
  bits64.add 0x3C0 block

def palette? (attributes : UInt8) : Option Nat :=
  (bits8.shiftRight attributes.toNat p.attributeShift).map (· % 4)

theorem paletteChecked (attributes : UInt8) :
    p.palette? attributes = some (p.palette attributes) := by
  have narrow : p.attributeShift < bits8.bits := by
    rw [attributeShift, bits]
    omega
  rw [palette?, shiftRightSome narrow]
  rfl

namespace Inside
variable {p : TilePlace} (inside : p.Inside)
include inside

theorem columnChecked {x : Nat} (hx : x < 8) : p.column? x = some (p.left + x) := by
  have column := inside.column
  have place : p.table % 2 * 256 + (p.column * 8 + x) = p.left + x := by
    rw [left]
    omega
  rw [column?, mulAddIndex (by omega), Option.bind_eq_bind, Option.bind_some, ← place]
  exact mulAddIndex (by omega)

theorem lineChecked {y : Nat} (hy : y < 8) : p.line? y = some (p.top + y) := by
  have table := inside.table
  have row := inside.row
  have place : p.table / 2 * 240 + (p.row * 8 + y) = p.top + y := by
    rw [top]
    omega
  rw [line?, mulAddIndex (by omega), Option.bind_eq_bind, Option.bind_some, ← place]
  exact mulAddIndex (by omega)

theorem tileCellChecked : p.tileCell? = some p.tileCell := by
  have column := inside.column
  have row := inside.row
  have cell : p.row * 32 + p.column = p.tileCell := by
    rw [tileCell]
    omega
  rw [tileCell?, ← cell]
  exact mulAddIndex (by omega)

theorem attributeCellChecked : p.attributeCell? = some p.attributeCell := by
  have column := inside.column
  have row := inside.row
  have cell : 0x3C0 + (p.row / 4 * 8 + p.column / 4) = p.attributeCell := by
    rw [attributeCell]
    omega
  rw [attributeCell?, mulAddIndex (by omega), Option.bind_eq_bind, Option.bind_some, ← cell]
  exact addIndex (by omega)

end Inside
end TilePlace

namespace Canvas
variable (canvas : Canvas) (ppu : Ppu)

def tileNumber? (place : TilePlace) : Option Nat := do
  let bank ← ppu.tableBank? place.table
  let cell ← place.tileCell?
  let number ← bank.read? cell
  ppu.backgroundTile? number

def palette? (place : TilePlace) : Option Nat := do
  let bank ← ppu.tableBank? place.table
  let cell ← place.attributeCell?
  let attributes ← bank.read? cell
  place.palette? attributes

def tileColor? (backdrop : UInt32) (palette : Nat) (pixel : UInt8) : Option UInt32 :=
  if pixel = 0 then some backdrop
  else (bits64.mulAdd palette 4 pixel.toNat).bind ppu.color?

def paintPoint? (backdrop : UInt32) (place : TilePlace) (tile palette x y : Nat)
    (background : Array UInt8) : Option (Array UInt8) := do
  let pixel ← canvas.tilePixel? tile x y
  let color ← tileColor? ppu backdrop palette pixel
  let column ← place.column? x
  let line ← place.line? y
  let index ← bits64.mulAdd line 512 column
  putRgba? background index color 0xFF

def paintTile? (backdrop : UInt32) (place : TilePlace) (background : Array UInt8) :
    Option (Array UInt8) := do
  let tile ← tileNumber? ppu place
  let palette ← palette? ppu place
  sweep? 8 8 (canvas.paintPoint? ppu backdrop place tile palette) background

def paintTable? (backdrop : UInt32) (table : Nat) (background : Array UInt8) :
    Option (Array UInt8) :=
  sweep? 32 30 (fun column row => canvas.paintTile? ppu backdrop ⟨table, column, row⟩) background

def renderBackground? : Option Canvas := do
  let backdrop ← ppu.color? 0
  if ppu.showsBackground then
    let emptied := { canvas with background := #[] }
    let background ← (List.range 4).foldlM
      (fun background table => emptied.paintTable? ppu backdrop table background) canvas.background
    return { emptied with background }
  else
    let background ← (List.range 245760).foldlM
      (fun background i => putRgba? background i backdrop 0xFF) canvas.background
    return { canvas with background }

end Canvas

namespace Ppu
variable {ppu : Ppu}

theorem tileNumberChecked {place : TilePlace} (inside : place.Inside) :
    Canvas.tileNumber? ppu place =
      some (ppu.backgroundTile ((ppu.tableBank place.table).read place.tileCell)) := by
  rw [Canvas.tileNumber?, ppu.tableBankChecked, inside.tileCellChecked]
  simp only [Option.bind_eq_bind, Option.bind_some, Ram.readSome _ inside.tileCellBound]
  exact ppu.backgroundTileChecked _

theorem paletteChecked {place : TilePlace} (inside : place.Inside) :
    Canvas.palette? ppu place =
      some (place.palette ((ppu.tableBank place.table).read place.attributeCell)) := by
  rw [Canvas.palette?, ppu.tableBankChecked, inside.attributeCellChecked]
  simp only [Option.bind_eq_bind, Option.bind_some, Ram.readSome _ inside.attributeCellBound]
  exact place.paletteChecked _

theorem tileColorChecked {palette : Nat} (four : palette < 4) {pixel : UInt8}
    (bits : pixel.toNat < 4) :
    Canvas.tileColor? ppu (ppu.palette.color 0) palette pixel =
      some (ppu.tileColor palette pixel) := by
  unfold Canvas.tileColor? tileColor
  split
  · rfl
  · rw [mulAddIndex (by omega), Option.bind_some, Nat.mul_comm]
    exact ppu.colorChecked (by omega)

end Ppu

namespace Canvas
variable {canvas : Canvas} {ppu : Ppu} (tiles : canvas.tiles = ppu.tiles.bytes)
  (pixels : ∀ cell, (ppu.tiles.read cell).toNat < 4)
include tiles pixels

theorem paintPointChecked {place : TilePlace} (inside : place.Inside) {tile palette x y : Nat}
    (ht : tile < 512) (four : palette < 4) (hx : x < 8) (hy : y < 8) (field : Field Pixel) :
    canvas.paintPoint? ppu (ppu.palette.color 0) place tile palette x y field.bytes =
      some (field.set (place.left + x) (place.top + y)
        (.solid (ppu.tileColor palette (ppu.tiles.pixel tile x y)))).bytes := by
  have bits : (ppu.tiles.pixel tile x y).toNat < 4 := pixels _
  have column : place.left + x < 512 := by
    have column := inside.column
    rw [TilePlace.left]
    omega
  have line : place.top + y < 480 := by
    have table := inside.table
    have row := inside.row
    rw [TilePlace.top]
    omega
  unfold paintPoint?
  rw [tilePixelChecked tiles ht hx hy, inside.columnChecked hx, inside.lineChecked hy]
  simp only [Option.bind_eq_bind, Option.bind_some, Ppu.tileColorChecked four bits]
  rw [mulAddIndex (by omega), Option.bind_some]
  exact field.putPoint (by decide) column line _

theorem paintTileChecked {place : TilePlace} (inside : place.Inside) (field : Field Pixel) :
    canvas.paintTile? ppu (ppu.palette.color 0) place field.bytes =
      some (ppu.paintTile place field).bytes := by
  have ht := (ppu.backgroundTileBound ((ppu.tableBank place.table).read place.tileCell)).2
  have four : place.palette ((ppu.tableBank place.table).read place.attributeCell) < 4 :=
    Nat.mod_lt _ (by decide)
  unfold paintTile? Ppu.paintTile
  rw [Ppu.tileNumberChecked inside, Ppu.paletteChecked inside]
  simp only [Option.bind_eq_bind, Option.bind_some]
  generalize ppu.backgroundTile ((ppu.tableBank place.table).read place.tileCell) = tile at *
  generalize place.palette ((ppu.tableBank place.table).read place.attributeCell) = palette at *
  exact followSweep Picture.bytes
    (fun x hx y hy => paintPointChecked tiles pixels inside ht four hx hy) field

theorem paintTableChecked {table : Nat} (ht : table < 4) (field : Field Pixel) :
    canvas.paintTable? ppu (ppu.palette.color 0) table field.bytes =
      some (ppu.paintTable table field).bytes := by
  unfold paintTable? Ppu.paintTable
  exact followSweep Picture.bytes
    (fun column hc row hr => paintTileChecked tiles pixels (TilePlace.Inside.mk ht hc hr)) field

end Canvas

namespace Ppu
variable (ppu : Ppu)

theorem fillBackground (color : UInt32) (field : Field Pixel) :
    (List.range 245760).foldlM (fun background i => putRgba? background i color 0xFF) field.bytes =
      some (Picture.bytes (.filled 512 480 (.solid color))) := by
  have point (i : Nat) (inRange : i ∈ List.range 245760) (field : Field Pixel) :
      putRgba? field.bytes i color 0xFF =
        some (field.set (i % 512) (i / 512) (.solid color)).bytes := by
    have bound := List.mem_range.mp inRange
    have place : i / 512 * 512 + i % 512 = i := Nat.div_add_mod' i 512
    have drawn := field.putPoint (by decide) (Nat.mod_lt i (by decide))
      (show i / 512 < 480 by omega) color
    rwa [place] at drawn
  have paints : Picture.Paints
      (fun field : Field Pixel => (List.range 245760).foldl
        (fun field i => field.set (i % 512) (i / 512) (.solid color)) field)
      (fun x y => ∃ i ∈ List.range 245760, i % 512 = x ∧ i / 512 = y) fun _ _ => .solid color :=
    Picture.Paints.foldl fun i _ => Picture.Paints.set rfl
  have filled := paints.whole
    (fun x hx y hy => ⟨512 * y + x, List.mem_range.mpr (by omega), by omega, by omega⟩)
    (fun x _ y _ => Picture.getFilled (Pixel.solid color) x y) field
  rw [followEach Picture.bytes point field]
  exact congrArg (fun field => some (Picture.bytes field)) filled

theorem paintTablesChecked (pixels : ∀ cell, (ppu.tiles.read cell).toNat < 4)
    {canvas : Canvas} (tiles : canvas.tiles = ppu.tiles.bytes) (field : Field Pixel) :
    (List.range 4).foldlM (fun background table =>
        canvas.paintTable? ppu (ppu.palette.color 0) table background) field.bytes =
      some (Picture.bytes ((List.range 4).foldl (fun field table => ppu.paintTable table field)
        field)) := by
  refine followEach Picture.bytes (fun table inTables field => ?_) field
  exact Canvas.paintTableChecked tiles pixels (List.mem_range.mp inTables) field

theorem renderBackgroundChecked (pixels : ∀ cell, (ppu.tiles.read cell).toNat < 4) :
    ppu.canvas.renderBackground? ppu = some ppu.renderBackground.canvas := by
  unfold Canvas.renderBackground? renderBackground
  rw [ppu.colorChecked (by decide)]
  simp only [Option.bind_eq_bind, Option.bind_some]
  have background : ppu.canvas.background = ppu.background.bytes := rfl
  rw [background]
  cases ppu.showsBackground with
  | true =>
    simp only [if_true]
    rw [ppu.paintTablesChecked pixels rfl]
    rfl
  | false =>
    simp only [Bool.false_eq_true, if_false]
    rw [fillBackground]
    rfl

end Ppu

theorem SpriteMode.heightBound (mode : SpriteMode) : mode.height ≤ 16 := by
  unfold height
  split <;> decide

namespace Sprite
variable (s : Sprite)

def sourceRow? (mode : SpriteMode) (row : Nat) : Option Nat :=
  if s.flippedDown then (bits64.sub mode.height 1).bind (bits64.sub · row) else some row

def sourceColumn? (column : Nat) : Option Nat :=
  if s.flippedAcross then bits64.sub 7 column else some column

def tileOfRow? (mode : SpriteMode) (row : Nat) : Option Nat := do
  if mode.tall then
    let even ← bits64.mulAdd (s.tile.toNat % 2) 256 (s.tile.toNat / 2 * 2)
    bits64.add even (row / 8)
  else
    bits64.add (if mode.secondTable then 256 else 0) s.tile.toNat

def paletteCell? (pixel : UInt8) : Option Nat := do
  let palette ← bits64.mul (s.attributes.toNat % 4) 4
  let base ← bits64.add 16 palette
  bits64.add base pixel.toNat

def pixel? (canvas : Canvas) (mode : SpriteMode) (column row : Nat) : Option UInt8 := do
  let row ← s.sourceRow? mode row
  let tile ← s.tileOfRow? mode row
  let column ← s.sourceColumn? column
  canvas.tilePixel? tile column (row % 8)

theorem tileOfRowBound (mode : SpriteMode) {row : Nat} (hr : row < mode.height) :
    s.tileOfRow mode row < 512 := by
  have byte := s.tile.toNat_lt
  have height := mode.heightBound
  rw [tileOfRowParts]
  cases mode.tall with
  | true =>
    simp only [if_true]
    omega
  | false =>
    have table := mode.secondTable.toNat_le
    simp only [Bool.false_eq_true, if_false]
    omega

theorem tileOfRowChecked (mode : SpriteMode) {row : Nat} (hr : row < mode.height) :
    s.tileOfRow? mode row = some (s.tileOfRow mode row) := by
  have byte := s.tile.toNat_lt
  have height := mode.heightBound
  unfold tileOfRow? tileOfRow
  cases mode.tall with
  | true =>
    simp only [if_true]
    rw [mulAddIndex (by omega), Option.bind_eq_bind, Option.bind_some, addIndex (by omega),
      Nat.mul_comm 256]
  | false =>
    cases mode.secondTable with
    | true => exact addIndex (show 256 + s.tile.toNat < _ by omega)
    | false =>
      have number := addIndex (show 0 + s.tile.toNat < _ by omega)
      rwa [Nat.zero_add] at number

theorem sourceRowChecked (mode : SpriteMode) {row : Nat} (hr : row < mode.height) :
    ∃ source < mode.height, s.sourceRow? mode row = some source ∧
      source = if s.flippedDown then mode.height - 1 - row else row := by
  unfold sourceRow?
  cases s.flippedDown with
  | true =>
    simp only [if_true]
    rw [subSome bits64 (show 1 ≤ mode.height by omega), Option.bind_some,
      subSome bits64 (show row ≤ mode.height - 1 by omega)]
    exact ⟨_, by omega, rfl, rfl⟩
  | false => exact ⟨row, hr, rfl, rfl⟩

theorem sourceColumnChecked {column : Nat} (hc : column < 8) :
    ∃ source < 8, s.sourceColumn? column = some source ∧
      source = if s.flippedAcross then 7 - column else column := by
  unfold sourceColumn?
  cases s.flippedAcross with
  | true =>
    simp only [if_true]
    rw [subSome bits64 (show column ≤ 7 by omega)]
    exact ⟨_, by omega, rfl, rfl⟩
  | false => exact ⟨column, hc, rfl, rfl⟩

theorem paletteCellChecked (pixel : UInt8) :
    s.paletteCell? pixel = some (s.palette + pixel.toNat) := by
  have byte := pixel.toNat_lt
  unfold paletteCell?
  rw [mulIndex (by omega), Option.bind_eq_bind, Option.bind_some, addIndex (by omega),
    Option.bind_some, addIndex (by omega), palette, Nat.mul_comm 4]

theorem pixelChecked {canvas : Canvas} {ppu : Ppu} (tiles : canvas.tiles = ppu.tiles.bytes)
    (mode : SpriteMode) {column row : Nat} (hc : column < 8) (hr : row < mode.height) :
    s.pixel? canvas mode column row = some (s.pixel mode ppu.tiles column row) := by
  obtain ⟨sourceRow, inTile, checkedRow, atRow⟩ := s.sourceRowChecked mode hr
  obtain ⟨sourceColumn, inRow, checkedColumn, atColumn⟩ := s.sourceColumnChecked hc
  unfold pixel? pixel
  simp only [Option.bind_eq_bind, checkedRow, Option.bind_some, checkedColumn,
    s.tileOfRowChecked mode inTile, ← atRow, ← atColumn]
  exact Canvas.tilePixelChecked tiles (s.tileOfRowBound mode inTile) inRow
    (Nat.mod_lt _ (by decide))

end Sprite

namespace Ppu

def sprite? (ppu : Ppu) (i : Nat) : Option Sprite := do
  let start ← bits64.mul i 4
  let y ← ppu.oam.read? start
  let tile ← ppu.oam.read? (start + 1)
  let attributes ← ppu.oam.read? (start + 2)
  let x ← ppu.oam.read? (start + 3)
  return ⟨y, tile, attributes, x⟩

def origin? (ppu : Ppu) : Option (Nat × Nat) := do
  let x ← bits64.mulAdd (testBit ppu.ctrl 0).toNat 256 ppu.scroll.x
  let y ← bits64.mulAdd (testBit ppu.ctrl 1).toNat 240 ppu.scroll.y
  return (x, y)

theorem spriteChecked (ppu : Ppu) {i : Nat} (hi : i < 64) :
    ppu.sprite? i = some (ppu.oam.sprite i) := by
  unfold sprite?
  rw [mulIndex (by omega), Nat.mul_comm i]
  simp only [Option.bind_eq_bind, Option.bind_some]
  rw [Ram.readSome _ (by omega), Ram.readSome _ (by omega), Ram.readSome _ (by omega),
    Ram.readSome _ (by omega)]
  rfl

-- What drawing relies on: a pixel of a tile has two bits, and the scroll is less than a screen.
structure Drawable (ppu : Ppu) : Prop where
  pixels : ∀ cell, (ppu.tiles.read cell).toNat < 4
  x : ppu.scroll.x < 0x100
  y : ppu.scroll.y < 0x100

namespace Drawable
variable {ppu : Ppu} (drawable : ppu.Drawable)
include drawable

theorem originBound : ppu.originX < 0x200 ∧ ppu.originY < 0x200 := by
  have x := drawable.x
  have y := drawable.y
  have across := (testBit ppu.ctrl 0).toNat_le
  have down := (testBit ppu.ctrl 1).toNat_le
  rw [originX, originY]
  omega

theorem originChecked : ppu.origin? = some (ppu.originX, ppu.originY) := by
  have x := drawable.x
  have y := drawable.y
  have across := (testBit ppu.ctrl 0).toNat_le
  have down := (testBit ppu.ctrl 1).toNat_le
  have column : (testBit ppu.ctrl 0).toNat * 256 + ppu.scroll.x = ppu.originX := by
    rw [originX]
    omega
  have line : (testBit ppu.ctrl 1).toNat * 240 + ppu.scroll.y = ppu.originY := by
    rw [originY]
    omega
  rw [origin?, mulAddIndex (by omega), Option.bind_eq_bind, Option.bind_some,
    mulAddIndex (by omega), column, line]
  rfl

end Drawable
end Ppu

namespace Canvas
variable (canvas : Canvas) (ppu : Ppu)

def backgroundSolid? (x y : Nat) : Option Bool := do
  if ppu.showsBackground then
    let origin ← ppu.origin?
    let column ← bits64.add origin.1 x
    let line ← bits64.add origin.2 y
    let tile ← tileNumber? ppu (.ofPoint (column % 512) (line % 480))
    let pixel ← canvas.tilePixel? tile (column % 512 % 256 % 8) (line % 480 % 240 % 8)
    return pixel != 0
  else
    return false

def meets? (i x y : Nat) : Option Bool :=
  if i = 0 then canvas.backgroundSolid? ppu x y else some false

def paintDot? (i : Nat) (s : Sprite) (row line column x : Nat) (drawn : Array UInt8 × Bool) :
    Option (Array UInt8 × Bool) := do
  let pixel ← s.pixel? canvas ppu.spriteMode column row
  if pixel = 0 then
    return drawn
  else
    let cell ← s.paletteCell? pixel
    let color ← ppu.color? cell
    let index ← bits64.mulAdd line 256 x
    let sprites ← putRgba? drawn.1 index color 0xFF
    let met ← canvas.meets? ppu i x line
    return (sprites, drawn.2 || met)

def paintSprite? (drawn : Array UInt8 × Bool) (i : Nat) : Option (Array UInt8 × Bool) := do
  let s ← ppu.sprite? i
  let top ← bits64.add s.y.toNat 1
  toEdge? 240 top
    (fun row line => toEdge? 256 s.left (canvas.paintDot? ppu i s row line) (List.range 8))
    (List.range ppu.spriteMode.height) drawn

def renderSprites? : Option Canvas := do
  let cleared := { canvas with sprites := .replicate canvas.sprites.size 0, overlap := false }
  if ppu.showsSprites then
    let emptied := { cleared with sprites := #[] }
    let drawn ← (List.range 64).reverse.foldlM (emptied.paintSprite? ppu) (cleared.sprites, false)
    return { emptied with sprites := drawn.1, overlap := drawn.2 }
  else
    return cleared

end Canvas

namespace Ppu.Drawable
variable {ppu : Ppu} (drawable : ppu.Drawable)
include drawable

theorem backgroundSolidChecked {canvas : Canvas} (tiles : canvas.tiles = ppu.tiles.bytes)
    {x y : Nat} (hx : x < 256) (hy : y < 240) :
    canvas.backgroundSolid? ppu x y = some (ppu.backgroundSolid x y) := by
  obtain ⟨originX, originY⟩ := drawable.originBound
  have inside := TilePlace.insideOfPoint
    (Nat.mod_lt (ppu.originX + x) (show 0 < 512 by decide))
    (Nat.mod_lt (ppu.originY + y) (show 0 < 480 by decide))
  unfold Canvas.backgroundSolid? backgroundSolid
  cases ppu.showsBackground with
  | false => rfl
  | true =>
    simp only [if_true, Option.bind_eq_bind, drawable.originChecked, Option.bind_some]
    rw [addIndex (by omega), Option.bind_some, addIndex (by omega), Option.bind_some,
      tileNumberChecked inside, Option.bind_some,
      Canvas.tilePixelChecked tiles (ppu.backgroundTileBound _).2 (Nat.mod_lt _ (by decide))
        (Nat.mod_lt _ (by decide))]
    rfl

end Ppu.Drawable

theorem foldlBoth {σ ι : Type} (f : σ → ι → σ) (g : ι → Bool) (items : List ι) (s : σ)
    (flag : Bool) :
    items.foldl (fun done i => (f done.1 i, done.2 || g i)) (s, flag) =
      (items.foldl f s, flag || items.any g) := by
  induction items generalizing s flag with
  | nil => rw [List.foldl_nil, List.foldl_nil, List.any_nil, Bool.or_false]
  | cons i rest ih => rw [List.foldl_cons, ih, List.foldl_cons, List.any_cons, Bool.or_assoc]

theorem Sprite.foldlDots {σ : Type} (s : Sprite) (mode : SpriteMode) (tiles : Tiles)
    (act : σ → Dot → σ) (now : σ) :
    (s.dots mode tiles).foldl act now =
      (List.range mode.height).foldl (fun now row => (List.range 8).foldl (fun now column =>
        if s.pixel mode tiles column row = 0 then now
        else act now ⟨s.left + column, s.top + row, s.pixel mode tiles column row⟩) now) now := by
  unfold dots
  rw [List.foldl_flatMap]
  congr 1
  funext now row
  rw [List.foldl_filterMap]
  congr 1
  funext now column
  by_cases clear : s.pixel mode tiles column row = 0
  · simp only [if_pos clear]
  · simp only [if_neg clear]

namespace Ppu

def paintDot (ppu : Ppu) (i : Nat) (layer : Layer Pixel) (dot : Dot) : Layer Pixel :=
  layer.set dot.x dot.y
    (.solid (ppu.palette.color ((ppu.oam.sprite i).palette + dot.pixel.toNat)))

def meets (ppu : Ppu) (dot : Dot) : Bool :=
  decide (dot.x < screenWidth ∧ dot.y < screenHeight) && ppu.backgroundSolid dot.x dot.y

def drawDot (ppu : Ppu) (i : Nat) (drawn : Layer Pixel × Bool) (dot : Dot) : Layer Pixel × Bool :=
  (ppu.paintDot i drawn.1 dot, drawn.2 || (i == 0 && ppu.meets dot))

def drawSprite (ppu : Ppu) (drawn : Layer Pixel × Bool) (i : Nat) : Layer Pixel × Bool :=
  (ppu.paintSprite drawn.1 i, drawn.2 || (i == 0 && ppu.overlaps))

theorem drawDots (ppu : Ppu) (i : Nat) (drawn : Layer Pixel × Bool) :
    (ppu.dots i).foldl (ppu.drawDot i) drawn = ppu.drawSprite drawn i := by
  have both := foldlBoth (ppu.paintDot i) (fun dot => i == 0 && ppu.meets dot) (ppu.dots i)
    drawn.1 drawn.2
  have first : (i == 0 && (ppu.dots i).any ppu.meets) = (i == 0 && ppu.overlaps) := by
    cases i <;> rfl
  rw [← List.and_any_distrib_left, first] at both
  exact both

theorem drawDotBeyond (ppu : Ppu) (i : Nat) (drawn : Layer Pixel × Bool) {dot : Dot}
    (beyond : ¬(dot.x < 256 ∧ dot.y < 240)) : ppu.drawDot i drawn dot = drawn := by
  have same : ppu.paintDot i drawn.1 dot = drawn.1 := dif_neg beyond
  have apart : ppu.meets dot = false := by
    rw [meets, screenWidth, screenHeight, decide_eq_false beyond, Bool.false_and]
  rw [drawDot, same, apart, Bool.and_false, Bool.or_false]

def drawPoint (ppu : Ppu) (i row column : Nat) (drawn : Layer Pixel × Bool) : Layer Pixel × Bool :=
  let s := ppu.oam.sprite i
  let pixel := s.pixel ppu.spriteMode ppu.tiles column row
  if pixel = 0 then drawn else ppu.drawDot i drawn ⟨s.left + column, s.top + row, pixel⟩

theorem drawPoints (ppu : Ppu) (i : Nat) (drawn : Layer Pixel × Bool) :
    (List.range ppu.spriteMode.height).foldl (fun drawn row => (List.range 8).foldl
        (fun drawn column => ppu.drawPoint i row column drawn) drawn) drawn =
      ppu.drawSprite drawn i := by
  rw [← drawDots, dots, Sprite.foldlDots]
  rfl

theorem drawPointBeyond (ppu : Ppu) {i row column : Nat}
    (beyond : 256 ≤ (ppu.oam.sprite i).left + column ∨ 240 ≤ (ppu.oam.sprite i).top + row)
    (drawn : Layer Pixel × Bool) : ppu.drawPoint i row column drawn = drawn := by
  unfold drawPoint
  simp only
  split
  · rfl
  · refine ppu.drawDotBeyond i drawn ?_
    simp only
    omega

theorem drawSprites (ppu : Ppu) :
    (List.range 64).reverse.foldl ppu.drawSprite (.filled 256 240 .transparent, false) =
      (ppu.paintSprites, ppu.overlaps) := by
  have both := foldlBoth ppu.paintSprite (fun i => i == 0 && ppu.overlaps) (List.range 64).reverse
    (.filled 256 240 .transparent) false
  have first : (List.range 64).reverse.any (fun i => i == 0 && ppu.overlaps) = ppu.overlaps := by
    cases ppu.overlaps <;> decide
  rw [first, Bool.false_or] at both
  exact both

end Ppu

def flatDrawn (drawn : Layer Pixel × Bool) : Array UInt8 × Bool :=
  (drawn.1.bytes, drawn.2)

namespace Ppu.Drawable
variable {ppu : Ppu} (drawable : ppu.Drawable) {canvas : Canvas}
  (tiles : canvas.tiles = ppu.tiles.bytes) {i : Nat}
include drawable tiles

theorem meetsChecked {x y : Nat} (hx : x < 256) (hy : y < 240) (pixel : UInt8) :
    canvas.meets? ppu i x y = some (i == 0 && ppu.meets ⟨x, y, pixel⟩) := by
  cases i with
  | zero =>
    have here : ppu.meets ⟨x, y, pixel⟩ = ppu.backgroundSolid x y := by
      rw [meets, screenWidth, screenHeight, decide_eq_true (And.intro hx hy), Bool.true_and]
    rw [here]
    exact drawable.backgroundSolidChecked tiles hx hy
  | succ i => rfl

theorem drawPointChecked {row column : Nat} (hr : row < ppu.spriteMode.height) (hc : column < 8)
    (line : (ppu.oam.sprite i).top + row < 240) (x : (ppu.oam.sprite i).left + column < 256)
    (drawn : Layer Pixel × Bool) :
    canvas.paintDot? ppu i (ppu.oam.sprite i) row ((ppu.oam.sprite i).top + row) column
        ((ppu.oam.sprite i).left + column) (flatDrawn drawn) =
      some (flatDrawn (ppu.drawPoint i row column drawn)) := by
  have bits : ((ppu.oam.sprite i).pixel ppu.spriteMode ppu.tiles column row).toNat < 4 :=
    drawable.pixels _
  unfold Canvas.paintDot? drawPoint
  rw [Sprite.pixelChecked _ tiles _ hc hr]
  simp only [Option.bind_eq_bind, Option.bind_some]
  split
  · rfl
  · generalize (ppu.oam.sprite i).pixel ppu.spriteMode ppu.tiles column row = pixel at bits
    have cell : (ppu.oam.sprite i).palette + pixel.toNat < 32 := by
      rw [Sprite.palette]
      omega
    have put := drawn.1.putPoint (by decide) x line
      (ppu.palette.color ((ppu.oam.sprite i).palette + pixel.toNat))
    rw [Sprite.paletteCellChecked, Option.bind_some, ppu.colorChecked cell, Option.bind_some,
      mulAddIndex (by omega), Option.bind_some, flatDrawn, put, Option.bind_some,
      drawable.meetsChecked tiles x line pixel]
    rfl

theorem drawSpriteChecked (hi : i < 64) (drawn : Layer Pixel × Bool) :
    canvas.paintSprite? ppu (flatDrawn drawn) i = some (flatDrawn (ppu.drawSprite drawn i)) := by
  have y := (ppu.oam.sprite i).y.toNat_lt
  have x := (ppu.oam.sprite i).x.toNat_lt
  have height := ppu.spriteMode.heightBound
  have line (row : Nat) (inRows : row ∈ List.range ppu.spriteMode.height)
      (above : (ppu.oam.sprite i).top + row < 240) (drawn : Layer Pixel × Bool) :
      toEdge? 256 (ppu.oam.sprite i).left
          (canvas.paintDot? ppu i (ppu.oam.sprite i) row ((ppu.oam.sprite i).top + row))
          (List.range 8) (flatDrawn drawn) =
        some (flatDrawn ((List.range 8).foldl
          (fun drawn column => ppu.drawPoint i row column drawn) drawn)) := by
    refine followToEdge flatDrawn List.pairwise_lt_range ?_ ?_ ?_ drawn
    · intro column inColumns
      have column := List.mem_range.mp inColumns
      rw [Sprite.left]
      omega
    · intro column inColumns left drawn
      exact drawable.drawPointChecked tiles (List.mem_range.mp inRows) (List.mem_range.mp inColumns)
        above left drawn
    · intro column _ right drawn
      exact ppu.drawPointBeyond (.inl right) drawn
  unfold Canvas.paintSprite?
  rw [ppu.spriteChecked hi, Option.bind_eq_bind, Option.bind_some, addIndex (by omega),
    ← drawPoints]
  refine followToEdge flatDrawn List.pairwise_lt_range ?_ line ?_ drawn
  · intro row inRows
    have row := List.mem_range.mp inRows
    omega
  · intro row _ below drawn
    exact foldlIdle fun column _ => ppu.drawPointBeyond (.inr below) drawn

end Ppu.Drawable

theorem Ppu.Drawable.renderSpritesChecked {ppu : Ppu} (drawable : ppu.Drawable) :
    ppu.canvas.renderSprites? ppu = some ppu.renderSprites.canvas := by
  have cleared : Array.replicate ppu.canvas.sprites.size 0 =
      Picture.bytes (.filled 256 240 .transparent) := by
    rw [Picture.bytesFilled, ← ppu.sprites.bytesSize]
    rfl
  unfold Canvas.renderSprites? renderSprites
  rw [cleared]
  cases ppu.showsSprites with
  | false => rfl
  | true =>
    simp only [if_true]
    have each (i : Nat) (member : i ∈ (List.range 64).reverse) (drawn : Layer Pixel × Bool) :
        Canvas.paintSprite? { ppu.canvas with sprites := #[], overlap := false } ppu
          (flatDrawn drawn) i = some (flatDrawn (ppu.drawSprite drawn i)) :=
      drawable.drawSpriteChecked rfl (List.mem_range.mp (List.mem_reverse.mp member)) drawn
    have painted := followEach flatDrawn each (.filled 256 240 .transparent, false)
    rw [drawSprites] at painted
    unfold flatDrawn at painted
    rw [painted]
    rfl

namespace Canvas
variable (canvas : Canvas)

def shown? (origin : Nat × Nat) (x y : Nat) (sprite : UInt32 × UInt8) : Option UInt32 := do
  if sprite.2 = 0 then
    let column ← bits64.add origin.1 x
    let line ← bits64.add origin.2 y
    let index ← bits64.mulAdd (line % 480) 512 (column % 512)
    let point ← getRgba? canvas.background index
    return point.1
  else
    return sprite.1

def composePoint? (origin : Nat × Nat) (x y : Nat) (frame : Array UInt32) :
    Option (Array UInt32) := do
  let index ← bits64.mulAdd y 256 x
  let sprite ← getRgba? canvas.sprites index
  let color ← canvas.shown? origin x y sprite
  put? frame index color

def compose? (ppu : Ppu) : Option Canvas := do
  let origin ← ppu.origin?
  let frame ← sweep? 256 240 (canvas.composePoint? origin) canvas.frame
  return { canvas with frame }

def render? (ppu : Ppu) : Option Canvas := do
  let canvas ← canvas.renderBackground? ppu
  let canvas ← canvas.renderSprites? ppu
  canvas.compose? ppu

end Canvas

namespace Ppu.Drawable
variable {ppu : Ppu} (drawable : ppu.Drawable)
include drawable

theorem shownChecked {x y : Nat} (hx : x < 256) (hy : y < 240) :
    ppu.canvas.shown? (ppu.originX, ppu.originY) x y
        ((ppu.sprites.get x y).color, (ppu.sprites.get x y).byte 3) =
      some (ppu.shown x y) := by
  obtain ⟨originX, originY⟩ := drawable.originBound
  have background : ppu.canvas.background = ppu.background.bytes := rfl
  have column := Nat.mod_lt (ppu.originX + x) (show 0 < 512 by decide)
  have line := Nat.mod_lt (ppu.originY + y) (show 0 < 480 by decide)
  unfold Canvas.shown? shown
  by_cases clear : (ppu.sprites.get x y).alpha = 0
  · simp only [if_pos ((Pixel.alphaByte _).mpr clear), ne_eq, not_true, clear, if_false]
    rw [addIndex (by omega), Option.bind_eq_bind, Option.bind_some, addIndex (by omega),
      Option.bind_some, mulAddIndex (by omega), Option.bind_some, background,
      ppu.background.getPoint (by decide) column line, Picture.getMod]
    rfl
  · simp only [if_neg (mt (Pixel.alphaByte _).mp clear), if_pos clear, ne_eq]
    rfl

theorem composePointChecked {x y : Nat} (hx : x < 256) (hy : y < 240) (frame : Layer UInt32) :
    ppu.canvas.composePoint? (ppu.originX, ppu.originY) x y frame.words =
      some (frame.set x y (ppu.shown x y)).words := by
  have sprites : ppu.canvas.sprites = ppu.sprites.bytes := rfl
  unfold Canvas.composePoint?
  rw [mulAddIndex (by omega)]
  simp only [Option.bind_eq_bind, Option.bind_some, sprites,
    ppu.sprites.getPoint (by decide) hx hy, drawable.shownChecked hx hy]
  exact Picture.putWord hx hy frame _

theorem composeChecked : ppu.canvas.compose? ppu = some ppu.compose.canvas := by
  have swept := followSweep Picture.words (fun x hx y hy => drawable.composePointChecked hx hy)
    ppu.frame
  have whole := ppu.frame.sweepWhole ppu.shown
  rw [Picture.sweep] at whole
  rw [whole] at swept
  unfold compose
  -- Without a name for the picture, the kernel unfolds all its points.
  generalize Picture.ofFn ppu.shown = frame at swept ⊢
  refine Option.bind_eq_some_iff.mpr ⟨_, drawable.originChecked, ?_⟩
  exact Option.bind_eq_some_iff.mpr ⟨_, swept, rfl⟩

theorem renderChecked : ppu.canvas.render? ppu = some ppu.render.canvas := by
  have background := renderBackgroundChecked ppu drawable.pixels
  have painted : ppu.renderBackground.Drawable := ⟨drawable.pixels, drawable.x, drawable.y⟩
  have drawn : ppu.renderBackground.renderSprites.Drawable := by
    rw [renderSpritesParts]
    exact ⟨drawable.pixels, drawable.x, drawable.y⟩
  have sprites : ppu.renderBackground.canvas.renderSprites? ppu =
      some ppu.renderBackground.renderSprites.canvas := painted.renderSpritesChecked
  have composed : ppu.renderBackground.renderSprites.canvas.compose? ppu =
      some ppu.renderBackground.renderSprites.compose.canvas := by
    have composed := drawn.composeChecked
    rwa [renderSpritesParts] at composed ⊢
  unfold Canvas.render?
  rw [background, Option.bind_eq_bind, Option.bind_some, sprites, Option.bind_some, composed]
  rfl

end Ppu.Drawable
end Nes
