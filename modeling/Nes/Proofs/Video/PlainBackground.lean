import Nes.Proofs.Ppu.BackgroundPicture
import Nes.Proofs.Ppu.Colors
import Nes.Proofs.Video.TileCache

/-! The plain background: one point of the picture of all nametables from reads in the address
space of the picture unit and from the patterns of the cartridge, without the tile cache and
without the banks. The picture that is drawn is this one. -/
namespace Nes

theorem VideoCell.ofAddressNat (mirroring : Mirroring) {addr : Nat} (above : 0x2000 ≤ addr)
    (below : addr < 0x4000) :
    ofAddress mirroring (.ofNat addr) =
      if addr < 0x3F00 then
        .nametable (mirroring.bank ((addr - 0x2000) % 0x1000 / 0x400)) (addr % 0x400)
      else .palette (PaletteRam.cell addr) := by
  have whole : (UInt16.ofNat addr % 0x4000).toNat = addr := by
    simp
    omega
  have notPattern : ¬UInt16.ofNat addr % 0x4000 < 0x2000 := by
    rw [UInt16.lt_iff_toNat_lt, whole]
    exact Nat.not_lt.mpr above
  have inTables : UInt16.ofNat addr % 0x4000 < 0x3F00 ↔ addr < 0x3F00 := by
    rw [UInt16.lt_iff_toNat_lt, whole]
    rfl
  simp only [ofAddress, if_neg notPattern, inTables, whole, Mirroring.locate]

theorem VideoCell.ofTable (mirroring : Mirroring) {table offset : Nat} (ht : table < 4)
    (ho : offset < 0x400) :
    ofAddress mirroring (.ofNat (0x2000 + 0x400 * table + offset)) =
      .nametable (mirroring.bank table) offset := by
  have ofTable : (0x2000 + 0x400 * table + offset - 0x2000) % 0x1000 / 0x400 = table := by omega
  have ofOffset : (0x2000 + 0x400 * table + offset) % 0x400 = offset := by omega
  rw [ofAddressNat mirroring (by omega) (by omega), if_pos (by omega), ofTable, ofOffset]

theorem VideoCell.ofBackgroundPalette (mirroring : Mirroring) {cell : Nat} (bound : cell < 16) :
    ofAddress mirroring (.ofNat (0x3F00 + cell)) = .palette cell := by
  have low : (0x3F00 + cell) % 32 = cell := by omega
  rw [ofAddressNat mirroring (by omega) (by omega), if_neg (by omega), PaletteRam.cell, low,
    if_neg (by omega)]

namespace Video

theorem readTable (video : Video) {table offset : Nat} (ht : table < 4) (ho : offset < 0x400) :
    video.readVram (.ofNat (0x2000 + 0x400 * table + offset)) =
      (video.ppu.tableBank table).read offset := by
  rw [readVram, VideoCell.ofTable _ ht ho]
  rfl

theorem readPalette (video : Video) {cell : Nat} (bound : cell < 16) :
    video.readVram (.ofNat (0x3F00 + cell)) = video.ppu.palette.read cell := by
  rw [readVram, VideoCell.ofBackgroundPalette _ bound]
  rfl

def plainTile (video : Video) (x y : Nat) : UInt8 :=
  let table := 2 * (y / 240) + x / 256
  let column := x % 256 / 8
  let row := y % 240 / 8
  video.readVram (.ofNat (0x2000 + 0x400 * table + (32 * row + column)))

def plainPalette (video : Video) (x y : Nat) : Nat :=
  let table := 2 * (y / 240) + x / 256
  let column := x % 256 / 8
  let row := y % 240 / 8
  let attributes := video.readVram
    (.ofNat (0x2000 + 0x400 * table + (0x3C0 + 8 * (row / 4) + column / 4)))
  attributes.toNat >>> (4 * (row / 2 % 2) + 2 * (column / 2 % 2)) % 4

def plainPixel (video : Video) (x y : Nat) : Nat :=
  let bit (addr : Nat) := (testBit (chr video.cart (.ofNat addr)) (7 - x % 8)).toNat
  let addr := 0x1000 * (testBit video.ppu.ctrl 4).toNat + 16 * (video.plainTile x y).toNat + y % 8
  bit addr + 2 * bit (addr + 8)

def plainEntry (video : Video) (x y : Nat) : Nat :=
  if testBit video.ppu.mask 3 ∧ video.plainPixel x y ≠ 0 then
    0x3F00 + (4 * video.plainPalette x y + video.plainPixel x y)
  else 0x3F00

end Video

namespace Video
variable {video : Video} {x y : Nat}

theorem plainTileRead (hx : x < 512) (hy : y < 480) :
    video.plainTile x y =
      (video.ppu.tableBank (TilePlace.ofPoint x y).table).read (TilePlace.ofPoint x y).tileCell := by
  have inside := TilePlace.insideOfPoint hx hy
  exact video.readTable inside.table inside.tileCellBound

theorem plainPaletteRead (hx : x < 512) (hy : y < 480) :
    video.plainPalette x y = video.ppu.fieldPalette x y := by
  have inside := TilePlace.insideOfPoint hx hy
  exact congrArg (TilePlace.ofPoint x y).palette
    (video.readTable inside.table inside.attributeCellBound)

theorem plainPixelRead (coherent : Coherent video) (hx : x < 512) (hy : y < 480) :
    video.plainPixel x y = (video.ppu.fieldPixel x y).toNat := by
  obtain ⟨tile, bound⟩ := video.ppu.backgroundTileBound (video.plainTile x y)
  have place : Tiles.rowAddress (video.ppu.backgroundTile (video.plainTile x y)) (y % 8) =
      .ofNat (0x1000 * (testBit video.ppu.ctrl 4).toNat + 16 * (video.plainTile x y).toNat +
        y % 8) := by
    rw [Tiles.rowAddress, tile]
    congr 2
    omega
  unfold plainPixel Ppu.fieldPixel
  simp only
  rw [← plainTileRead hx hy, coherent.tiles,
    Tiles.pixelOfChr _ bound (Nat.mod_lt x (by decide)) (Nat.mod_lt y (by decide)),
    Tiles.toNatDecode, place, UInt16.ofNat_add _ 8]
  rfl

theorem plainPixelBound (video : Video) (x y : Nat) : video.plainPixel x y < 4 := by
  have bound (bit : Bool) : bit.toNat ≤ 1 := bit.toNat_le
  unfold plainPixel
  simp only
  exact Nat.lt_succ_of_le (Nat.add_le_add (bound _) (Nat.mul_le_mul_left 2 (bound _)))

theorem plainPaletteBound (video : Video) (x y : Nat) : video.plainPalette x y < 4 :=
  Nat.mod_lt _ (by decide)

theorem plainEntryCell (coherent : Coherent video) (hx : x < 512) (hy : y < 480) :
    ∃ cell < 16, video.plainEntry x y = 0x3F00 + cell ∧
      (if video.ppu.showsBackground then video.ppu.fieldColor x y else video.ppu.palette.color 0) =
        video.ppu.palette.color cell := by
  have pixel := plainPixelRead coherent hx hy
  have palette : video.plainPalette x y = _ := plainPaletteRead hx hy
  have pixelBound := video.plainPixelBound x y
  have paletteBound := video.plainPaletteBound x y
  unfold plainEntry Ppu.showsBackground
  cases shown : testBit video.ppu.mask 3 with
  | false => exact ⟨0, by decide, by simp, by simp⟩
  | true =>
    by_cases clear : video.plainPixel x y = 0
    · have undrawn : video.ppu.fieldPixel x y = 0 := UInt8.toNat_inj.mp (pixel.symm.trans clear)
      exact ⟨0, by decide, by simp [clear], by simp [Ppu.fieldColor, Ppu.tileColor, undrawn]⟩
    · refine ⟨4 * video.plainPalette x y + video.plainPixel x y, by omega, by simp [clear], ?_⟩
      have drawn : video.ppu.fieldPixel x y ≠ 0 := by
        intro undrawn
        rw [pixel, undrawn] at clear
        exact clear rfl
      simp [Ppu.fieldColor, Ppu.tileColor, drawn, pixel, palette]

theorem drawnPlain (coherent : Coherent video) (hx : x < 512) (hy : y < 480) :
    let drawn := video.ppu.renderBackground.background.get x y
    drawn.alpha = 0xFF ∧
      masterColors[(video.readVram (.ofNat (video.plainEntry x y))).toNat]? = some drawn.color := by
  obtain ⟨cell, bound, entry, color⟩ := plainEntryCell coherent hx hy
  simp only
  rw [video.ppu.getRenderBackground hx hy, color, entry, video.readPalette bound,
    PaletteRam.colorSolid, ← PaletteRam.namesColor, Pixel.alphaSolid]
  have number : video.ppu.palette.read cell % 64 = video.ppu.palette.read cell := by
    apply UInt8.toNat_inj.mp
    rw [UInt8.toNat_mod]
    exact Nat.mod_eq_of_lt (coherent.palette cell)
  rw [number]
  exact ⟨rfl, rfl⟩

/-- After any history of the bus, and whatever the control and mask registers, the mirroring and
the old picture are: drawing the background gives every point the colour of its plain entry. -/
theorem renderBackgroundPlain (apu : Apu) (signals : List Signal) (ctrl mask : UInt8)
    (mirroring : Mirroring) (old : Field Pixel) {x y : Nat} (hx : x < 512) (hy : y < 480) :
    let video := (Bus.play { apu } signals).video.update fun ppu =>
      { ppu with ctrl, mask, mirroring, background := old }
    let drawn := video.ppu.renderBackground.background.get x y
    drawn.alpha = 0xFF ∧
      masterColors[(video.readVram (.ofNat (video.plainEntry x y))).toNat]? = some drawn.color :=
  drawnPlain ((Bus.playCoherent apu signals).update _ rfl rfl) hx hy

def stripedVideo : List Signal :=
  [.insert {
      prg := #[], chr := .ram (.filled 0x2000 0), prgBanks := 1, chrBanks := 0, mapper := 0
      mirroring := .horizontal },
    .ppuWrite 0 0xFF, .ppuWrite 0x3F01 0x16]

theorem renderBackgroundPlainStripe :
    let video := (Bus.play { apu := .standard } stripedVideo).video.update fun ppu =>
      { ppu with
        ctrl := 0, mask := 8, mirroring := .vertical
        background := .filled 512 480 .transparent }
    let drawn := video.ppu.renderBackground.background.get 3 240
    drawn.alpha = 0xFF ∧ drawn.color = 0x982220 := by
  intro video drawn
  obtain ⟨alpha, color⟩ := renderBackgroundPlain .standard stripedVideo 0 8 .vertical
    (.filled 512 480 .transparent) (show 3 < 512 by decide) (show 240 < 480 by decide)
  have entry : (video.readVram (.ofNat (video.plainEntry 3 240))).toNat = 0x16 := by
    decide +kernel
  rw [entry] at color
  exact ⟨alpha, (Option.some.inj color).symm⟩

end Video
end Nes
