import Nes.Proofs.Checked
import Nes.Proofs.Ppu.BackgroundPicture
import Nes.Proofs.Ppu.Colors

/-! The canvas: the memory that the unit draws in, as flat tables of bytes and words. Nothing but
its use keeps an index inside them, or gives them a size. -/
namespace Nes
open Width

namespace Pixel

def byte (p : Pixel) (i : Nat) : UInt8 :=
  UInt8.ofNat (p.rgba.toNat >>> (24 - 8 * i))

theorem byteTransparent (i : Nat) : transparent.byte i = 0 := by
  unfold byte transparent
  rw [UInt32.toNat_zero, Nat.zero_shiftRight]
  rfl

theorem toNatSolid (color : UInt32) :
    (solid color).rgba.toNat = color.toNat % 0x1000000 * 0x100 + 0xFF := by
  have narrow : color.toNat <<< 8 % 0x100000000 = (color.toNat % 0x1000000) <<< 8 := by
    rw [Nat.shiftLeft_eq, Nat.shiftLeft_eq]
    omega
  have joined := Nat.shiftLeft_add_eq_or_of_lt (show 0xFF < 2 ^ 8 by decide)
    (color.toNat % 0x1000000)
  unfold solid
  rw [UInt32.toNat_or, UInt32.toNat_shiftLeft]
  change color.toNat <<< 8 % 0x100000000 ||| 0xFF = _
  rw [narrow, ← joined, Nat.shiftLeft_eq]

theorem toNatByte (p : Pixel) (i : Nat) :
    (p.byte i).toNat = p.rgba.toNat >>> (24 - 8 * i) % 0x100 :=
  UInt8.toNat_ofNat'

theorem byteSolid (color : UInt32) :
    (solid color).byte 0 = UInt8.ofNat (color.toNat >>> 16) ∧
      (solid color).byte 1 = UInt8.ofNat (color.toNat >>> 8) ∧
      (solid color).byte 2 = UInt8.ofNat color.toNat ∧ (solid color).byte 3 = 0xFF := by
  refine ⟨?_, ?_, ?_, ?_⟩
  all_goals
    apply UInt8.toNat_inj.mp
    simp only [toNatByte, toNatSolid, UInt8.toNat_ofNat', Nat.shiftRight_eq_div_pow]
  · omega
  · omega
  · omega
  · change _ = 255
    omega

theorem colorBytes (p : Pixel) :
    UInt32.ofNat ((p.byte 0).toNat <<< 16 ||| (p.byte 1).toNat <<< 8 ||| (p.byte 2).toNat) =
      p.color := by
  have low := Nat.shiftLeft_add_eq_or_of_lt (p.byte 2).toNat_lt (p.byte 1).toNat
  have high := Nat.shiftLeft_add_eq_or_of_lt
    (show (p.byte 1).toNat <<< 8 + (p.byte 2).toNat < 2 ^ 16 by
      rw [Nat.shiftLeft_eq]
      have := (p.byte 1).toNat_lt
      have := (p.byte 2).toNat_lt
      omega) (p.byte 0).toNat
  have word := p.rgba.toNat_lt
  apply UInt32.toNat_inj.mp
  rw [Nat.or_assoc, ← low, ← high, UInt32.toNat_ofNat', color, UInt32.toNat_shiftRight]
  simp only [Nat.shiftLeft_eq, toNatByte, Nat.shiftRight_eq_div_pow]
  change _ = p.rgba.toNat / 2 ^ 8
  omega

theorem alphaByte (p : Pixel) : p.byte 3 = 0 ↔ p.alpha = 0 := by
  rw [← UInt8.toNat_inj, ← UInt32.toNat_inj, toNatByte, alpha, UInt32.toNat_and]
  change p.rgba.toNat >>> 0 % 0x100 = 0 ↔ p.rgba.toNat &&& 2 ^ 8 - 1 = 0
  rw [Nat.and_two_pow_sub_one_eq_mod]
  rfl

end Pixel

def putRgba? (buffer : Array UInt8) (index : Nat) (color : UInt32) (alpha : UInt8) :
    Option (Array UInt8) := do
  let start ← bits64.mul index 4
  let stop ← bits64.add start 4
  if stop ≤ buffer.size then
    let red := UInt8.ofNat (color.toNat >>> 16)
    let green := UInt8.ofNat (color.toNat >>> 8)
    let blue := UInt8.ofNat color.toNat
    return (((buffer.setIfInBounds start red).setIfInBounds (start + 1) green).setIfInBounds
      (start + 2) blue).setIfInBounds (start + 3) alpha
  else none

def getRgba? (buffer : Array UInt8) (index : Nat) : Option (UInt32 × UInt8) := do
  let start ← bits64.mul index 4
  let red ← buffer[start]?
  let green ← buffer[start + 1]?
  let blue ← buffer[start + 2]?
  let alpha ← buffer[start + 3]?
  return (UInt32.ofNat (red.toNat <<< 16 ||| green.toNat <<< 8 ||| blue.toNat), alpha)

namespace Picture
variable {width height : Nat}

@[irreducible]
def bytes (p : Picture width height Pixel) : Array UInt8 :=
  .ofFn fun i : Fin (4 * (width * height)) =>
    have inside : i.val / 4 < width * height := Nat.div_lt_of_lt_mul i.isLt
    p.points[i.val / 4].byte (i.val % 4)

@[irreducible]
def words (p : Picture width height UInt32) : Array UInt32 :=
  p.points.toArray

theorem getBytes (p : Picture width height Pixel) {i : Nat} (inside : i < p.bytes.size)
    (point : i / 4 < width * height) : p.bytes[i] = p.points[i / 4].byte (i % 4) := by
  simp only [bytes, Array.getElem_ofFn]

theorem bytesSize (p : Picture width height Pixel) : p.bytes.size = 4 * (width * height) := by
  rw [bytes, Array.size_ofFn]

theorem bytesFilled : (filled width height Pixel.transparent).bytes =
    .replicate (4 * (width * height)) 0 := by
  apply Array.ext
  · rw [bytesSize, Array.size_replicate]
  · intro i inside inside'
    rw [bytesSize] at inside
    rw [getBytes _ _ (Nat.div_lt_of_lt_mul inside), Array.getElem_replicate]
    simp only [filled, Vector.getElem_replicate, Pixel.byteTransparent]

theorem wordsFilled (value : UInt32) :
    (filled width height value).words = .replicate (width * height) value := by
  rw [words, filled, Vector.toArray_replicate]

theorem pointsSet {α : Type} (p : Picture width height α) {x y : Nat} (hx : x < width)
    (hy : y < height) (value : α) {i : Nat} (point : i < width * height) :
    (p.set x y value).points[i] = if width * y + x = i then value else p.points[i] := by
  unfold set
  simp only [dif_pos (And.intro hx hy), Vector.getElem_set]

section
variable (small : 4 * (width * height) < 0x100000000) {x y : Nat} (hx : x < width) (hy : y < height)
include small hx hy

theorem putPoint (p : Picture width height Pixel) (color : UInt32) :
    putRgba? p.bytes (y * width + x) color 0xFF = some (p.set x y (.solid color)).bytes := by
  have inside := Picture.inside hx hy
  rw [Nat.mul_comm y]
  generalize index : width * y + x = n at inside
  have stop : n * 4 + 4 ≤ p.bytes.size := by
    rw [bytesSize]
    omega
  obtain ⟨red, green, blue, alpha⟩ := Pixel.byteSolid color
  unfold putRgba?
  rw [mulIndex (by omega), Option.bind_eq_bind, Option.bind_some, addIndex (by omega),
    Option.bind_some, if_pos stop]
  refine congrArg some (Array.ext ?_ fun i before after => ?_)
  · simp only [Array.size_setIfInBounds, bytesSize]
  · have point : i / 4 < width * height := by
      rw [bytesSize] at after
      omega
    have old : i < p.bytes.size := by simpa only [bytesSize] using after
    rw [getBytes _ after point]
    simp only [Array.getElem_setIfInBounds, Array.size_setIfInBounds, old,
      pointsSet p hx hy (.solid color) point]
    rw [index]
    by_cases here : n = i / 4
    · rw [if_pos here]
      have byte : i % 4 = 0 ∨ i % 4 = 1 ∨ i % 4 = 2 ∨ i % 4 = 3 := by omega
      rcases byte with byte | byte | byte | byte
      · rw [byte, red, if_neg (by omega), if_neg (by omega), if_neg (by omega), if_pos (by omega)]
      · rw [byte, green, if_neg (by omega), if_neg (by omega), if_pos (by omega)]
      · rw [byte, blue, if_neg (by omega), if_pos (by omega)]
      · rw [byte, alpha, if_pos (by omega)]
    · rw [if_neg here, if_neg (by omega), if_neg (by omega), if_neg (by omega), if_neg (by omega)]
      exact getBytes p old point

theorem getPoint [Positive width] [Positive height] (p : Picture width height Pixel) :
    getRgba? p.bytes (y * width + x) = some ((p.get x y).color, (p.get x y).byte 3) := by
  have inside := Picture.inside hx hy
  have byte (i : Nat) (four : i < 4) :
      p.bytes[(y * width + x) * 4 + i]? = some ((p.get x y).byte i) := by
    have bound : (y * width + x) * 4 + i < p.bytes.size := by
      rw [bytesSize, Nat.mul_comm y]
      omega
    have point : ((y * width + x) * 4 + i) / 4 = width * y + x := by
      rw [Nat.mul_comm y]
      omega
    have rest : ((y * width + x) * 4 + i) % 4 = i := by omega
    rw [Array.getElem?_eq_getElem bound, getBytes p bound (point ▸ inside)]
    simp only [point, rest, get, Nat.mod_eq_of_lt hx, Nat.mod_eq_of_lt hy]
  unfold getRgba?
  rw [mulIndex (by rw [Nat.mul_comm y]; omega), Option.bind_eq_bind, Option.bind_some]
  have red := byte 0 (by decide)
  rw [Nat.add_zero] at red
  rw [red, byte 1 (by decide), byte 2 (by decide), byte 3 (by decide)]
  simp only [Option.bind_eq_bind, Option.bind_some, Pixel.colorBytes]
  rfl

end

theorem putWord {x y : Nat} (hx : x < width) (hy : y < height) (p : Picture width height UInt32)
    (value : UInt32) : put? p.words (y * width + x) value = some (p.set x y value).words := by
  have inside : width * y + x < p.words.size := by
    simpa only [words, Vector.size_toArray] using Picture.inside hx hy
  rw [put?, Nat.mul_comm y, dif_pos inside, set, dif_pos ⟨hx, hy⟩]
  simp only [words, Vector.toArray_set]

end Picture

structure Canvas where
  tiles : Array UInt8
  background : Array UInt8
  sprites : Array UInt8
  overlap : Bool
  frame : Array UInt32

def Canvas.blank : Canvas where
  tiles := .replicate 32768 0
  background := .replicate 983040 0
  sprites := .replicate 245760 0
  overlap := false
  frame := .replicate 61440 0

namespace Ppu

def canvas (ppu : Ppu) : Canvas where
  tiles := ppu.tiles.bytes
  background := ppu.background.bytes
  sprites := ppu.sprites.bytes
  overlap := ppu.overlap
  frame := ppu.frame.words

theorem canvasSizes (ppu : Ppu) :
    ppu.canvas.tiles.size = 32768 ∧ ppu.canvas.background.size = 983040 ∧
      ppu.canvas.sprites.size = 245760 ∧ ppu.canvas.frame.size = 61440 := by
  unfold canvas
  refine ⟨Vector.size_toArray _, ?_, ?_, ?_⟩
  · rw [Picture.bytesSize]
  · rw [Picture.bytesSize]
  · rw [Picture.words, Vector.size_toArray]

theorem canvasNew (mirroring : Mirroring) : ({ mirroring } : Ppu).canvas = .blank := by
  unfold canvas Canvas.blank
  simp only [Ram.bytesFilled, Picture.bytesFilled, Picture.wordsFilled, Nat.reduceMul]

end Ppu

namespace Mirroring

def bank? (mirroring : Mirroring) (table : Nat) : Option (Fin 2) := do
  let number ←
    match mirroring with
    | vertical => some (table % 2)
    | horizontal => (bits16.shiftRight table 1).map (· % 2)
  if inside : number < 2 then
    return ⟨number, inside⟩
  else none

theorem bankChecked (mirroring : Mirroring) (table : Nat) :
    mirroring.bank? table = some (mirroring.bank table) := by
  cases mirroring with
  | vertical => exact dif_pos (Nat.mod_lt table (by decide))
  | horizontal =>
    unfold bank?
    rw [shiftRightSome (by decide), Nat.shiftRight_eq_div_pow]
    exact dif_pos (Nat.mod_lt (table / 2) (by decide))

end Mirroring

namespace Ppu
variable (ppu : Ppu)

def tableBank? (table : Nat) : Option (Ram 0x400) :=
  (ppu.mirroring.bank? table).map ppu.nametables.bank

def backgroundTile? (number : UInt8) : Option Nat :=
  bits64.add (if testBit ppu.ctrl 4 then 256 else 0) number.toNat

def color? (cell : Nat) : Option UInt32 := do
  let name ← ppu.palette.read? cell
  masterColors[(name % 64).toNat]?

theorem tableBankChecked (table : Nat) : ppu.tableBank? table = some (ppu.tableBank table) := by
  rw [tableBank?, Mirroring.bankChecked]
  rfl

theorem backgroundTileChecked (number : UInt8) :
    ppu.backgroundTile? number = some (ppu.backgroundTile number) := by
  have byte := number.toNat_lt
  unfold backgroundTile? backgroundTile
  split
  · exact addIndex (by omega)
  · rw [addIndex (by omega), Nat.zero_add]

theorem colorChecked {cell : Nat} (inside : cell < 32) :
    ppu.color? cell = some (ppu.palette.color cell) := by
  rw [color?, Ram.readSome _ inside]
  exact ppu.palette.namesColor cell

end Ppu

namespace Canvas

def tilePixel? (canvas : Canvas) (tile x y : Nat) : Option UInt8 := do
  let inTile ← bits64.mulAdd y 8 x
  let cell ← bits64.mulAdd tile 64 inTile
  canvas.tiles[cell]?

theorem tilePixelChecked {canvas : Canvas} {ppu : Ppu} (tiles : canvas.tiles = ppu.tiles.bytes)
    {tile x y : Nat} (ht : tile < 512) (hx : x < 8) (hy : y < 8) :
    canvas.tilePixel? tile x y = some (ppu.tiles.pixel tile x y) := by
  have cell : tile * 64 + (y * 8 + x) = 64 * tile + 8 * y + x := by omega
  rw [tilePixel?, mulAddIndex (by omega), Option.bind_eq_bind, Option.bind_some,
    mulAddIndex (by omega), Option.bind_some, tiles, cell]
  exact Ram.bytesSome _ (by omega)

end Canvas
end Nes
