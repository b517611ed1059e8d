import Nes.Proofs.Ppu.BackgroundPicture
import Nes.Proofs.Ppu.Composition

/-! The overlap of sprite 0 with the background. The unit looks each point of the background up
again where the sprite covers it; what it finds there is what the picture was drawn from. -/
namespace Nes

-- What a point of the background is drawn from: the palette of its tile, and the pixel of the
-- pattern. A pixel of 0 leaves the backdrop, whatever the palette.
structure Ink where
  palette : Nat
  pixel : UInt8
  deriving DecidableEq, Repr

namespace Ppu
open Picture

def inks (ppu : Ppu) : Field Ink :=
  if ppu.showsBackground then ppu.drawTables Ink.mk (.filled 512 480 ⟨0, 0⟩)
  else .filled 512 480 ⟨0, 0⟩

def shownInk (ppu : Ppu) (x y : Nat) : Ink :=
  ppu.inks.get
    ((ppu.scroll.x + 256 * (testBit ppu.ctrl 0).toNat + x) % 512)
    ((ppu.scroll.y + 240 * (testBit ppu.ctrl 1).toNat + y) % 480)

theorem getInks (ppu : Ppu) {x y : Nat} (hx : x < 512) (hy : y < 480) :
    ppu.inks.get x y =
      if ppu.showsBackground then ⟨ppu.fieldPalette x y, ppu.fieldPixel x y⟩ else ⟨0, 0⟩ := by
  unfold inks
  cases ppu.showsBackground with
  | true => exact ppu.getDrawTables Ink.mk _ hx hy
  | false => exact getFilled _ x y

theorem getBackgroundInk (ppu : Ppu) (x y : Nat) :
    ppu.render.background.get x y =
      .solid (ppu.tileColor (ppu.inks.get x y).palette (ppu.inks.get x y).pixel) := by
  have hx : x % 512 < 512 := Nat.mod_lt x (by decide)
  have hy : y % 480 < 480 := Nat.mod_lt y (by decide)
  rw [renderParts, ← getMod, getRenderBackground ppu hx hy, ← getMod ppu.inks, getInks ppu hx hy]
  cases ppu.showsBackground <;> rfl

theorem backgroundSolidInk (ppu : Ppu) (x y : Nat) :
    ppu.backgroundSolid x y = decide ((ppu.shownInk x y).pixel ≠ 0) := by
  have hx : (ppu.originX + x) % 512 < 512 := Nat.mod_lt _ (by decide)
  have hy : (ppu.originY + y) % 480 < 480 := Nat.mod_lt _ (by decide)
  have ink : ppu.shownInk x y = _ := ppu.getInks hx hy
  -- Every table begins where a tile of the field begins.
  have across := Nat.mod_mod_of_dvd ((ppu.originX + x) % 512) (show 8 ∣ 256 by decide)
  have down := Nat.mod_mod_of_dvd ((ppu.originY + y) % 480) (show 8 ∣ 240 by decide)
  unfold backgroundSolid
  rw [ink]
  simp only [across, down]
  cases ppu.showsBackground with
  | true => exact (Bool.true_and _).trans decide_not.symm
  | false => rfl

theorem inkShown {ppu : Ppu} {x y : Nat} (solid : (ppu.shownInk x y).pixel ≠ 0) :
    ppu.showsBackground = true := by
  cases shows : ppu.showsBackground with
  | true => rfl
  | false =>
    unfold shownInk inks at solid
    rw [shows, if_neg Bool.false_ne_true, getFilled] at solid
    exact absurd rfl solid

theorem overlapsShown (ppu : Ppu) :
    ppu.overlaps = true ↔
      ∃ x < 256, ∃ y < 240, ppu.spritePixel 0 x y ≠ 0 ∧ (ppu.shownInk x y).pixel ≠ 0 := by
  unfold overlaps
  rw [List.any_eq_true]
  constructor
  · rintro ⟨dot, member, both⟩
    rw [backgroundSolidInk, Bool.and_eq_true, decide_eq_true_iff, decide_eq_true_iff] at both
    obtain ⟨pixel, drawn⟩ := (ppu.memDots 0 dot).mp member
    exact ⟨dot.x, both.1.1, dot.y, both.1.2, pixel ▸ drawn, both.2⟩
  · rintro ⟨x, hx, y, hy, drawn, solid⟩
    refine ⟨⟨x, y, ppu.spritePixel 0 x y⟩, (ppu.memDots 0 _).mpr ⟨rfl, drawn⟩, ?_⟩
    rw [backgroundSolidInk, Bool.and_eq_true, decide_eq_true_iff, decide_eq_true_iff]
    exact ⟨⟨hx, hy⟩, solid⟩

theorem beginVblankOverlap (ppu : Ppu) :
    testBit ppu.beginVblank.status 6 = false ∧ ppu.beginVblank.overlap = ppu.render.overlap := by
  unfold beginVblank
  rw [renderParts, renderParts]
  refine ⟨?_, rfl⟩
  change ((ppu.status ||| 0x80) &&& 0xBF).toNat.testBit 6 = false
  rw [UInt8.toNat_and, Nat.testBit_and]
  exact Bool.and_false _

theorem endVblankOverlap (ppu : Ppu) :
    testBit ppu.endVblank.status 6 = (testBit ppu.status 6 || ppu.overlap) := by
  unfold endVblank
  cases ppu.overlap with
  | true =>
    change ((ppu.status &&& 0x7F) ||| 0x40).toNat.testBit 6 = (ppu.status.toNat.testBit 6 || true)
    rw [UInt8.toNat_or, Nat.testBit_or, Bool.or_true]
    exact Bool.or_true _
  | false =>
    change (ppu.status &&& 0x7F).toNat.testBit 6 = (ppu.status.toNat.testBit 6 || false)
    rw [UInt8.toNat_and, Nat.testBit_and, Bool.or_false]
    exact Bool.and_true _

theorem shownClear {ppu : Ppu} {x y : Nat} (clear : ppu.sprites.get x y = .transparent) :
    ppu.shown x y = (ppu.background.get (ppu.originX + x) (ppu.originY + y)).color := by
  unfold shown
  rw [clear]
  exact if_neg (by decide)

theorem shownWithoutSprites (ppu : Ppu) (x y : Nat) :
    { ppu.render with sprites := .filled 256 240 .transparent }.shown x y =
      ppu.tileColor (ppu.shownInk x y).palette (ppu.shownInk x y).pixel := by
  have background := ppu.getBackgroundInk ((ppu.originX + x) % 512) ((ppu.originY + y) % 480)
  have ink : ppu.inks.get ((ppu.originX + x) % 512) ((ppu.originY + y) % 480) =
      ppu.shownInk x y := rfl
  have color (palette : Nat) (pixel : UInt8) :
      (Pixel.solid (ppu.tileColor palette pixel)).color = ppu.tileColor palette pixel :=
    ppu.palette.colorSolid _
  rw [getMod, ink, renderParts] at background
  rw [shownClear (getFilled _ x y), renderParts, ← color, ← background]
  rfl

/-- The overlap is in the last picture exactly when both layers are shown and somewhere on the
screen sprite 0 covers a point of the background that is not drawn as backdrop. -/
theorem overlapAgrees (ppu : Ppu) :
    (ppu.render.overlap = true ↔
      testBit ppu.mask 3 = true ∧ testBit ppu.mask 4 = true ∧
        ∃ x < 256, ∃ y < 240, ppu.spritePixel 0 x y ≠ 0 ∧ (ppu.shownInk x y).pixel ≠ 0) ∧
    testBit ppu.beginVblank.endVblank.status 6 = ppu.render.overlap ∧
    (∀ x y, ppu.backgroundSolid x y = decide ((ppu.shownInk x y).pixel ≠ 0)) ∧
    (∀ x y, ppu.render.background.get x y =
      .solid (ppu.tileColor (ppu.inks.get x y).palette (ppu.inks.get x y).pixel)) ∧
    ∀ x y, { ppu.render with sprites := .filled 256 240 .transparent }.shown x y =
      ppu.tileColor (ppu.shownInk x y).palette (ppu.shownInk x y).pixel := by
  refine ⟨?_, ?_, ppu.backgroundSolidInk, ppu.getBackgroundInk, ppu.shownWithoutSprites⟩
  · rw [renderParts]
    change (ppu.showsSprites && ppu.overlaps) = true ↔ _
    rw [Bool.and_eq_true, overlapsShown]
    constructor
    · rintro ⟨sprites, x, hx, y, hy, drawn, solid⟩
      exact ⟨inkShown solid, sprites, x, hx, y, hy, drawn, solid⟩
    · rintro ⟨-, both⟩
      exact both
  · rw [endVblankOverlap, ppu.beginVblankOverlap.1, ppu.beginVblankOverlap.2, Bool.false_or]

end Ppu
end Nes
