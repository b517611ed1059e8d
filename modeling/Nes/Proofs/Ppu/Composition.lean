import Nes.Ppu.Frame
import Nes.Proofs.Ppu.Colors
import Nes.Proofs.Ppu.Painting

/-! The composition of the frame. The sprites are painted over each other and then over the
background; at every point of the screen that shows the first sprite that is not transparent
there, or else the background. -/
namespace Nes

def Ppu.spritePixel (ppu : Ppu) (i x y : Nat) : UInt8 :=
  let above := (ppu.oam.read (4 * i)).toNat
  let tile := (ppu.oam.read (4 * i + 1)).toNat
  let attributes := ppu.oam.read (4 * i + 2)
  let left := (ppu.oam.read (4 * i + 3)).toNat
  let height := if testBit ppu.ctrl 5 then 16 else 8
  if above + 1 ≤ y ∧ y ≤ above + height ∧ left ≤ x ∧ x ≤ left + 7 then
    let row := if testBit attributes 7 then height - 1 - (y - (above + 1)) else y - (above + 1)
    let column := if testBit attributes 6 then 7 - (x - left) else x - left
    let tile :=
      if testBit ppu.ctrl 5 then 256 * (tile % 2) + (tile - tile % 2) + row / 8
      else 256 * (testBit ppu.ctrl 3).toNat + tile
    ppu.tiles.pixel tile column (row % 8)
  else 0

def Ppu.spriteColor (ppu : Ppu) (i x y : Nat) : UInt32 :=
  let attributes := ppu.oam.read (4 * i + 2)
  ppu.palette.color (0x10 + 4 * (attributes.toNat % 4) + (ppu.spritePixel i x y).toNat)

theorem Sprite.tileOfRowParts (s : Sprite) (mode : SpriteMode) (row : Nat) :
    s.tileOfRow mode row =
      if mode.tall then 256 * (s.tile.toNat % 2) + (s.tile.toNat - s.tile.toNat % 2) + row / 8
      else 256 * mode.secondTable.toNat + s.tile.toNat := by
  unfold tileOfRow
  cases mode.tall with
  | true =>
    simp only [if_true]
    omega
  | false => cases mode.secondTable <;> simp

namespace Ppu
open Picture

theorem spritePixelShape (ppu : Ppu) (i x y : Nat) :
    let s := ppu.oam.sprite i
    ppu.spritePixel i x y =
      if s.top ≤ y ∧ y < s.top + ppu.spriteMode.height ∧ s.left ≤ x ∧ x < s.left + 8 then
        s.pixel ppu.spriteMode ppu.tiles (x - s.left) (y - s.top)
      else 0 := by
  intro s
  have height : (if testBit ppu.ctrl 5 then 16 else 8) = ppu.spriteMode.height := rfl
  have top : s.top = (ppu.oam.read (4 * i)).toNat + 1 := rfl
  have left : s.left = (ppu.oam.read (4 * i + 3)).toNat := rfl
  unfold spritePixel Sprite.pixel
  simp only [Sprite.tileOfRowParts]
  rw [height, ← top, ← left]
  refine ite_congr (propext ?_) (fun _ => rfl) (fun _ => rfl)
  omega

theorem spritePixelInside (ppu : Ppu) {i column row : Nat} (hc : column < 8)
    (hr : row < ppu.spriteMode.height) :
    ppu.spritePixel i ((ppu.oam.sprite i).left + column) ((ppu.oam.sprite i).top + row) =
      (ppu.oam.sprite i).pixel ppu.spriteMode ppu.tiles column row := by
  rw [spritePixelShape, if_pos (by omega), Nat.add_sub_cancel_left, Nat.add_sub_cancel_left]

theorem spritePixelReach {ppu : Ppu} {i x y : Nat} (drawn : ppu.spritePixel i x y ≠ 0) :
    ∃ row < ppu.spriteMode.height, ∃ column < 8,
      x = (ppu.oam.sprite i).left + column ∧ y = (ppu.oam.sprite i).top + row := by
  rw [spritePixelShape] at drawn
  by_cases inside : (ppu.oam.sprite i).top ≤ y ∧
      y < (ppu.oam.sprite i).top + ppu.spriteMode.height ∧
      (ppu.oam.sprite i).left ≤ x ∧ x < (ppu.oam.sprite i).left + 8
  · exact ⟨y - (ppu.oam.sprite i).top, by omega, x - (ppu.oam.sprite i).left, by omega, by omega,
      by omega⟩
  · rw [if_neg inside] at drawn
    exact absurd rfl drawn

theorem memDots (ppu : Ppu) (i : Nat) (dot : Dot) :
    dot ∈ ppu.dots i ↔ ppu.spritePixel i dot.x dot.y = dot.pixel ∧ dot.pixel ≠ 0 := by
  unfold dots Sprite.dots
  simp only [List.mem_flatMap, List.mem_filterMap, List.mem_range]
  constructor
  · rintro ⟨row, hr, column, hc, made⟩
    by_cases clear : (ppu.oam.sprite i).pixel ppu.spriteMode ppu.tiles column row = 0
    · rw [if_pos clear] at made
      cases made
    · rw [if_neg clear] at made
      obtain rfl := Option.some.inj made
      exact ⟨ppu.spritePixelInside hc hr, clear⟩
  · intro ⟨pixel, drawn⟩
    obtain ⟨row, hr, column, hc, across, down⟩ := spritePixelReach (pixel ▸ drawn)
    refine ⟨row, hr, column, hc, ?_⟩
    rw [across, down, ppu.spritePixelInside hc hr] at pixel
    rw [pixel, if_neg drawn, ← across, ← down]

theorem paintDotPaints (ppu : Ppu) {i : Nat} {dot : Dot} (member : dot ∈ ppu.dots i) :
    Paints (fun layer : Layer Pixel => layer.set dot.x dot.y
        (.solid (ppu.palette.color ((ppu.oam.sprite i).palette + dot.pixel.toNat))))
      (fun x y => dot.x = x ∧ dot.y = y) (fun x y => .solid (ppu.spriteColor i x y)) := by
  obtain ⟨pixel, -⟩ := (ppu.memDots i dot).mp member
  apply Paints.set
  rw [spriteColor, pixel]
  rfl

theorem paintSpritePaints (ppu : Ppu) (i : Nat) :
    Paints (fun layer => ppu.paintSprite layer i)
      (fun x y => decide (ppu.spritePixel i x y ≠ 0) = true)
      (fun x y => .solid (ppu.spriteColor i x y)) := by
  have dots := Paints.foldl fun dot (member : dot ∈ ppu.dots i) => ppu.paintDotPaints member
  apply dots.congr
  intro x y
  rw [decide_eq_true_iff]
  constructor
  · rintro ⟨dot, member, rfl, rfl⟩
    obtain ⟨pixel, drawn⟩ := (ppu.memDots i dot).mp member
    rwa [pixel]
  · intro drawn
    exact ⟨⟨x, y, ppu.spritePixel i x y⟩, (ppu.memDots i _).mpr ⟨rfl, drawn⟩, rfl, rfl⟩

def frontSprite (ppu : Ppu) (x y : Nat) : Option Nat :=
  (List.range 64).find? fun i => decide (ppu.spritePixel i x y ≠ 0)

theorem frontSpriteFirst {ppu : Ppu} {i x y : Nat} (inMemory : i < 64)
    (drawn : ppu.spritePixel i x y ≠ 0) (before : ∀ j < i, ppu.spritePixel j x y = 0) :
    ppu.frontSprite x y = some i := by
  apply List.find?_range_eq_some.mpr
  refine ⟨decide_eq_true drawn, List.mem_range.mpr inMemory, fun j below => ?_⟩
  simp [before j below]

theorem frontSpriteNone {ppu : Ppu} {x y : Nat}
    (clear : ∀ i < 64, ppu.spritePixel i x y = 0) : ppu.frontSprite x y = none := by
  apply List.find?_range_eq_none.mpr
  intro i inMemory
  simp [clear i inMemory]

theorem getPaintSprites (ppu : Ppu) {x y : Nat} (hx : x < 256) (hy : y < 240) :
    ppu.paintSprites.get x y =
      match ppu.frontSprite x y with
      | some i => .solid (ppu.spriteColor i x y)
      | none => .transparent := by
  have layers := getLayers (fun i (_ : i ∈ List.range 64) => ppu.paintSpritePaints i)
    (.filled 256 240 .transparent) hx hy
  unfold paintSprites frontSprite
  rw [layers, getFilled]
  cases (List.range 64).find? fun i => decide (ppu.spritePixel i x y ≠ 0) <;> rfl

theorem renderSpritesParts (ppu : Ppu) :
    ppu.renderSprites =
      { ppu with
        sprites := if ppu.showsSprites then ppu.paintSprites else .filled 256 240 .transparent
        overlap := ppu.showsSprites && ppu.overlaps } := by
  unfold renderSprites
  cases ppu.showsSprites <;> rfl

theorem renderParts (ppu : Ppu) :
    ppu.render =
      { ppu with
        background := ppu.renderBackground.background
        sprites := if ppu.showsSprites then ppu.paintSprites else .filled 256 240 .transparent
        overlap := ppu.showsSprites && ppu.renderBackground.overlaps
        frame := .ofFn ppu.renderBackground.renderSprites.shown } := by
  unfold render compose
  rw [renderSpritesParts]
  rfl

theorem getRender (ppu : Ppu) {x y : Nat} (hx : x < 256) (hy : y < 240) :
    ppu.render.frame.get x y =
      let sprite := (if ppu.showsSprites then ppu.paintSprites
        else .filled 256 240 .transparent).get x y
      if sprite.alpha ≠ 0 then sprite.color
      else (ppu.render.background.get (ppu.originX + x) (ppu.originY + y)).color := by
  have columns : x % 256 = x := Nat.mod_eq_of_lt hx
  have rows : y % 240 = y := Nat.mod_eq_of_lt hy
  rw [renderParts, renderSpritesParts, getOfFn, columns, rows]
  rfl

theorem shownSprite (ppu : Ppu) {i x y : Nat} (hx : x < 256) (hy : y < 240)
    (shows : ppu.showsSprites = true) (front : ppu.frontSprite x y = some i) :
    ppu.render.frame.get x y = ppu.spriteColor i x y := by
  rw [getRender ppu hx hy, shows]
  simp only [if_true]
  rw [getPaintSprites ppu hx hy, front, Pixel.alphaSolid, if_pos (by decide)]
  exact PaletteRam.colorSolid _ _

theorem shownBackground (ppu : Ppu) {x y : Nat} (hx : x < 256) (hy : y < 240)
    (clear : ppu.showsSprites = true → ppu.frontSprite x y = none) :
    ppu.render.frame.get x y =
      (ppu.render.background.get (ppu.originX + x) (ppu.originY + y)).color := by
  rw [getRender ppu hx hy]
  cases shows : ppu.showsSprites with
  | true =>
    simp only [if_true]
    rw [getPaintSprites ppu hx hy, clear shows]
    exact if_neg (show ¬Pixel.transparent.alpha ≠ 0 by decide)
  | false =>
    simp only [Bool.false_eq_true, if_false]
    rw [getFilled, if_neg (by decide)]

/-- The frame shows the first sprite that is not transparent at a point, or else the background
that the scroll puts there. Besides the pictures and the overlap, drawing changes nothing. -/
theorem renderComposes (ppu : Ppu) {x y : Nat} (hx : x < 256) (hy : y < 240) :
    (∀ i < 64, testBit ppu.mask 4 = true → ppu.spritePixel i x y ≠ 0 →
      (∀ j < i, ppu.spritePixel j x y = 0) →
      ppu.render.frame.get x y =
        ppu.palette.color (0x10 + 4 * ((ppu.oam.read (4 * i + 2)).toNat % 4) +
          (ppu.spritePixel i x y).toNat)) ∧
    ((testBit ppu.mask 4 = true → ∀ i < 64, ppu.spritePixel i x y = 0) →
      ppu.render.frame.get x y =
        (ppu.render.background.get
          ((ppu.scroll.x + 256 * (testBit ppu.ctrl 0).toNat + x) % 512)
          ((ppu.scroll.y + 240 * (testBit ppu.ctrl 1).toNat + y) % 480)).color) ∧
    { ppu.render with
      background := ppu.background
      sprites := ppu.sprites
      overlap := ppu.overlap
      frame := ppu.frame } = ppu := by
  refine ⟨fun i inMemory shows drawn before => ?_, fun clear => ?_, ?_⟩
  · exact ppu.shownSprite hx hy shows (frontSpriteFirst inMemory drawn before)
  · rw [ppu.shownBackground hx hy fun shows => frontSpriteNone (clear shows), getMod]
    rfl
  · rw [renderParts]

def stackedSprites : Ppu where
  mask := 0x10
  palette := .ofFn fun cell => if cell = 0x11 then 0x16 else 0
  tiles := .filled 0x8000 1

theorem renderComposesStack :
    stackedSprites.render.frame.get 3 4 = 0x982220 ∧
      stackedSprites.render.frame.get 3 9 = (stackedSprites.render.background.get 3 9).color := by
  constructor
  · have first := (stackedSprites.renderComposes (show 3 < 256 by decide)
      (show 4 < 240 by decide)).1 0 (by decide) (by decide) (by decide +kernel) (by simp)
    have color : stackedSprites.palette.color 0x11 = 0x982220 := by decide +kernel
    have entry : 0x10 + 4 * ((stackedSprites.oam.read 2).toNat % 4) +
        (stackedSprites.spritePixel 0 3 4).toNat = 0x11 := by
      decide +kernel
    rw [first, entry, color]
  · exact (stackedSprites.renderComposes (show 3 < 256 by decide) (show 9 < 240 by decide)).2.1
      fun _ => by decide +kernel

end Ppu
end Nes
