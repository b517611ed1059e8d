import Nes.Ppu.Palette
import Nes.Ppu.Picture

/-! Colours: what a drawn point tells of the colour that it was drawn with. -/
namespace Nes

namespace Pixel

theorem alphaSolid (color : UInt32) : (solid color).alpha = 0xFF := by
  unfold solid alpha
  apply UInt32.toNat_inj.mp
  rw [UInt32.toNat_and, UInt32.toNat_or]
  apply Nat.eq_of_testBit_eq
  intro i
  rw [Nat.testBit_and, Nat.testBit_or]
  cases (UInt32.toNat 255).testBit i <;> simp

theorem colorSolid {color : UInt32} (bound : color < 0x1000000) : (solid color).color = color := by
  have small : color.toNat < 0x1000000 := UInt32.lt_iff_toNat_lt.mp bound
  -- A colour has 24 bits, and so none is lost above the alpha.
  have whole : color.toNat <<< 8 % 2 ^ 32 = color.toNat <<< 8 := by
    rw [Nat.shiftLeft_eq]
    omega
  unfold solid Pixel.color
  apply UInt32.toNat_inj.mp
  rw [UInt32.toNat_shiftRight, UInt32.toNat_or, UInt32.toNat_shiftLeft]
  change (color.toNat <<< 8 % 2 ^ 32 ||| 255) >>> 8 = _
  rw [whole, Nat.shiftRight_or_distrib, Nat.shiftLeft_shiftRight]
  exact Nat.or_zero _

end Pixel

theorem masterColorsBound : ∀ color ∈ masterColors, color < 0x1000000 := by
  have all : masterColors.all fun color => decide (color < 0x1000000) := by
    decide +kernel
  intro color member
  exact of_decide_eq_true (Array.all_eq_true'.mp all color member)

namespace PaletteRam

theorem namesColor (m : PaletteRam) (cell : Nat) :
    masterColors[(m.read cell % 64).toNat]? = some (m.color cell) := by
  have named : (m.read cell % 64).toNat < masterColors.size := by
    rw [UInt8.toNat_mod]
    exact Nat.mod_lt _ (by decide)
  rw [color, Array.getD, dif_pos named, Array.getElem?_eq_getElem named]
  rfl

theorem colorBound (m : PaletteRam) (cell : Nat) : m.color cell < 0x1000000 :=
  masterColorsBound _ (Array.mem_of_getElem? (m.namesColor cell))

theorem colorSolid (m : PaletteRam) (cell : Nat) :
    (Pixel.solid (m.color cell)).color = m.color cell :=
  Pixel.colorSolid (m.colorBound cell)

end PaletteRam
end Nes
