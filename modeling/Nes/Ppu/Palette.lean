import Nes.Ram

/-! Palette memory and the colours that its entries name. -/
namespace Nes

def masterColors : Array UInt32 :=
  #[0x545454, 0x001E74, 0x081090, 0x300088, 0x440064, 0x5C0030, 0x540400, 0x3C1800,
    0x202A00, 0x083A00, 0x004000, 0x003C00, 0x00302C, 0x000000, 0x000000, 0x000000,
    0x989698, 0x084CC4, 0x3032EC, 0x5C1EE4, 0x8814B0, 0xA01464, 0x982220, 0x783C00,
    0x545A00, 0x287200, 0x087C00, 0x007628, 0x006678, 0x000000, 0x000000, 0x000000,
    0xECEEEC, 0x3C7EEC, 0x5C5CEC, 0x8844EC, 0xB02CEC, 0xE028B0, 0xD83C50, 0xC45400,
    0xAC7000, 0x808800, 0x409C30, 0x20A458, 0x209A88, 0x404040, 0x000000, 0x000000,
    0xECEEEC, 0xA8BCEC, 0xBCACEC, 0xD4A0EC, 0xEC94EC, 0xEC90D4, 0xEC9CB4, 0xE4B090,
    0xDCC878, 0xD4DC78, 0xB8EC98, 0xA8ECBC, 0xA0E4E4, 0xA0A0A0, 0x000000, 0x000000]

abbrev PaletteRam :=
  Ram 32

namespace PaletteRam

def cell (addr : Nat) : Nat :=
  let i := addr % 32
  if i ≥ 16 ∧ i % 4 = 0 then i - 16 else i

def color (m : PaletteRam) (cell : Nat) : UInt32 :=
  masterColors.getD (m.read cell % 64).toNat 0

end PaletteRam
end Nes
