import Nes.Ram

/-! The work RAM of the console: 2 KiB, seen four times over in the lowest quarter of the
address space. -/
namespace Nes

abbrev WorkRam :=
  Ram 0x800

namespace WorkRam

def page (m : WorkRam) (number : UInt8) : List UInt8 :=
  m.slice (256 * number.toNat) 256

def clear : WorkRam :=
  .filled 0x800 0

end WorkRam
end Nes
