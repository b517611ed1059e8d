import Nes.Ram
import Nes.Transaction

/-! A device of plain memory: a cell for every address of the bus. -/
namespace Nes

abbrev FlatMemory :=
  Ram 0x10000

instance : Device FlatMemory where
  read addr m := (m.read addr.toNat, m)
  write addr value m := m.write addr.toNat value

namespace FlatMemory

theorem readOfWrite (m : FlatMemory) (addr addr' : UInt16) (value : UInt8) :
    (Device.read addr' (Device.write addr value m)).1 =
      if addr = addr' then value else (Device.read addr' m).1 := by
  simp only [Device.read, Device.write, Ram.readWrite, Nat.mod_eq_of_lt addr.toNat_lt,
    Nat.mod_eq_of_lt addr'.toNat_lt, UInt16.toNat_inj]

end FlatMemory
end Nes
