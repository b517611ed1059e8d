/-! Mirroring: how the four logical nametables share two banks. Tables side by side share a bank
in horizontal mirroring, tables above each other in vertical mirroring. -/
namespace Nes

inductive Mirroring where
  | horizontal
  | vertical
  deriving DecidableEq, Repr, Inhabited

namespace Mirroring

def bank (mirroring : Mirroring) (table : Nat) : Fin 2 :=
  match mirroring with
  | vertical => Fin.ofNat 2 table
  | horizontal => Fin.ofNat 2 (table / 2)

def locate (mirroring : Mirroring) (addr : Nat) : Fin 2 × Nat :=
  (mirroring.bank ((addr - 0x2000) % 0x1000 / 0x400), addr % 0x400)

end Mirroring
end Nes
