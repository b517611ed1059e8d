/-! Sizes that are not 0, so that a position can be taken modulo them. -/
namespace Nes

class Positive (n : Nat) : Type where
  pos : 0 < n

instance (n : Nat) : Positive (n + 1) :=
  ⟨n.succ_pos⟩

end Nes
