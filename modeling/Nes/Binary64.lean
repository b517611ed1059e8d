/-! A floating-point number as it is stored: sign, exponent and fraction in one word of 64 bits. A
setting keeps this form, because a `Float` has a single NaN where the words have many, and a setting
reads back as it was given. -/
namespace Nes

structure Binary64 where
  bits : UInt64
  deriving DecidableEq, Repr, Inhabited

namespace Binary64

def ofFloat (x : Float) : Binary64 :=
  ⟨x.toBits⟩

def toFloat (x : Binary64) : Float :=
  Float.ofBits x.bits

end Binary64

end Nes
