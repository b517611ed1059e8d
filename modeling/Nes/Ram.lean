import Nes.Positive

/-! Memory of a fixed number of byte cells. An address beyond the last cell wraps around, as
the address lines that a chip does not decode are ignored. -/
namespace Nes

structure Ram (size : Nat) where
  cells : Vector UInt8 size
  deriving DecidableEq, Repr

namespace Ram
variable {size : Nat} [Positive size]

def filled (size : Nat) (value : UInt8) : Ram size :=
  ⟨Vector.replicate size value⟩

instance : Inhabited (Ram size) := ⟨filled size 0⟩

def ofFn (f : Fin size → UInt8) : Ram size :=
  ⟨Vector.ofFn f⟩

def read (m : Ram size) (addr : Nat) : UInt8 :=
  have inside := Nat.mod_lt addr (Positive.pos)
  m.cells[addr % size]

def write (m : Ram size) (addr : Nat) (value : UInt8) : Ram size :=
  ⟨m.cells.set (addr % size) value (Nat.mod_lt addr (Positive.pos))⟩

def slice (m : Ram size) (addr count : Nat) : List UInt8 :=
  (List.range count).map fun i => m.read (addr + i)

def writeAll (m : Ram size) (addr : Nat) : List UInt8 → Ram size
  | [] => m
  | value :: rest => (m.write addr value).writeAll (addr + 1) rest

theorem readFilled (value : UInt8) (addr : Nat) : (filled size value).read addr = value := by
  simp [read, filled]

theorem readOfFn (f : Fin size → UInt8) (addr : Nat) :
    (ofFn f).read addr = f ⟨addr % size, Nat.mod_lt addr Positive.pos⟩ := by
  simp [read, ofFn]

theorem readWrite (m : Ram size) (addr addr' : Nat) (value : UInt8) :
    (m.write addr value).read addr' =
      if addr % size = addr' % size then value else m.read addr' := by
  simp [read, write, Vector.getElem_set]

theorem readMod (m : Ram size) (addr : Nat) : m.read (addr % size) = m.read addr := by
  simp [read]

theorem writeMod (m : Ram size) (addr : Nat) (value : UInt8) :
    m.write (addr % size) value = m.write addr value := by
  simp [write]

theorem ext {m n : Ram size} (same : ∀ addr < size, m.read addr = n.read addr) : m = n := by
  cases m; cases n
  congr 1
  apply Vector.ext
  intro i h
  simpa [read, Nat.mod_eq_of_lt h] using same i h

end Ram
end Nes
