import Nes.Positive

/-! Pictures: rectangles of points, and the points of the two layers of a frame. -/
namespace Nes

-- A point of a layer: a colour in the high 24 bits, and below it 255 where the layer is drawn and 0
-- where it lets through what lies behind.
structure Pixel where
  rgba : UInt32
  deriving DecidableEq, Repr, Inhabited

namespace Pixel

def transparent : Pixel :=
  ⟨0⟩

def solid (color : UInt32) : Pixel :=
  ⟨color <<< 8 ||| 0xFF⟩

def alpha (p : Pixel) : UInt32 :=
  p.rgba &&& 0xFF

def color (p : Pixel) : UInt32 :=
  p.rgba >>> 8

end Pixel

structure Picture (width height : Nat) (α : Type) where
  points : Vector α (width * height)
  deriving DecidableEq, Repr

namespace Picture
variable {width height : Nat} {α : Type}

theorem inside {x y : Nat} (hx : x < width) (hy : y < height) : width * y + x < width * height :=
  calc width * y + x < width * y + width := Nat.add_lt_add_left hx _
    _ = width * (y + 1) := (Nat.mul_succ width y).symm
    _ ≤ width * height := Nat.mul_le_mul_left width hy

def filled (width height : Nat) (value : α) : Picture width height α :=
  ⟨Vector.replicate (width * height) value⟩

def ofFn (f : Nat → Nat → α) : Picture width height α :=
  ⟨Vector.ofFn fun i => f (i.val % width) (i.val / width)⟩

def get [Positive width] [Positive height] (p : Picture width height α) (x y : Nat) : α :=
  have bound := inside (Nat.mod_lt x Positive.pos)
    (Nat.mod_lt y Positive.pos)
  p.points[width * (y % height) + x % width]

def set (p : Picture width height α) (x y : Nat) (value : α) : Picture width height α :=
  if h : x < width ∧ y < height then
    ⟨p.points.set (width * y + x) value (inside h.1 h.2)⟩
  else p

def sweep (columns rows : Nat)
    (draw : Nat → Nat → Picture width height α → Picture width height α)
    (p : Picture width height α) : Picture width height α :=
  (List.range rows).foldl
    (fun p row => (List.range columns).foldl (fun p column => draw column row p) p) p

theorem getFilled [Positive width] [Positive height] (value : α) (x y : Nat) :
    (filled width height value).get x y = value := by
  simp [get, filled]

theorem getOfFn [Positive width] [Positive height] (f : Nat → Nat → α) (x y : Nat) :
    (ofFn f : Picture width height α).get x y = f (x % width) (y % height) := by
  have positive : 0 < width := Positive.pos
  simp [get, ofFn, Nat.mul_add_div positive, Nat.div_eq_of_lt (Nat.mod_lt x positive)]

theorem getSet [Positive width] [Positive height] (p : Picture width height α) {x y : Nat}
    (value : α) {x' y' : Nat} (hx : x' < width) (hy : y' < height) :
    (p.set x y value).get x' y' = if x = x' ∧ y = y' then value else p.get x' y' := by
  have positive : 0 < width := Positive.pos
  unfold set
  split
  · rename_i h
    have same : width * y + x = width * y' + x' ↔ x = x' ∧ y = y' := by
      constructor
      · intro e
        have hm := congrArg (· % width) e
        have hd := congrArg (· / width) e
        simp only [Nat.mul_add_mod, Nat.mod_eq_of_lt h.1, Nat.mod_eq_of_lt hx] at hm
        simp only [Nat.mul_add_div positive, Nat.div_eq_of_lt h.1, Nat.div_eq_of_lt hx] at hd
        exact ⟨hm, by omega⟩
      · rintro ⟨rfl, rfl⟩
        rfl
    simp [get, Vector.getElem_set, Nat.mod_eq_of_lt hx, Nat.mod_eq_of_lt hy, same]
  · rename_i h
    have other : ¬(x = x' ∧ y = y') := by
      rintro ⟨rfl, rfl⟩
      exact h ⟨hx, hy⟩
    simp [other]

end Picture
end Nes
