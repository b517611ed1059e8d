import Nes.Ppu.Picture

/-! Painting: what drawing does to the points of a picture. An operation paints a region with a
function when every point of the region takes the value of the function there and every other
point stays. Operations that paint with one function can share points, in any order. -/
namespace Nes.Picture
variable {width height : Nat} [Positive width] [Positive height] {α ι : Type}

structure Paints (draw : Picture width height α → Picture width height α)
    (region : Nat → Nat → Prop) (f : Nat → Nat → α) : Prop where
  inside (p : Picture width height α) {x y : Nat} (hx : x < width) (hy : y < height)
      (drawn : region x y) : (draw p).get x y = f x y
  outside (p : Picture width height α) {x y : Nat} (hx : x < width) (hy : y < height)
      (spared : ¬region x y) : (draw p).get x y = p.get x y

namespace Paints

theorem set {x y : Nat} {value : α} {f : Nat → Nat → α} (same : value = f x y) :
    Paints (fun p : Picture width height α => p.set x y value) (fun x' y' => x = x' ∧ y = y') f where
  inside p x' y' hx hy drawn := by
    obtain ⟨rfl, rfl⟩ := drawn
    rw [getSet p value hx hy, if_pos ⟨rfl, rfl⟩, same]
  outside p x' y' hx hy spared := by
    rw [getSet p value hx hy, if_neg spared]

theorem congr {draw : Picture width height α → Picture width height α}
    {region region' : Nat → Nat → Prop} {f : Nat → Nat → α} (paints : Paints draw region f)
    (same : ∀ x y, region x y ↔ region' x y) : Paints draw region' f where
  inside p _ _ hx hy drawn := paints.inside p hx hy ((same _ _).mpr drawn)
  outside p _ _ hx hy spared := paints.outside p hx hy fun drawn => spared ((same _ _).mp drawn)

theorem foldl {items : List ι} {draw : ι → Picture width height α → Picture width height α}
    {region : ι → Nat → Nat → Prop} {f : Nat → Nat → α}
    (each : ∀ i ∈ items, Paints (draw i) (region i) f) :
    Paints (fun p => items.foldl (fun p i => draw i p) p)
      (fun x y => ∃ i ∈ items, region i x y) f := by
  induction items with
  | nil =>
    refine ⟨?_, fun _ _ _ _ _ _ => rfl⟩
    intro p x y hx hy ⟨i, member, drawn⟩
    cases member
  | cons head rest ih =>
    have first := each head List.mem_cons_self
    have others := ih fun i member => each i (List.mem_cons_of_mem _ member)
    refine ⟨?_, ?_⟩
    · intro p x y hx hy ⟨i, member, drawn⟩
      by_cases later : ∃ j ∈ rest, region j x y
      · exact others.inside (draw head p) hx hy later
      · have only : i = head := by
          rcases List.mem_cons.mp member with same | inRest
          · exact same
          · exact absurd ⟨i, inRest, drawn⟩ later
        subst only
        exact (others.outside (draw i p) hx hy later).trans (first.inside p hx hy drawn)
    · intro p x y hx hy spared
      have notLater : ¬∃ j ∈ rest, region j x y := fun ⟨j, member, drawn⟩ =>
        spared ⟨j, List.mem_cons_of_mem _ member, drawn⟩
      have notFirst : ¬region head x y := fun drawn => spared ⟨head, List.mem_cons_self, drawn⟩
      exact (others.outside (draw head p) hx hy notLater).trans (first.outside p hx hy notFirst)

theorem sweep {columns rows : Nat}
    {draw : Nat → Nat → Picture width height α → Picture width height α}
    {region : Nat → Nat → Nat → Nat → Prop} {f : Nat → Nat → α}
    (each : ∀ column < columns, ∀ row < rows, Paints (draw column row) (region column row) f) :
    Paints (Picture.sweep columns rows draw)
      (fun x y => ∃ row ∈ List.range rows, ∃ column ∈ List.range columns, region column row x y)
      f :=
  foldl fun row inRows => foldl fun column inColumns =>
    each column (List.mem_range.mp inColumns) row (List.mem_range.mp inRows)

end Paints

theorem getMod (p : Picture width height α) (x y : Nat) :
    p.get (x % width) (y % height) = p.get x y := by
  simp [get]

theorem ext {p q : Picture width height α}
    (same : ∀ x < width, ∀ y < height, p.get x y = q.get x y) : p = q := by
  cases p with | mk points =>
  cases q with | mk points' =>
  congr 1
  apply Vector.ext
  intro i inside
  have hx : i % width < width := Nat.mod_lt i Positive.pos
  have hy : i / width < height := Nat.div_lt_of_lt_mul inside
  have point := same (i % width) hx (i / width) hy
  simpa only [get, Nat.mod_eq_of_lt hx, Nat.mod_eq_of_lt hy, Nat.div_add_mod] using point

theorem Paints.whole {draw : Picture width height α → Picture width height α}
    {region : Nat → Nat → Prop} {f : Nat → Nat → α} (paints : Paints draw region f)
    (all : ∀ x < width, ∀ y < height, region x y) {drawn : Picture width height α}
    (same : ∀ x < width, ∀ y < height, drawn.get x y = f x y) (p : Picture width height α) :
    draw p = drawn := by
  refine ext fun x hx y hy => ?_
  rw [paints.inside p hx hy (all x hx y hy), same x hx y hy]

theorem sweepWhole (f : Nat → Nat → α) (p : Picture width height α) :
    Picture.sweep width height (fun x y p => p.set x y (f x y)) p = ofFn f := by
  have paints : Paints
      (Picture.sweep width height fun x y (p : Picture width height α) => p.set x y (f x y))
      (fun x y => ∃ row ∈ List.range height, ∃ column ∈ List.range width, column = x ∧ row = y) f :=
    Paints.sweep fun _ _ _ _ => Paints.set rfl
  refine paints.whole ?_ ?_ p
  · exact fun x hx y hy => ⟨y, List.mem_range.mpr hy, x, List.mem_range.mpr hx, rfl, rfl⟩
  · intro x hx y hy
    rw [getOfFn, Nat.mod_eq_of_lt hx, Nat.mod_eq_of_lt hy]

theorem getLayers {items : List ι} {draw : ι → Picture width height α → Picture width height α}
    {covers : ι → Nat → Nat → Bool} {f : ι → Nat → Nat → α}
    (each : ∀ i ∈ items, Paints (draw i) (fun x y => covers i x y = true) (f i))
    (p : Picture width height α) {x y : Nat} (hx : x < width) (hy : y < height) :
    (items.reverse.foldl (fun p i => draw i p) p).get x y =
      match items.find? (covers · x y) with
      | some i => f i x y
      | none => p.get x y := by
  rw [List.foldl_reverse]
  induction items with
  | nil => rfl
  | cons head rest ih =>
    have first := each head List.mem_cons_self
    have others := ih fun i member => each i (List.mem_cons_of_mem _ member)
    rw [List.foldr_cons]
    cases covered : covers head x y with
    | true => rw [List.find?_cons_of_pos (by exact covered), first.inside _ hx hy covered]
    | false =>
      rw [List.find?_cons_of_neg (by simp [covered]), ← others,
        first.outside _ hx hy (by simp [covered])]

end Nes.Picture
