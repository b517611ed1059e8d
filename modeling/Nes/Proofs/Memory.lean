import Nes.Ram

/-! Memory written in a row. -/
namespace Nes.Ram
variable {size : Nat} [Positive size]

theorem readWriteAll (m : Ram size) {addr addr' : Nat} {values : List UInt8}
    (fits : addr + values.length ≤ size) (inside : addr' < size) :
    (m.writeAll addr values).read addr' =
      if addr ≤ addr' then values.getD (addr' - addr) (m.read addr') else m.read addr' := by
  induction values generalizing m addr with
  | nil => simp [writeAll]
  | cons value rest ih =>
    rw [List.length_cons] at fits
    rw [writeAll, ih _ (by omega), readWrite, Nat.mod_eq_of_lt inside,
      Nat.mod_eq_of_lt (by omega : addr < size)]
    rcases Nat.lt_trichotomy addr addr' with before | same | beyond
    · obtain ⟨k, rfl⟩ := Nat.exists_eq_add_of_lt before
      have offset : addr + k + 1 - addr = addr + k + 1 - (addr + 1) + 1 := by omega
      rw [if_pos (by omega), if_neg (by omega), if_pos (by omega), offset, List.getD_cons_succ]
    · subst same
      rw [if_neg (by omega), if_pos rfl, if_pos (by omega), Nat.sub_self, List.getD_cons_zero]
    · rw [if_neg (by omega), if_neg (by omega), if_neg (by omega)]

theorem writeAllAppend (m : Ram size) (addr : Nat) (xs ys : List UInt8) :
    m.writeAll addr (xs ++ ys) = (m.writeAll addr xs).writeAll (addr + xs.length) ys := by
  induction xs generalizing m addr with
  | nil => rfl
  | cons x rest ih =>
    rw [List.cons_append, writeAll, ih, writeAll, List.length_cons, Nat.add_comm rest.length,
      Nat.add_assoc]

theorem writeAllRange (m : Ram size) (addr count : Nat) (f : Nat → UInt8) :
    m.writeAll addr ((List.range count).map f) =
      (List.range count).foldl (fun m i => m.write (addr + i) (f i)) m := by
  induction count with
  | zero => rfl
  | succ n ih =>
    rw [List.range_succ, List.map_append, writeAllAppend, ih, List.foldl_append, List.length_map,
      List.length_range]
    rfl

theorem sliceMod (m : Ram size) (addr count : Nat) :
    m.slice (addr % size) count = m.slice addr count := by
  refine List.map_congr_left fun i _ => ?_
  rw [← readMod, Nat.mod_add_mod, readMod]

theorem writeAllMod (m : Ram size) {addr addr' : Nat} (same : addr % size = addr' % size)
    (values : List UInt8) : m.writeAll addr values = m.writeAll addr' values := by
  induction values generalizing m addr addr' with
  | nil => rfl
  | cons value rest ih =>
    have next : (addr + 1) % size = (addr' + 1) % size := by
      rw [Nat.add_mod, same, ← Nat.add_mod]
    rw [writeAll, writeAll, ← writeMod, same, writeMod, ih _ next]

theorem readWriteAllOther (m : Ram size) {addr addr' : Nat} {values : List UInt8}
    (apart : ∀ i < values.length, (addr + i) % size ≠ addr' % size) :
    (m.writeAll addr values).read addr' = m.read addr' := by
  induction values generalizing m addr with
  | nil => rfl
  | cons value rest ih =>
    have first : addr % size ≠ addr' % size := apart 0 (Nat.zero_lt_succ _)
    have others (i : Nat) (inside : i < rest.length) : (addr + 1 + i) % size ≠ addr' % size := by
      rw [Nat.add_assoc, Nat.add_comm 1]
      exact apart (i + 1) (Nat.succ_lt_succ inside)
    rw [writeAll, ih _ others, readWrite, if_neg first]

theorem sliceWriteAll (m : Ram size) (addr : Nat) {values : List UInt8}
    (fits : values.length ≤ size) :
    (m.writeAll addr values).slice addr values.length = values := by
  induction values generalizing m addr with
  | nil => rfl
  | cons value rest ih =>
    rw [List.length_cons] at fits
    have apart (i : Nat) (inside : i < rest.length) : (addr + 1 + i) % size ≠ addr % size := by
      intro same
      have step := Nat.sub_mod_eq_zero_of_mod_eq same
      have less : 1 + i < size := by omega
      rw [Nat.add_assoc, Nat.add_sub_cancel_left, Nat.mod_eq_of_lt less] at step
      omega
    have head : ((m.write addr value).writeAll (addr + 1) rest).read addr = value := by
      rw [readWriteAllOther _ apart, readWrite, if_pos rfl]
    have tail := ih (m.write addr value) (addr + 1) (by omega)
    unfold slice at tail ⊢
    rw [List.length_cons, List.range_succ_eq_map, List.map_cons, List.map_map, writeAll,
      Nat.add_zero addr, head]
    refine congrArg (value :: ·) (Eq.trans (List.map_congr_left fun i _ => ?_) tail)
    exact congrArg _ (by omega : addr + (i + 1) = addr + 1 + i)

end Nes.Ram
