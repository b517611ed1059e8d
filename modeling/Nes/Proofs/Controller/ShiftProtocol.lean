import Nes.Controller

/-! Histories of the controller. What a read gives depends on the last write: while it holds the
strobe on, on the buttons that are held at the read, and else on those that were held at the write
and on the reads since. -/
namespace Nes.Controller

theorem toNatAndOne (byte : UInt8) : (byte &&& 1).toNat = byte.toNat % 2 := by
  rw [UInt8.toNat_and]
  exact Nat.and_one_is_mod _

theorem readBit (pad : Controller) : pad.read.1 = 0 ∨ pad.read.1 = 1 := by
  have bit (byte : UInt8) : byte &&& 1 = 0 ∨ byte &&& 1 = 1 := by
    rw [← UInt8.toNat_inj, ← UInt8.toNat_inj, toNatAndOne]
    exact Nat.mod_two_eq_zero_or_one _
  unfold read
  split
  · exact bit _
  · split
    · exact .inr rfl
    · exact bit _

theorem readKeeps (pad : Controller) :
    pad.read.2.buttons = pad.buttons ∧ pad.read.2.strobe = pad.strobe := by
  unfold read
  split
  · exact ⟨rfl, rfl⟩
  · split <;> exact ⟨rfl, rfl⟩

inductive Operation where
  | hold (buttons : UInt8)
  | write (value : UInt8)
  | read
  deriving DecidableEq, Repr

def Operation.isWrite : Operation → Bool
  | write _ => true
  | hold _ | read => false

def perform (pad : Controller) : Operation → Controller
  | .hold buttons => pad.hold buttons
  | .write value => pad.write value
  | .read => pad.read.2

def performAll (pad : Controller) (operations : List Operation) : Controller :=
  operations.foldl perform pad

def held (buttons : UInt8) : List Operation → UInt8
  | [] => buttons
  | .hold buttons' :: rest => held buttons' rest
  | .write _ :: rest | .read :: rest => held buttons rest

def shifted (buttons : UInt8) (k : Nat) : UInt8 :=
  if k < 8 then (testBit buttons k).toUInt8 else 1

theorem performAllHeld (pad : Controller) (operations : List Operation) :
    (pad.performAll operations).buttons = held pad.buttons operations := by
  induction operations generalizing pad with
  | nil => rfl
  | cons operation rest ih =>
    rw [performAll, List.foldl_cons, ← performAll, ih]
    cases operation with
    | hold | write => rfl
    | read => rw [perform, pad.readKeeps.1, held]

theorem performStrobe (pad : Controller) {operation : Operation}
    (plain : operation.isWrite = false) : (pad.perform operation).strobe = pad.strobe := by
  cases operation with
  | hold => rfl
  | write => cases plain
  | read => exact pad.readKeeps.2

theorem performAllStrobe (pad : Controller) {operations : List Operation}
    (plain : ∀ operation ∈ operations, operation.isWrite = false) :
    (pad.performAll operations).strobe = pad.strobe := by
  induction operations generalizing pad with
  | nil => rfl
  | cons operation rest ih =>
    obtain ⟨here, others⟩ := List.forall_mem_cons.mp plain
    exact (ih (pad.perform operation) others).trans (pad.performStrobe here)

structure Shifting (pad : Controller) (latched : UInt8) (n : Nat) : Prop where
  strobe : pad.strobe = false
  reads : pad.reads = min n 8
  shift : pad.shift.toNat = latched.toNat >>> min n 8

namespace Shifting
variable {pad : Controller} {latched : UInt8} {n : Nat}

theorem bit (now : pad.Shifting latched n) (inside : n < 8) :
    pad.shift &&& 1 = (testBit latched n).toUInt8 := by
  apply UInt8.toNat_inj.mp
  have flag (b : Bool) : b.toUInt8.toNat = b.toNat := by cases b <;> rfl
  rw [toNatAndOne, flag, now.shift, Nat.min_eq_left (Nat.le_of_lt inside),
    Nat.shiftRight_eq_div_pow, testBit, Nat.toNat_testBit]

theorem read (now : pad.Shifting latched n) :
    pad.read.1 = shifted latched n ∧ pad.read.2.Shifting latched (n + 1) := by
  have off : ¬pad.strobe = true := by simp [now.strobe]
  have count := now.reads
  unfold Controller.read shifted
  rw [if_neg off]
  by_cases inside : n < 8
  · have more : ¬pad.reads ≥ 8 := by omega
    rw [if_neg more, if_pos inside]
    refine ⟨now.bit inside, now.strobe, by simp only; omega, ?_⟩
    have whole : min (n + 1) 8 = min n 8 + 1 := by omega
    rw [whole, Nat.shiftRight_add, ← now.shift]
    exact UInt8.toNat_shiftRight pad.shift 1
  · have done : pad.reads ≥ 8 := by omega
    have same : min (n + 1) 8 = min n 8 := by omega
    rw [if_pos done, if_neg inside]
    exact ⟨rfl, now.strobe, by rw [same, now.reads], by rw [same, now.shift]⟩

theorem performAll (now : pad.Shifting latched n) {operations : List Operation}
    (plain : ∀ operation ∈ operations, operation.isWrite = false) :
    (pad.performAll operations).Shifting latched (n + operations.count .read) := by
  induction operations generalizing pad n with
  | nil => exact now
  | cons operation rest ih =>
    obtain ⟨here, others⟩ := List.forall_mem_cons.mp plain
    cases operation with
    | hold buttons =>
      have held : (pad.hold buttons).Shifting latched n := ⟨now.strobe, now.reads, now.shift⟩
      rw [List.count_cons_of_ne (by simp)]
      exact ih held others
    | write value => cases here
    | read =>
      rw [List.count_cons_self, Nat.add_comm (List.count _ rest), ← Nat.add_assoc]
      exact ih now.read.2 others

end Shifting

theorem writeShifting (pad : Controller) {value : UInt8} (off : testBit value 0 = false) :
    (pad.write value).Shifting pad.buttons 0 :=
  ⟨off, rfl, rfl⟩

/-- After any history, with `since` what came after its last write: if the write set the strobe, a
read gives the first of the buttons held now. If it cleared the strobe, a read gives the next of
the buttons that were held at the write, and 1 after all eight. Whether the strobe was set before
does not matter: a second write with the strobe off begins anew. -/
theorem readsSinceWrite (before since : List Operation) (value : UInt8)
    (last : ∀ operation ∈ since, operation.isWrite = false) :
    let history := before ++ .write value :: since
    let pad := ({} : Controller).performAll history
    (testBit value 0 = true → pad.read = (held 0 history &&& 1, pad)) ∧
      (testBit value 0 = false →
        pad.read.1 = shifted (held 0 before) (since.count .read)) := by
  intro history pad
  let latched := (({} : Controller).performAll before).write value
  have split : pad = latched.performAll since := List.foldl_append
  have strobe : pad.strobe = testBit value 0 := by
    rw [split]
    exact latched.performAllStrobe last
  refine ⟨fun on => ?_, fun off => ?_⟩
  · have buttons : pad.buttons = held 0 history := performAllHeld {} history
    rw [read, if_pos (strobe.trans on), buttons]
  · have shifting := (writeShifting (({} : Controller).performAll before) off).performAll last
    rw [split, shifting.read.1, performAllHeld, Nat.zero_add]

theorem readsSinceWriteAgain :
    let history := [.hold 1, .write 1, .write 0, .read] ++ .write 0 :: ([] : List Operation)
    let pad := ({} : Controller).performAll history
    (∀ operation ∈ ([] : List Operation), operation.isWrite = false) ∧
      testBit 0 0 = false ∧ pad.read.1 = shifted 1 0 ∧ shifted 1 0 = 1 ∧ shifted 1 1 = 0 := by
  intro history pad
  have last : ∀ operation ∈ ([] : List Operation), operation.isWrite = false := by simp
  have since := readsSinceWrite [.hold 1, .write 1, .write 0, .read] [] 0 last
  exact ⟨last, by decide, since.2 (by decide), by decide, by decide⟩

end Nes.Controller
