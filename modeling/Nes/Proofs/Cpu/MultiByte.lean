import Nes.Proofs.Cpu.DataAccesses
import Nes.Proofs.Cpu.DeviceMap

/-! Arithmetic on numbers of many bytes. The carry takes what is left over from one byte to the
next, and the loads and stores between leave it alone. -/
namespace Nes

def number : List UInt8 → Nat
  | [] => 0
  | byte :: rest => byte.toNat + 256 * number rest

def signed (bytes : List UInt8) : Int :=
  if 2 * number bytes < weight (8 * bytes.length) then number bytes
  else number bytes - weight (8 * bytes.length)

def Fits (n : Nat) (value : Int) : Prop :=
  -weight (8 * n) ≤ 2 * value ∧ 2 * value < weight (8 * n)

theorem weightBytes (n : Nat) : weight (8 * (n + 1)) = 256 * weight (8 * n) := by
  rw [Nat.mul_succ, Nat.add_comm, weightAdd]
  rfl

theorem weightEven {n : Nat} (pos : 0 < n) : ∃ half, weight (8 * n) = 2 * half := by
  obtain ⟨n, rfl⟩ := Nat.exists_eq_add_one.mpr pos
  exact ⟨128 * weight (8 * n), by rw [weightBytes]; omega⟩

theorem numberBound (bytes : List UInt8) : number bytes < weight (8 * bytes.length) := by
  induction bytes with
  | nil => exact Nat.one_pos
  | cons byte rest ih =>
    have low := byte.toNat_lt
    rw [number, List.length_cons, weightBytes]
    omega

theorem numberConcat (bytes : List UInt8) (top : UInt8) :
    number (bytes ++ [top]) = number bytes + weight (8 * bytes.length) * top.toNat := by
  induction bytes with
  | nil => simp [number, weight]
  | cons byte rest ih =>
    rw [List.cons_append, number, ih, number, List.length_cons, weightBytes, Nat.mul_add,
      Nat.mul_assoc, Nat.add_assoc]

theorem signedCons (byte : UInt8) {rest : List UInt8} (more : rest ≠ []) :
    signed (byte :: rest) = byte.toNat + 256 * signed rest := by
  have low := byte.toNat_lt
  obtain ⟨half, even⟩ := weightEven (List.length_pos_iff.mpr more)
  unfold signed
  rw [number, List.length_cons, weightBytes, even]
  split <;> split <;> omega

theorem fitsSucc {n : Nat} (pos : 0 < n) (byte : UInt8) (value : Int) :
    Fits (n + 1) (byte.toNat + 256 * value) ↔ Fits n value := by
  have low := byte.toNat_lt
  obtain ⟨half, even⟩ := weightEven pos
  unfold Fits
  rw [weightBytes, even]
  omega

theorem numberComplement (bytes : List UInt8) :
    number (bytes.map (~~~·)) + number bytes + 1 = weight (8 * bytes.length) := by
  induction bytes with
  | nil => rfl
  | cons byte rest ih =>
    have low := byte.toNat_lt
    have flipped : (~~~byte).toNat = 255 - byte.toNat := UInt8.toNat_not byte
    rw [List.map_cons, number, number, flipped, List.length_cons, weightBytes]
    omega

theorem signedComplement {bytes : List UInt8} (more : bytes ≠ []) :
    signed (bytes.map (~~~·)) = -1 - signed bytes := by
  have both := numberComplement bytes
  obtain ⟨half, even⟩ := weightEven (List.length_pos_iff.mpr more)
  unfold signed
  rw [List.length_map]
  split <;> split <;> omega

structure Addition (x y r : List UInt8) (carry : Bool) (s : Status) : Prop where
  value : number r + weight (8 * r.length) * s.carry.toNat = number x + number y + carry.toNat
  overflow : s.overflow = true ↔ ¬Fits r.length (signed x + signed y + carry.toNat)

structure Subtraction (x y r : List UInt8) (carry : Bool) (s : Status) : Prop where
  value : (number r : Int) = (number x - number y - (!carry).toNat) % weight (8 * r.length)
  noBorrow : s.carry = true ↔ number y + (!carry).toNat ≤ number x
  overflow : s.overflow = true ↔ ¬Fits r.length (signed x - signed y - (!carry).toNat)

theorem testBitTop (byte : UInt8) : testBit byte 7 = decide (128 ≤ byte.toNat) := by
  have low := byte.toNat_lt
  rw [testBit, Nat.testBit_eq_decide_div_mod_eq, decide_eq_decide]
  omega

theorem signedByte (byte : UInt8) :
    signed [byte] = byte.toNat - 256 * (testBit byte 7).toNat := by
  have low := byte.toNat_lt
  have whole : weight (8 * [byte].length) = 256 := rfl
  have single : number [byte] = byte.toNat := rfl
  rw [signed, whole, single, testBitTop]
  by_cases high : 128 ≤ byte.toNat
  · rw [if_neg (by omega), decide_eq_true high]
    rfl
  · rw [if_pos (by omega), decide_eq_false high]
    exact (Int.sub_zero _).symm

theorem testBitXor (v w : UInt8) (i : Nat) :
    testBit (v ^^^ w) i = (testBit v i ^^ testBit w i) := by
  rw [testBit, UInt8.toNat_xor, Nat.testBit_xor]
  rfl

theorem Registers.addByte (r : Registers) (value : UInt8) :
    Addition [r.a] [value] [(r.add value).a] r.status.carry (r.add value).status := by
  have left := r.a.toNat_lt
  have right := value.toNat_lt
  have bit := Bool.toNat_le r.status.carry
  have whole : weight (8 * 1) = 256 := rfl
  have single (byte : UInt8) : number [byte] = byte.toNat := rfl
  let sum := r.a.toNat + value.toNat + r.status.carry.toNat
  have result : (r.add value).a.toNat = sum % 256 := UInt8.toNat_ofNat'
  constructor
  · have carry : (r.add value).status.carry = decide (sum > 255) := rfl
    rw [single, single, single, result, List.length_singleton, whole, carry]
    by_cases above : sum > 255
    · rw [decide_eq_true above, Bool.toNat_true]
      omega
    · rw [decide_eq_false above, Bool.toNat_false]
      omega
  · -- Two numbers of one sign whose sum has the other.
    have overflow : (r.add value).status.overflow =
        (!testBit (r.a ^^^ value) 7 && testBit (r.a ^^^ (r.add value).a) 7) := rfl
    rw [overflow, testBitXor, testBitXor, signedByte, signedByte, testBitTop, testBitTop,
      testBitTop, result, List.length_singleton, Fits, whole]
    by_cases a : 128 ≤ r.a.toNat <;> by_cases v : 128 ≤ value.toNat <;>
      by_cases s : 128 ≤ sum % 256 <;> simp [a, v, s] <;> omega

theorem Addition.cons {x y r : UInt8} {xs ys rs : List UInt8} {carry : Bool} {s s' : Status}
    (low : Addition [x] [y] [r] carry s) (high : Addition xs ys rs s.carry s') (moreX : xs ≠ [])
    (moreY : ys ≠ []) (moreR : rs ≠ []) : Addition (x :: xs) (y :: ys) (r :: rs) carry s' := by
  have first : r.toNat + 256 * s.carry.toNat = x.toNat + y.toNat + carry.toNat := low.value
  have rest := high.value
  constructor
  · rw [List.length_cons, weightBytes, Nat.mul_assoc, number, number, number]
    omega
  · have value : signed (x :: xs) + signed (y :: ys) + carry.toNat =
        r.toNat + 256 * (signed xs + signed ys + s.carry.toNat) := by
      rw [signedCons x moreX, signedCons y moreY]
      omega
    rw [high.overflow, value, List.length_cons, fitsSucc (List.length_pos_iff.mpr moreR)]

theorem Addition.subtraction {x y r : List UInt8} {carry : Bool} {s : Status}
    (sum : Addition x (y.map (~~~·)) r carry s) (moreY : y ≠ [])
    (same : y.length = r.length) : Subtraction x y r carry s := by
  have complement := numberComplement y
  have total := sum.value
  have bound := numberBound r
  have flipped : (!carry).toNat + carry.toNat = 1 := by cases carry <;> rfl
  rw [same] at complement
  refine ⟨?_, ?_, ?_⟩
  · have less : (number x : Int) - number y - (!carry).toNat =
        number r + weight (8 * r.length) * (s.carry.toNat - 1) := by
      rw [Int.mul_sub, Int.mul_one]
      omega
    rw [less, Int.add_mul_emod_self_left, Int.emod_eq_of_lt (Int.natCast_nonneg _) (by omega)]
  · cases carried : s.carry with
    | true =>
      rw [carried, Bool.toNat_true, Nat.mul_one] at total
      exact iff_of_true rfl (by omega)
    | false =>
      rw [carried, Bool.toNat_false, Nat.mul_zero] at total
      exact iff_of_false nofun (by omega)
  · have value : signed x + signed (y.map (~~~·)) + carry.toNat =
        signed x - signed y - (!carry).toNat := by
      rw [signedComplement moreY]
      omega
    rw [sum.overflow, value]

namespace Alteration
variable (value : UInt8) (s : Status)

theorem rotateLeftValue :
    let (result, s') := rotateLeft value s
    result.toNat + 256 * s'.carry.toNat = 2 * value.toNat + s.carry.toNat := by
  have table : ∀ (byte : UInt8) (carry : Bool),
      (byte <<< 1 ||| carry.toUInt8).toNat + 256 * (testBit byte 7).toNat =
        2 * byte.toNat + carry.toNat := by
    decide +kernel
  exact table value s.carry

theorem rotateRightValue :
    let (result, s') := rotateRight value s
    2 * result.toNat + s'.carry.toNat = value.toNat + 256 * s.carry.toNat := by
  have table : ∀ (byte : UInt8) (carry : Bool),
      2 * (byte >>> 1 ||| carry.toUInt8 <<< 7).toNat + (testBit byte 0).toNat =
        byte.toNat + 256 * carry.toNat := by
    decide +kernel
  exact table value s.carry

theorem shiftLeftRotate : shiftLeft value s = rotateLeft value { s with carry := false } := by
  unfold shiftLeft rotateLeft
  exact congrArg (withFlags · _) UInt8.or_zero.symm

theorem shiftRightRotate : shiftRight value s = rotateRight value { s with carry := false } := by
  unfold shiftRight rotateRight
  exact congrArg (withFlags · _) UInt8.or_zero.symm

end Alteration

structure Cell where
  addr : UInt16
  byte : UInt8
  deriving DecidableEq, Repr

structure Column where
  x : Cell
  y : Cell
  r : Cell
  deriving DecidableEq, Repr

def Column.accesses (c : Column) : List Access :=
  [.read c.x.addr c.x.byte, .read c.y.addr c.y.byte, .write c.r.addr c.r.byte]

structure Altered where
  addr : UInt16
  before : UInt8
  after : UInt8
  deriving DecidableEq, Repr

def Altered.accesses (c : Altered) : List Access :=
  [.read c.addr c.before, .write c.addr c.after]

section
variable {c : Altered} {cs : List Altered} {n carry carry' last : Nat}

theorem leftCons (low : c.after.toNat + 256 * carry' = 2 * c.before.toNat + carry)
    (high : number (cs.map (·.after)) + weight (8 * n) * last =
      2 * number (cs.map (·.before)) + carry') :
    number ((c :: cs).map (·.after)) + weight (8 * (n + 1)) * last =
      2 * number ((c :: cs).map (·.before)) + carry := by
  rw [List.map_cons, number, List.map_cons, number, weightBytes, Nat.mul_assoc]
  omega

theorem rightCons (length : cs.length = n)
    (high : 2 * c.after.toNat + carry' = c.before.toNat + 256 * carry)
    (low : 2 * number (cs.map (·.after)).reverse + last =
      number (cs.map (·.before)).reverse + weight (8 * n) * carry') :
    2 * number ((c :: cs).map (·.after)).reverse + last =
      number ((c :: cs).map (·.before)).reverse + weight (8 * (n + 1)) * carry := by
  have part := congrArg (weight (8 * n) * ·) high
  simp only [Nat.mul_add] at part
  rw [List.map_cons, List.reverse_cons, numberConcat, List.map_cons, List.reverse_cons,
    numberConcat, weightBytes, List.length_reverse, List.length_map, List.length_reverse,
    List.length_map, length]
  grind

end

namespace Call
variable {σ : Type} [Device σ] {state : Cpu × σ}

def columns (n : Nat) (operation : Operation) : List Operation :=
  (List.replicate n [.lda, operation, .sta]).flatten

section
variable {operation : Operation} (f : UInt8 → UInt8)
  (adds : operation.action = .load fun value r => r.add (f value))
include adds

theorem columnSum (follows : Follows state [.lda, operation, .sta]) :
    ∃ c : Column, dataAll state 3 = c.accesses ∧
      Addition [c.x.byte] [f c.y.byte] [c.r.byte] state.1.registers.status.carry
        (steps state 3).1.registers.status := by
  obtain ⟨load, add, store, -⟩ := follows
  obtain ⟨xAddr, x, pc, loaded, registers⟩ := load.load rfl
  obtain ⟨yAddr, y, pc', added, registers'⟩ := add.load adds
  obtain ⟨rAddr, pc'', stored, registers''⟩ := store.store rfl
  let before : Registers := { (take state .step).1.registers with pc := pc' }
  have a : before.a = x := congrArg Registers.a registers
  have carry : before.status.carry = state.1.registers.status.carry :=
    congrArg (·.status.carry) registers
  have sum := before.addByte (f y)
  rw [a, carry] at sum
  refine ⟨⟨⟨xAddr, x⟩, ⟨yAddr, y⟩, ⟨rAddr, (before.add (f y)).a⟩⟩, ?_, ?_⟩
  · rw [dataAll, dataAll, dataAll, loaded, added, stored, registers']
    rfl
  · have added : (take (take state .step) .step).1.registers.status = (before.add (f y)).status :=
      congrArg Registers.status registers'
    have last : (steps state 3).1.registers.status = (before.add (f y)).status :=
      (congrArg Registers.status registers'').trans added
    rwa [last]

theorem columnsSum {n : Nat} (follows : Follows state (columns (n + 1) operation)) :
    ∃ cs : List Column, cs.length = n + 1 ∧
      dataAll state (3 * (n + 1)) = cs.flatMap Column.accesses ∧
      Addition (cs.map (·.x.byte)) (cs.map fun c => f c.y.byte) (cs.map (·.r.byte))
        state.1.registers.status.carry (steps state (3 * (n + 1))).1.registers.status := by
  induction n generalizing state with
  | zero =>
    obtain ⟨c, accesses, sum⟩ := columnSum f adds follows
    exact ⟨[c], rfl, accesses.trans (List.append_nil _).symm, sum⟩
  | succ n ih =>
    have split : columns (n + 1 + 1) operation =
        [.lda, operation, .sta] ++ columns (n + 1) operation := rfl
    rw [split, followsAppend] at follows
    obtain ⟨c, accesses, low⟩ := columnSum f adds follows.1
    obtain ⟨cs, length, accesses', high⟩ := ih follows.2
    have more : cs ≠ [] := List.ne_nil_of_length_eq_add_one length
    have count : 3 * (n + 1 + 1) = 3 + 3 * (n + 1) := Nat.add_comm _ _
    rw [count, dataAllAdd, stepsAdd]
    refine ⟨c :: cs, congrArg Nat.succ length, ?_, ?_⟩
    · rw [accesses, List.flatMap_cons]
      exact congrArg _ accesses'
    · exact low.cons high (mt List.map_eq_nil_iff.mp more) (mt List.map_eq_nil_iff.mp more)
        (mt List.map_eq_nil_iff.mp more)

end

theorem Next.alters {operation : Operation} (next : Next state operation) {alter : Alteration}
    (modifies : operation.action = .modify alter Operation.ignore) :
    ∃ c : Altered, data state = c.accesses ∧
      (c.after, (take state .step).1.registers.status) =
        alter c.before state.1.registers.status := by
  obtain ⟨addr, value, pc, moved, registers⟩ := next.modify modifies
  refine ⟨⟨addr, value, (alter value state.1.registers.status).1⟩, moved, ?_⟩
  rw [registers]
  rfl

theorem rotatesLeft {n : Nat} (follows : Follows state (List.replicate n .rol)) :
    ∃ cs : List Altered, cs.length = n ∧ dataAll state n = cs.flatMap Altered.accesses ∧
      number (cs.map (·.after)) +
          weight (8 * n) * (steps state n).1.registers.status.carry.toNat =
        2 * number (cs.map (·.before)) + state.1.registers.status.carry.toNat := by
  induction n generalizing state with
  | zero => exact ⟨[], rfl, rfl, congrArg (0 + ·) (Nat.one_mul _)⟩
  | succ n ih =>
    obtain ⟨next, rest⟩ := follows
    obtain ⟨c, moved, altered⟩ := next.alters rfl
    obtain ⟨cs, length, moved', value⟩ := ih rest
    have low := Alteration.rotateLeftValue c.before state.1.registers.status
    rw [← altered] at low
    refine ⟨c :: cs, congrArg Nat.succ length, ?_, ?_⟩
    · rw [dataAll, moved, moved', List.flatMap_cons]
    · exact leftCons low value

theorem shiftsLeft {n : Nat} (follows : Follows state (.asl :: List.replicate n .rol)) :
    ∃ cs : List Altered, cs.length = n + 1 ∧
      dataAll state (n + 1) = cs.flatMap Altered.accesses ∧
      number (cs.map (·.after)) +
          weight (8 * (n + 1)) * (steps state (n + 1)).1.registers.status.carry.toNat =
        2 * number (cs.map (·.before)) := by
  obtain ⟨next, rest⟩ := follows
  obtain ⟨c, moved, altered⟩ := next.alters rfl
  obtain ⟨cs, length, moved', value⟩ := rotatesLeft rest
  have low := Alteration.rotateLeftValue c.before { state.1.registers.status with carry := false }
  rw [← Alteration.shiftLeftRotate, ← altered] at low
  refine ⟨c :: cs, congrArg Nat.succ length, ?_, leftCons low value⟩
  rw [dataAll, moved, moved', List.flatMap_cons]

theorem rotatesRight {n : Nat} (follows : Follows state (List.replicate n .ror)) :
    ∃ cs : List Altered, cs.length = n ∧ dataAll state n = cs.flatMap Altered.accesses ∧
      2 * number (cs.map (·.after)).reverse + (steps state n).1.registers.status.carry.toNat =
        number (cs.map (·.before)).reverse +
          weight (8 * n) * state.1.registers.status.carry.toNat := by
  induction n generalizing state with
  | zero => exact ⟨[], rfl, rfl, congrArg (0 + ·) (Nat.one_mul _).symm⟩
  | succ n ih =>
    obtain ⟨next, rest⟩ := follows
    obtain ⟨c, moved, altered⟩ := next.alters rfl
    obtain ⟨cs, length, moved', value⟩ := ih rest
    have high := Alteration.rotateRightValue c.before state.1.registers.status
    rw [← altered] at high
    refine ⟨c :: cs, congrArg Nat.succ length, ?_, ?_⟩
    · rw [dataAll, moved, moved', List.flatMap_cons]
    · exact rightCons length high value

theorem shiftsRight {n : Nat} (follows : Follows state (.lsr :: List.replicate n .ror)) :
    ∃ cs : List Altered, cs.length = n + 1 ∧
      dataAll state (n + 1) = cs.flatMap Altered.accesses ∧
      2 * number (cs.map (·.after)).reverse +
          (steps state (n + 1)).1.registers.status.carry.toNat =
        number (cs.map (·.before)).reverse := by
  obtain ⟨next, rest⟩ := follows
  obtain ⟨c, moved, altered⟩ := next.alters rfl
  obtain ⟨cs, length, moved', value⟩ := rotatesRight rest
  have high := Alteration.rotateRightValue c.before { state.1.registers.status with carry := false }
  rw [← Alteration.shiftRightRotate, ← altered] at high
  refine ⟨c :: cs, congrArg Nat.succ length, ?_, rightCons length high value⟩
  rw [dataAll, moved, moved', List.flatMap_cons]

/-- Numbers of any length, on any bus, in decimal mode or not. What comes from the loads and
additions in the columns and goes to the stores is a sum, with the carry before as its carry in and
the carry after as its carry out, and the overflow flag tells of the signed sum; with subtractions
it is a difference. Shifts and rotations from the low byte on double a number, and from the high
byte on halve it. In plain memory the numbers that are read are there before, and those written
after, if no byte is used again once it has been written. -/
theorem carryChains (state : Cpu × σ) {n : Nat} (pos : 0 < n) :
    let carry := state.1.registers.status.carry
    let summed := (steps state (3 * n)).1.registers.status
    let shifted := (steps state n).1.registers.status
    (Follows state (columns n .adc) → ∃ cs : List Column, cs.length = n ∧
        dataAll state (3 * n) = cs.flatMap Column.accesses ∧
        Addition (cs.map (·.x.byte)) (cs.map (·.y.byte)) (cs.map (·.r.byte)) carry summed) ∧
      (Follows state (columns n .sbc) → ∃ cs : List Column, cs.length = n ∧
        dataAll state (3 * n) = cs.flatMap Column.accesses ∧
        Subtraction (cs.map (·.x.byte)) (cs.map (·.y.byte)) (cs.map (·.r.byte)) carry summed) ∧
      (Follows state (.asl :: List.replicate (n - 1) .rol) → ∃ cs : List Altered, cs.length = n ∧
        dataAll state n = cs.flatMap Altered.accesses ∧
        number (cs.map (·.after)) + weight (8 * n) * shifted.carry.toNat =
          2 * number (cs.map (·.before))) ∧
      (Follows state (.lsr :: List.replicate (n - 1) .ror) → ∃ cs : List Altered, cs.length = n ∧
        dataAll state n = cs.flatMap Altered.accesses ∧
        2 * number (cs.map (·.after)).reverse + shifted.carry.toNat =
          number (cs.map (·.before)).reverse) ∧
      ∀ (state : Cpu × FlatMemory) (k : Nat), (dataAll state k).Pairwise Access.Spares →
        ∀ access ∈ dataAll state k, access.Held state.2 (steps state k).2 := by
  obtain ⟨n, rfl⟩ := Nat.exists_eq_add_one.mpr pos
  intro carry summed shifted
  refine ⟨fun follows => ?_, fun follows => ?_, shiftsLeft, shiftsRight, heldAll⟩
  · exact columnsSum id rfl follows
  · obtain ⟨cs, length, accesses, sum⟩ := columnsSum (~~~·) rfl follows
    have more : cs ≠ [] := List.ne_nil_of_length_eq_add_one length
    refine ⟨cs, length, accesses, Addition.subtraction ?_ (mt List.map_eq_nil_iff.mp more) ?_⟩
    · rwa [List.map_map]
    · rw [List.length_map, List.length_map]

theorem carryChainsWords :
    let run (carry : Bool) (answers : List UInt8) : Cpu × Script :=
      ({ registers := { status := { carry, decimal := true } } }, ⟨answers⟩)
    let adds := run false [0xA9, 0xFF, 0x69, 0x01, 0x85, 0x10, 0xA9, 0x7F, 0x69, 0x00, 0x85, 0x11]
    let subtracts :=
      run true [0xA9, 0x00, 0xE9, 0x01, 0x85, 0x10, 0xA9, 0x80, 0xE9, 0x00, 0x85, 0x11]
    let doubles : Cpu × FlatMemory :=
      ({}, (Ram.filled 0x10000 0).writeAll 0 [0x06, 0x04, 0x26, 0x05, 0x81, 0x40])
    let halves := run true [0x46, 0x11, 0x81, 0x66, 0x10, 0x01]
    (Follows adds (columns 2 .adc) ∧ (steps adds 6).1.registers.status.overflow = true ∧
      ∃ cs : List Column, dataAll adds 6 = cs.flatMap Column.accesses ∧
        Addition (cs.map (·.x.byte)) (cs.map (·.y.byte)) (cs.map (·.r.byte)) false
          (steps adds 6).1.registers.status) ∧
      (Follows subtracts (columns 2 .sbc) ∧
        (steps subtracts 6).1.registers.status.overflow = true ∧
        ∃ cs : List Column, dataAll subtracts 6 = cs.flatMap Column.accesses ∧
          Subtraction (cs.map (·.x.byte)) (cs.map (·.y.byte)) (cs.map (·.r.byte)) true
            (steps subtracts 6).1.registers.status) ∧
      (Follows doubles [.asl, .rol] ∧
        dataAll doubles 2 = [.read 0x04 0x81, .write 0x04 0x02, .read 0x05 0x40, .write 0x05 0x81] ∧
        doubles.2.byte 0x05 = 0x40 ∧ (steps doubles 2).2.byte 0x05 = 0x81 ∧
        ∃ cs : List Altered, dataAll doubles 2 = cs.flatMap Altered.accesses ∧
          number (cs.map (·.after)) +
              weight 16 * (steps doubles 2).1.registers.status.carry.toNat =
            2 * number (cs.map (·.before))) ∧
      Follows halves [.lsr, .ror] ∧
        dataAll halves 2 = [.read 0x11 0x81, .write 0x11 0x40, .read 0x10 0x01, .write 0x10 0x80] ∧
        ∃ cs : List Altered, dataAll halves 2 = cs.flatMap Altered.accesses ∧
          2 * number (cs.map (·.after)).reverse +
              (steps halves 2).1.registers.status.carry.toNat =
            number (cs.map (·.before)).reverse := by
  intro run adds subtracts doubles halves
  have pos : 0 < 2 := Nat.two_pos
  have adding : Follows adds (columns 2 .adc) := by decide +kernel
  have subtracting : Follows subtracts (columns 2 .sbc) := by decide +kernel
  have doubling : Follows doubles [.asl, .rol] := by decide +kernel
  have rewritten : dataAll doubles 2 =
      [.read 0x04 0x81, .write 0x04 0x02, .read 0x05 0x40, .write 0x05 0x81] := by
    decide +kernel
  have halving : Follows halves [.lsr, .ror] := by decide +kernel
  obtain ⟨sums, -, accesses, sum⟩ := (carryChains adds pos).1 adding
  obtain ⟨differences, -, accesses', difference⟩ := (carryChains subtracts pos).2.1 subtracting
  obtain ⟨doubled, -, moved, twice⟩ := (carryChains doubles pos).2.2.1 doubling
  have held := (carryChains doubles pos).2.2.2.2 doubles 2 (by rw [rewritten]; decide)
  rw [rewritten] at held
  have before : Access.Held _ _ (.read 0x05 0x40) := held _ (by simp)
  have after : Access.Held _ _ (.write 0x05 0x81) := held _ (by simp)
  obtain ⟨halved, -, moved', half⟩ := (carryChains halves pos).2.2.2.1 halving
  exact ⟨⟨adding, by decide +kernel, sums, accesses, sum⟩,
    ⟨subtracting, by decide +kernel, differences, accesses', difference⟩,
    ⟨doubling, rewritten, before, after, doubled, moved, twice⟩,
    halving, by decide +kernel, halved, moved', half⟩

end Call

end Nes
