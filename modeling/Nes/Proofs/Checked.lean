import Nes.Ram
import Nes.Word

/-! Checked arithmetic on machine words, and checked tables and loops. An operation fails where its
result does not fit into the word, where a difference is below zero, where a shift is as wide as
the word, and where an index is beyond the end of its table. -/
namespace Nes

inductive Width where
  | bits8
  | bits16
  | bits32
  | bits64
  deriving DecidableEq, Repr

namespace Width

def bits : Width → Nat
  | bits8 => 8
  | bits16 => 16
  | bits32 => 32
  | bits64 => 64

def limit : Width → Nat
  | bits8 => 0x100
  | bits16 => 0x10000
  | bits32 => 0x100000000
  | bits64 => 0x10000000000000000

def fit (width : Width) (n : Nat) : Option Nat :=
  if n < width.limit then some n else none

def add (width : Width) (a b : Nat) : Option Nat :=
  width.fit (a + b)

def mul (width : Width) (a b : Nat) : Option Nat :=
  width.fit (a * b)

def sub (_ : Width) (a b : Nat) : Option Nat :=
  if b ≤ a then some (a - b) else none

def shiftRight (width : Width) (a n : Nat) : Option Nat :=
  if n < width.bits then some (a >>> n) else none

def shiftLeft (width : Width) (a n : Nat) : Option Nat :=
  if n < width.bits then width.fit (a <<< n) else none

def mulAdd (width : Width) (a k b : Nat) : Option Nat := do
  let product ← width.mul a k
  width.add product b

theorem fitSome {width : Width} {n : Nat} (fits : n < width.limit) : width.fit n = some n :=
  if_pos fits

theorem addSome {width : Width} {a b : Nat} (fits : a + b < width.limit) :
    width.add a b = some (a + b) :=
  if_pos fits

theorem mulSome {width : Width} {a b : Nat} (fits : a * b < width.limit) :
    width.mul a b = some (a * b) :=
  if_pos fits

theorem subSome (width : Width) {a b : Nat} (enough : b ≤ a) : width.sub a b = some (a - b) :=
  if_pos enough

theorem shiftRightSome {width : Width} {n : Nat} (narrow : n < width.bits) (a : Nat) :
    width.shiftRight a n = some (a >>> n) :=
  if_pos narrow

theorem shiftLeftSome {width : Width} {a n : Nat} (narrow : n < width.bits)
    (fits : a <<< n < width.limit) : width.shiftLeft a n = some (a <<< n) := by
  rw [shiftLeft, if_pos narrow, fitSome fits]

theorem addIndex {a b : Nat} (small : a + b < 0x100000000) : bits64.add a b = some (a + b) :=
  addSome (Nat.lt_trans small (by decide))

theorem mulIndex {a b : Nat} (small : a * b < 0x100000000) : bits64.mul a b = some (a * b) :=
  mulSome (Nat.lt_trans small (by decide))

theorem mulAddIndex {a k b : Nat} (small : a * k + b < 0x100000000) :
    bits64.mulAdd a k b = some (a * k + b) := by
  have product : bits64.mul a k = some (a * k) :=
    mulIndex (Nat.lt_of_le_of_lt (Nat.le_add_right _ b) small)
  rw [mulAdd, product]
  exact addIndex small

end Width

theorem entrySome {α : Type} {table : Array α} {i : Nat} (inside : i < table.size) (other : α) :
    table[i]? = some (table.getD i other) := by
  rw [Array.getElem?_eq_getElem inside, Array.getD, dif_pos inside]
  rfl

def put? {α : Type} (table : Array α) (i : Nat) (value : α) : Option (Array α) :=
  if inside : i < table.size then some (table.set i value inside) else none

namespace Ram
variable {size : Nat}

def read? (m : Ram size) (i : Nat) : Option UInt8 :=
  m.cells[i]?

def write? (m : Ram size) (i : Nat) (value : UInt8) : Option (Ram size) :=
  if inside : i < size then some ⟨m.cells.set i value inside⟩ else none

def bytes (m : Ram size) : Array UInt8 :=
  m.cells.toArray

theorem bytesFilled (size : Nat) (value : UInt8) :
    (filled size value).bytes = .replicate size value :=
  Vector.toArray_replicate

variable [Positive size] (m : Ram size) {i : Nat} (inside : i < size)
include inside

theorem readSome : m.read? i = some (m.read i) := by
  simp [read?, read, inside, Nat.mod_eq_of_lt]

theorem writeSome (value : UInt8) : m.write? i value = some (m.write i value) := by
  simp [write?, write, inside, Nat.mod_eq_of_lt]

theorem bytesSome : m.bytes[i]? = some (m.read i) := by
  simp [bytes, read, inside, Nat.mod_eq_of_lt]

theorem putBytes (value : UInt8) : put? m.bytes i value = some (m.write i value).bytes := by
  simp [put?, bytes, write, inside, Nat.mod_eq_of_lt]

end Ram

section
variable {σ τ α : Type} (f : τ → σ)

theorem followAll {holds : τ → Prop} {checked : σ → α → Option σ} {act : τ → α → τ}
    (follows : ∀ t a, holds t → checked (f t) a = some (f (act t a)))
    (kept : ∀ t a, holds t → holds (act t a)) {t : τ} (now : holds t) (actions : List α) :
    actions.foldlM checked (f t) = some (f (actions.foldl act t)) := by
  induction actions generalizing t with
  | nil => rfl
  | cons action rest ih =>
    rw [List.foldlM_cons, follows t action now, List.foldl_cons]
    exact ih (kept t action now)

theorem followEach {checked : σ → α → Option σ} {act : τ → α → τ} {actions : List α}
    (follows : ∀ a ∈ actions, ∀ t, checked (f t) a = some (f (act t a))) (t : τ) :
    actions.foldlM checked (f t) = some (f (actions.foldl act t)) := by
  induction actions generalizing t with
  | nil => rfl
  | cons action rest ih =>
    rw [List.foldlM_cons, follows action List.mem_cons_self, List.foldl_cons]
    exact ih (fun a member => follows a (List.mem_cons_of_mem _ member)) _

def sweep? (columns rows : Nat) (draw? : Nat → Nat → σ → Option σ) (s : σ) : Option σ :=
  (List.range rows).foldlM
    (fun s row => (List.range columns).foldlM (fun s column => draw? column row s) s) s

theorem followSweep {columns rows : Nat} {draw? : Nat → Nat → σ → Option σ}
    {draw : Nat → Nat → τ → τ}
    (follows : ∀ column < columns, ∀ row < rows, ∀ t,
      draw? column row (f t) = some (f (draw column row t))) (t : τ) :
    sweep? columns rows draw? (f t) =
      some (f ((List.range rows).foldl
        (fun t row => (List.range columns).foldl (fun t column => draw column row t) t) t)) := by
  refine followEach f (fun row inRows t => ?_) t
  refine followEach f (fun column inColumns t => ?_) t
  exact follows column (List.mem_range.mp inColumns) row (List.mem_range.mp inRows) t

theorem foldlIdle {act : τ → α → τ} {t : τ} {actions : List α}
    (idle : ∀ a ∈ actions, act t a = t) : actions.foldl act t = t := by
  refine List.foldlRecOn (motive := (· = t)) actions act rfl fun s same a member => ?_
  rw [same]
  exact idle a member

theorem foldlReaches {act : τ → α → τ} (reached : α → τ → Prop) {actions : List α}
    (makes : ∀ a ∈ actions, ∀ t, reached a (act t a))
    (keeps : ∀ a ∈ actions, ∀ b ∈ actions, ∀ t, reached b t → reached b (act t a)) (t : τ) :
    ∀ a ∈ actions, reached a (actions.foldl act t) := by
  induction actions generalizing t with
  | nil => exact fun a member => absurd member List.not_mem_nil
  | cons first rest ih =>
    intro a member
    rw [List.foldl_cons]
    rcases List.mem_cons.mp member with rfl | inRest
    · refine List.foldlRecOn rest act (makes a member t) fun t now b inRest => ?_
      exact keeps b (List.mem_cons_of_mem _ inRest) a member t now
    · refine ih (fun b inRest => makes b (List.mem_cons_of_mem _ inRest)) ?_ (act t first) a inRest
      exact fun b inRest c inRest' =>
        keeps b (List.mem_cons_of_mem _ inRest) c (List.mem_cons_of_mem _ inRest')

def toEdge? (edge start : Nat) (draw? : Nat → Nat → σ → Option σ) : List Nat → σ → Option σ
  | [], s => some s
  | i :: rest, s => do
    let place ← Width.bits64.add start i
    if edge ≤ place then
      return s
    else
      let s ← draw? i place s
      toEdge? edge start draw? rest s

theorem followToEdge {edge start : Nat} {draw? : Nat → Nat → σ → Option σ} {act : τ → Nat → τ}
    {steps : List Nat} (ascending : steps.Pairwise (· < ·))
    (small : ∀ i ∈ steps, start + i < 0x100000000)
    (follows : ∀ i ∈ steps, start + i < edge → ∀ t, draw? i (start + i) (f t) = some (f (act t i)))
    (beyond : ∀ i ∈ steps, edge ≤ start + i → ∀ t, act t i = t) (t : τ) :
    toEdge? edge start draw? steps (f t) = some (f (steps.foldl act t)) := by
  induction steps generalizing t with
  | nil => rfl
  | cons i rest ih =>
    obtain ⟨after, ascending⟩ := List.pairwise_cons.mp ascending
    have later (j : Nat) (member : j ∈ rest) : j ∈ i :: rest := List.mem_cons_of_mem _ member
    rw [toEdge?, Width.addIndex (small i List.mem_cons_self)]
    simp only [Option.bind_eq_bind, Option.bind_some]
    by_cases edged : edge ≤ start + i
    · have idle : (i :: rest).foldl act t = t := by
        refine foldlIdle fun j member => ?_
        have least : i ≤ j := by
          rcases List.mem_cons.mp member with rfl | inRest
          · exact Nat.le_refl j
          · exact Nat.le_of_lt (after j inRest)
        exact beyond j member (by omega) t
      rw [if_pos edged, idle]
      rfl
    · rw [if_neg edged, follows i List.mem_cons_self (by omega), List.foldl_cons]
      exact ih ascending (fun j member => small j (later j member))
        (fun j member => follows j (later j member)) (fun j member => beyond j (later j member)) _

end
end Nes
