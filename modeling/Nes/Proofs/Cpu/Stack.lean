import Nes.Proofs.Cpu.Accesses
import Nes.Proofs.Cpu.EntryPoints
import Nes.Proofs.Cpu.InterruptReturn

/-! The stack. It is page 1, and its pointer wraps around there. As long as it holds no more than
256 bytes, what it does to the device is what the same pushes and pulls do to a list. -/
namespace Nes

class StackPage (σ : Type) [Device σ] where
  cell : UInt8 → σ → UInt8
  read (low : UInt8) (s : σ) : (Device.read (word low 1) s).1 = cell low s
  readKeeps (low low' : UInt8) (s : σ) : cell low' (Device.read (word low 1) s).2 = cell low' s
  write (low low' value : UInt8) (s : σ) :
    cell low' (Device.write (word low 1) value s) = if low = low' then value else cell low' s

instance : StackPage FlatMemory where
  cell low memory := memory.byte (word low 1)
  read _ _ := rfl
  readKeeps _ _ _ := rfl
  write low low' value memory := by
    rw [FlatMemory.byteWrite]
    simp only [wordLow]

inductive StackMove where
  | push
  | pull
  deriving DecidableEq, Repr

namespace StackMove

def next (sp : UInt8) : StackMove → UInt8
  | push => sp - 1
  | pull => sp + 1

def line (sp : UInt8) : StackMove → Line
  | push => .write (word sp 1)
  | pull => .read (word (sp + 1) 1)

def last (sp : UInt8) (moves : List StackMove) : UInt8 :=
  moves.foldl next sp

def lines (sp : UInt8) : List StackMove → List Line
  | [] => []
  | move :: rest => move.line sp :: lines (move.next sp) rest

theorem linesAppend (sp : UInt8) (xs ys : List StackMove) :
    lines sp (xs ++ ys) = lines sp xs ++ lines (last sp xs) ys := by
  induction xs generalizing sp with
  | nil => rfl
  | cons move rest ih => rw [List.cons_append, lines, ih, lines, List.cons_append]; rfl

theorem lastAppend (sp : UInt8) (xs ys : List StackMove) :
    last sp (xs ++ ys) = last (last sp xs) ys :=
  List.foldl_append

end StackMove

inductive Stacked where
  | byte (value : UInt8)
  | word (value : UInt16)
  deriving DecidableEq, Repr

inductive Transfer where
  | push (item : Stacked)
  | pull
  | pullWord
  deriving DecidableEq, Repr

namespace Stacked

def bytes : Stacked → List UInt8
  | byte value => [value]
  | word value => [lowByte value, highByte value]

def size (items : List Stacked) : Nat :=
  (items.flatMap bytes).length

def pulled : Stacked → Transfer
  | byte _ => .pull
  | word _ => .pullWord

end Stacked

namespace Transfer

def perform (r : Registers) : Transfer → Transaction (List Stacked × Registers)
  | push (.byte value) => do
    let r ← r.push value
    return ([], r)
  | push (.word value) => do
    let r ← r.pushWord value
    return ([], r)
  | pull => do
    let (value, r) ← r.pull
    return ([.byte value], r)
  | pullWord => do
    let (value, r) ← r.pullWord
    return ([.word value], r)

def moves : Transfer → List StackMove
  | push (.byte _) => [.push]
  | push (.word _) => [.push, .push]
  | pull => [.pull]
  | pullWord => [.pull, .pull]

def takes (t : Transfer) : Nat :=
  t.moves.count .pull

def puts (t : Transfer) : Nat :=
  t.moves.count .push

def onList (live : List UInt8) : Transfer → List Stacked × List UInt8
  | push item => ([], item.bytes ++ live)
  | pull =>
    match live with
    | value :: rest => ([.byte value], rest)
    | _ => ([], live)
  | pullWord =>
    match live with
    | low :: high :: rest => ([.word (word low high)], rest)
    | _ => ([], live)

def onListAll (live : List UInt8) : List Transfer → List Stacked × List UInt8
  | [] => ([], live)
  | t :: rest =>
    let first := t.onList live
    let others := onListAll first.2 rest
    (first.1 ++ others.1, others.2)

-- From so many bytes on the stack to so many, taking none that is not there and leaving no more
-- than there is room for.
def Stays (room depth : Nat) : List Transfer → Nat → Prop
  | [], last => depth = last
  | t :: rest, last =>
    t.takes ≤ depth ∧ depth - t.takes + t.puts ≤ room ∧
      Stays room (depth - t.takes + t.puts) rest last

instance decidableStays (room depth : Nat) :
    (transfers : List Transfer) → (last : Nat) → Decidable (Stays room depth transfers last)
  | [], last => inferInstanceAs (Decidable (depth = last))
  | t :: rest, last =>
    have := decidableStays room (depth - t.takes + t.puts) rest last
    inferInstanceAs (Decidable (_ ∧ _ ∧ _))

end Transfer

def Registers.transfers (r : Registers) : List Transfer → Transaction (List Stacked × Registers)
  | [] => return ([], r)
  | t :: rest => do
    let first ← t.perform r
    let others ← first.2.transfers rest
    return (first.1 ++ others.1, others.2)

namespace Transfer
variable {room depth middle last : Nat} {t : Transfer} {transfers : List Transfer}
  {live : List UInt8}

theorem onListAllAppend (live : List UInt8) (xs ys : List Transfer) :
    onListAll live (xs ++ ys) =
      ((onListAll live xs).1 ++ (onListAll (onListAll live xs).2 ys).1,
        (onListAll (onListAll live xs).2 ys).2) := by
  induction xs generalizing live with
  | nil => rfl
  | cons t rest ih => simp only [List.cons_append, onListAll, ih, List.append_assoc]

theorem onListEnough (enough : t.takes ≤ live.length) :
    (t.onList live).2.length = live.length - t.takes + t.puts ∧
      ∀ deep, t.onList (live ++ deep) = ((t.onList live).1, (t.onList live).2 ++ deep) := by
  cases t with
  | push item => cases item <;> exact ⟨rfl, fun _ => rfl⟩
  | pull =>
    obtain _ | ⟨value, rest⟩ := live
    · cases enough
    · exact ⟨rfl, fun _ => rfl⟩
  | pullWord =>
    obtain _ | ⟨low, _ | ⟨high, rest⟩⟩ := live
    · cases enough
    · exact absurd enough (by decide : ¬2 ≤ 1)
    · exact ⟨rfl, fun _ => rfl⟩

theorem onListAllDeeper (stays : Stays room live.length transfers last) (deep : List UInt8) :
    onListAll (live ++ deep) transfers =
      ((onListAll live transfers).1, (onListAll live transfers).2 ++ deep) := by
  induction transfers generalizing live with
  | nil => rfl
  | cons t rest ih =>
    obtain ⟨enough, -, later⟩ := stays
    obtain ⟨length, below⟩ := onListEnough enough
    rw [← length] at later
    simp only [onListAll, below, ih later]

theorem onListAllLength (stays : Stays room live.length transfers last) :
    (onListAll live transfers).2.length = last := by
  induction transfers generalizing live with
  | nil => exact stays
  | cons t rest ih =>
    obtain ⟨enough, -, later⟩ := stays
    rw [← (onListEnough enough).1] at later
    exact ih later

theorem onListAllBalanced (stays : Stays room 0 transfers 0) (deep : List UInt8) :
    onListAll deep transfers = ((onListAll [] transfers).1, deep) := by
  have length : (onListAll [] transfers).2.length = 0 := onListAllLength stays
  have whole : onListAll ([] ++ deep) transfers =
      ((onListAll [] transfers).1, (onListAll [] transfers).2 ++ deep) := onListAllDeeper stays deep
  rwa [List.eq_nil_of_length_eq_zero length, List.nil_append] at whole

theorem staysAppend {xs ys : List Transfer} (before : Stays room depth xs middle)
    (after : Stays room middle ys last) : Stays room depth (xs ++ ys) last := by
  induction xs generalizing depth with
  | nil =>
    cases before
    exact after
  | cons t rest ih =>
    obtain ⟨enough, fits, later⟩ := before
    exact ⟨enough, fits, ih later⟩

theorem staysDeeper (stays : Stays room depth transfers last) (deep : Nat) :
    Stays (room + deep) (depth + deep) transfers (last + deep) := by
  induction transfers generalizing depth with
  | nil => exact congrArg (· + deep) stays
  | cons t rest ih =>
    obtain ⟨enough, fits, later⟩ := stays
    have height : depth + deep - t.takes + t.puts = depth - t.takes + t.puts + deep := by omega
    rw [Stays, height]
    exact ⟨Nat.le_add_right_of_le enough, Nat.add_le_add_right fits deep, ih later⟩

end Transfer

namespace Stacked
variable {room depth : Nat}

theorem sizeCons (item : Stacked) (rest : List Stacked) :
    size (item :: rest) = item.bytes.length + size rest := by
  rw [size, List.flatMap_cons, List.length_append, size]

theorem sizeReverse (items : List Stacked) : size items.reverse = size items := by
  simp only [size, List.length_flatMap, List.map_reverse, List.sum_reverse]

theorem pushCounts (item : Stacked) :
    (Transfer.push item).takes = 0 ∧ (Transfer.push item).puts = item.bytes.length := by
  cases item <;> exact ⟨rfl, rfl⟩

theorem pulledCounts (item : Stacked) :
    item.pulled.takes = item.bytes.length ∧ item.pulled.puts = 0 := by
  cases item <;> exact ⟨rfl, rfl⟩

theorem staysPushes (items : List Stacked) (fits : depth + size items ≤ room) :
    Transfer.Stays room depth (items.map .push) (depth + size items) := by
  induction items generalizing depth with
  | nil => rfl
  | cons item rest ih =>
    rw [sizeCons, ← Nat.add_assoc] at fits ⊢
    rw [List.map_cons, Transfer.Stays, item.pushCounts.1, item.pushCounts.2, Nat.sub_zero]
    exact ⟨Nat.zero_le depth, Nat.le_of_add_right_le fits, ih fits⟩

theorem staysPulls (items : List Stacked) (fits : depth + size items ≤ room) :
    Transfer.Stays room (depth + size items) (items.map pulled) depth := by
  induction items with
  | nil => rfl
  | cons item rest ih =>
    rw [sizeCons] at fits ⊢
    have left : depth + (item.bytes.length + size rest) - item.bytes.length + 0 =
        depth + size rest := by omega
    rw [List.map_cons, Transfer.Stays, item.pulledCounts.1, item.pulledCounts.2, left]
    exact ⟨by omega, by omega, ih (by omega)⟩

theorem onListPushes (live : List UInt8) (items : List Stacked) :
    Transfer.onListAll live (items.map .push) = ([], items.reverse.flatMap bytes ++ live) := by
  induction items generalizing live with
  | nil => rfl
  | cons item rest ih =>
    simp only [List.map_cons, Transfer.onListAll, Transfer.onList, ih, List.reverse_cons,
      List.flatMap_append, List.flatMap_singleton, List.append_assoc, List.nil_append]

theorem onListPulled (live : List UInt8) (item : Stacked) :
    item.pulled.onList (item.bytes ++ live) = ([item], live) := by
  cases item with
  | byte value => rfl
  | word value =>
    have whole : word (Nes.word (lowByte value) (highByte value)) = word value :=
      congrArg word (wordBytes value)
    exact congrArg (fun item => ([item], live)) whole

theorem onListPulls (live : List UInt8) (items : List Stacked) :
    Transfer.onListAll (items.flatMap bytes ++ live) (items.map pulled) = (items, live) := by
  induction items with
  | nil => rfl
  | cons item rest ih =>
    rw [List.flatMap_cons, List.append_assoc, List.map_cons, Transfer.onListAll, onListPulled, ih]
    rfl

end Stacked

namespace Transfer
variable {σ : Type} [Device σ]

theorem performLines (t : Transfer) (r : Registers) (s : σ) :
    ((t.perform r).trace s).map Access.line = StackMove.lines r.sp t.moves := by
  cases t with
  | push item => cases item <;> rfl
  | pull | pullWord => rfl

theorem performRegisters (t : Transfer) (r : Registers) (s : σ) :
    ((t.perform r).run s).result.2 = { r with sp := StackMove.last r.sp t.moves } := by
  cases t with
  | push item => cases item <;> rfl
  | pull | pullWord => rfl

end Transfer

namespace Registers
variable {σ : Type} [Device σ] (r : Registers) (s : σ)

theorem transfersRun (t : Transfer) (rest : List Transfer) :
    let first := (t.perform r).run s
    let others := (first.result.2.transfers rest).run first.device
    ((r.transfers (t :: rest)).run s).result =
        (first.result.1 ++ others.result.1, others.result.2) ∧
      ((r.transfers (t :: rest)).run s).device = others.device := by
  simp only [transfers, Transaction.runBind]
  exact ⟨rfl, rfl⟩

theorem transfersLines (transfers : List Transfer) :
    ((r.transfers transfers).trace s).map Access.line =
      StackMove.lines r.sp (transfers.flatMap Transfer.moves) := by
  induction transfers generalizing r s with
  | nil => rfl
  | cons t rest ih =>
    simp only [Registers.transfers, Transaction.traceBind, List.map_append, t.performLines, ih,
      t.performRegisters, List.flatMap_cons, StackMove.linesAppend]
    exact congrArg _ (List.append_nil _)

theorem transfersRegisters (transfers : List Transfer) :
    ((r.transfers transfers).run s).result.2 =
      { r with sp := StackMove.last r.sp (transfers.flatMap Transfer.moves) } := by
  induction transfers generalizing r s with
  | nil => rfl
  | cons t rest ih =>
    rw [(r.transfersRun s t rest).1, ih, t.performRegisters, List.flatMap_cons,
      StackMove.lastAppend]

theorem transfersWords (words : List UInt16) :
    r.transfers (words.map fun value => .push (.word value)) =
      r.transfers ((words.flatMap fun value => [highByte value, lowByte value]).map fun value =>
        .push (.byte value)) := by
  induction words generalizing r with
  | nil => rfl
  | cons value rest ih =>
    simp only [List.map_cons, List.flatMap_cons, List.cons_append, List.nil_append, transfers,
      Transfer.perform, pushWord, bind_assoc, pure_bind, ih]

end Registers

theorem StackMove.lastCount (sp : UInt8) (moves : List StackMove) :
    last sp moves + UInt8.ofNat (moves.count .push) = sp + UInt8.ofNat (moves.count .pull) := by
  induction moves generalizing sp with
  | nil => rfl
  | cons move rest ih =>
    have later := ih (move.next sp)
    have step : last sp (move :: rest) = last (move.next sp) rest := rfl
    have one : UInt8.ofNat 1 = 1 := rfl
    cases move with
    | push =>
      rw [step, List.count_cons_self, List.count_cons_of_ne (by decide), UInt8.ofNat_add, one,
        ← UInt8.add_assoc, later, next]
      grind
    | pull =>
      rw [step, List.count_cons_self, List.count_cons_of_ne (by decide), UInt8.ofNat_add, one,
        later, next]
      grind

theorem Transfer.staysPointer {room depth last : Nat} {transfers : List Transfer}
    (stays : Stays room depth transfers last) (sp : UInt8) :
    StackMove.last sp (transfers.flatMap moves) + UInt8.ofNat last = sp + UInt8.ofNat depth := by
  induction transfers generalizing depth sp with
  | nil =>
    cases stays
    rfl
  | cons t rest ih =>
    obtain ⟨enough, -, later⟩ := stays
    obtain ⟨spare, rfl⟩ := Nat.exists_eq_add_of_le enough
    have one : StackMove.last sp t.moves + UInt8.ofNat t.puts = sp + UInt8.ofNat t.takes :=
      StackMove.lastCount sp t.moves
    rw [Nat.add_sub_cancel_left] at later
    rw [List.flatMap_cons, StackMove.lastAppend, ih later, Nat.add_comm spare, UInt8.ofNat_add,
      ← UInt8.add_assoc, one, UInt8.add_assoc, ← UInt8.ofNat_add]

section
variable {σ : Type} [Device σ] [StackPage σ]

namespace StackPage

def above (s : σ) (sp : UInt8) (count : Nat) : List UInt8 :=
  (List.range count).map fun i => cell (sp + 1 + UInt8.ofNat i) s

def Holds (s : σ) (sp : UInt8) (live : List UInt8) : Prop :=
  above s sp live.length = live

theorem aboveLength (s : σ) (sp : UInt8) (count : Nat) : (above s sp count).length = count := by
  rw [above, List.length_map, List.length_range]

theorem holdsAbove (s : σ) (sp : UInt8) (count : Nat) : Holds s sp (above s sp count) := by
  rw [Holds, aboveLength]

theorem aboveSucc (s : σ) (sp : UInt8) (count : Nat) :
    above s sp (count + 1) = cell (sp + 1) s :: above s (sp + 1) count := by
  have first : sp + 1 + UInt8.ofNat 0 = sp + 1 := UInt8.add_zero _
  have next (i : Nat) : sp + 1 + UInt8.ofNat (i + 1) = sp + 1 + 1 + UInt8.ofNat i := by
    rw [Nat.add_comm, UInt8.ofNat_add, ← UInt8.add_assoc]
    rfl
  simp only [above, List.range_succ_eq_map, List.map_cons, List.map_map, Function.comp_def,
    Nat.succ_eq_add_one, first, next]

theorem holdsCons {s : σ} {sp value : UInt8} {rest : List UInt8} :
    Holds s sp (value :: rest) ↔ cell (sp + 1) s = value ∧ Holds s (sp + 1) rest := by
  rw [Holds, List.length_cons, aboveSucc, List.cons.injEq, Holds]

theorem aboveRead (s : σ) (low sp : UInt8) (count : Nat) :
    above (Device.read (word low 1) s).2 sp count = above s sp count :=
  List.map_congr_left fun _ _ => readKeeps low _ s

theorem holdsRead {s : σ} {sp : UInt8} {live : List UInt8} (holds : Holds s sp live)
    (low : UInt8) : Holds (Device.read (word low 1) s).2 sp live := by
  rwa [Holds, aboveRead]

theorem aboveWrite (s : σ) (sp value : UInt8) {count : Nat} (room : count < 256) :
    above (Device.write (word sp 1) value s) sp count = above s sp count := by
  refine List.map_congr_left fun i inside => ?_
  have less : i < count := List.mem_range.mp inside
  have apart : sp ≠ sp + 1 + UInt8.ofNat i := by
    intro same
    have numbers := congrArg UInt8.toNat same
    have bound := sp.toNat_lt
    simp only [UInt8.toNat_add, UInt8.toNat_ofNat', UInt8.toNat_one] at numbers
    omega
  rw [write, if_neg apart]

theorem holdsPush {s : σ} {sp : UInt8} {live : List UInt8} (holds : Holds s sp live)
    (room : live.length < 256) (value : UInt8) :
    Holds (Device.write (word sp 1) value s) (sp - 1) (value :: live) := by
  rw [holdsCons, UInt8.sub_add_cancel, write, if_pos rfl, Holds, aboveWrite s sp value room]
  exact ⟨rfl, holds⟩

end StackPage

open StackPage

theorem Transfer.performHolds {r : Registers} {s : σ} {live : List UInt8}
    (holds : Holds s r.sp live) {t : Transfer} (enough : t.takes ≤ live.length)
    (fits : live.length - t.takes + t.puts ≤ 256) :
    let done := (t.perform r).run s
    done.result.1 = (t.onList live).1 ∧ Holds done.device done.result.2.sp (t.onList live).2 := by
  intro done
  cases t with
  | push item =>
    cases item with
    | byte value => exact ⟨rfl, holdsPush holds fits value⟩
    | word value =>
      have first := holdsPush holds (Nat.lt_of_succ_lt fits) (highByte value)
      exact ⟨rfl, holdsPush first fits (lowByte value)⟩
  | pull =>
    obtain _ | ⟨value, rest⟩ := live
    · cases enough
    · obtain ⟨rfl, below⟩ := holdsCons.mp holds
      have first : (Device.read (word (r.sp + 1) 1) s).1 = cell (r.sp + 1) s :=
        StackPage.read _ s
      exact ⟨congrArg (fun value => [Stacked.byte value]) first, holdsRead below _⟩
  | pullWord =>
    obtain _ | ⟨low, _ | ⟨high, rest⟩⟩ := live
    · cases enough
    · exact absurd enough (by decide : ¬2 ≤ 1)
    · obtain ⟨rfl, others⟩ := holdsCons.mp holds
      obtain ⟨rfl, below⟩ := holdsCons.mp others
      let after := (Device.read (word (r.sp + 1) 1) s).2
      have first : (Device.read (word (r.sp + 1) 1) s).1 = cell (r.sp + 1) s :=
        StackPage.read _ s
      have second : (Device.read (word (r.sp + 1 + 1) 1) after).1 =
          cell (r.sp + 1 + 1) s :=
        (StackPage.read _ after).trans (readKeeps _ _ s)
      have whole : word (Device.read (word (r.sp + 1) 1) s).1
          (Device.read (word (r.sp + 1 + 1) 1) after).1 =
            word (cell (r.sp + 1) s) (cell (r.sp + 1 + 1) s) := by
        rw [first, second]
      exact ⟨congrArg (fun value => [Stacked.word value]) whole, holdsRead (holdsRead below _) _⟩

theorem Registers.transfersHold {r : Registers} {s : σ} {live : List UInt8} {last : Nat}
    (holds : Holds s r.sp live) {transfers : List Transfer}
    (stays : Transfer.Stays 256 live.length transfers last) :
    let done := (r.transfers transfers).run s
    done.result.1 = (Transfer.onListAll live transfers).1 ∧
      Holds done.device done.result.2.sp (Transfer.onListAll live transfers).2 := by
  intro done
  induction transfers generalizing r s live with
  | nil => exact ⟨rfl, holds⟩
  | cons t rest ih =>
    obtain ⟨enough, fits, later⟩ := stays
    obtain ⟨given, held⟩ := Transfer.performHolds holds enough fits
    rw [← (Transfer.onListEnough enough).1] at later
    obtain ⟨others, left⟩ := ih held later
    obtain ⟨result, device⟩ := r.transfersRun s t rest
    have whole : done.result.1 = (Transfer.onListAll live (t :: rest)).1 := by
      rw [Transfer.onListAll, ← given, ← others, result]
    rw [whole, device, result]
    exact ⟨rfl, left⟩

theorem Registers.transfersBalanced (r : Registers) (s : σ) {deep : Nat} (room : deep ≤ 256)
    {between : List Transfer} (stays : Transfer.Stays (256 - deep) 0 between 0) :
    let done := (r.transfers between).run s
    done.result = ((Transfer.onListAll [] between).1, r) ∧
      above done.device r.sp deep = above s r.sp deep := by
  intro done
  let live := above s r.sp deep
  have length : live.length = deep := aboveLength s r.sp deep
  have whole := Transfer.staysDeeper stays deep
  rw [Nat.sub_add_cancel room, Nat.zero_add, ← length] at whole
  obtain ⟨given, holds⟩ := Registers.transfersHold (holdsAbove s r.sp deep) whole
  have back : StackMove.last r.sp (between.flatMap Transfer.moves) = r.sp := by
    simpa using Transfer.staysPointer stays r.sp
  have registers : done.result.2 = r := by
    rw [r.transfersRegisters s between, back]
  rw [Transfer.onListAllBalanced stays live] at given holds
  refine ⟨Prod.ext given registers, ?_⟩
  rw [show done.result.2.sp = r.sp from congrArg Registers.sp registers, Holds, length] at holds
  exact holds

theorem Registers.transfersReverse (r : Registers) (s : σ) (items : List Stacked)
    (room : Stacked.size items ≤ 256) {between : List Transfer}
    (stays : Transfer.Stays (256 - Stacked.size items) 0 between 0) :
    ((r.transfers (items.map .push ++ between ++ items.reverse.map Stacked.pulled)).run s).result =
      ((Transfer.onListAll [] between).1 ++ items.reverse, r) := by
  have fits : 0 + Stacked.size items ≤ 256 := by omega
  have fits' : 0 + Stacked.size items.reverse ≤ 256 := by rwa [Stacked.sizeReverse]
  have pushed := Stacked.staysPushes items fits
  have inside := Transfer.staysDeeper stays (Stacked.size items)
  have pulled := Stacked.staysPulls items.reverse fits'
  rw [Nat.sub_add_cancel room] at inside
  rw [Stacked.sizeReverse] at pulled
  have whole := Transfer.staysAppend (Transfer.staysAppend pushed inside) pulled
  have taken := Stacked.onListPulls [] items.reverse
  rw [List.append_nil] at taken
  rw [(r.transfersBalanced s (Nat.zero_le 256) whole).1, Transfer.onListAllAppend,
    Transfer.onListAllAppend, Stacked.onListPushes, List.append_nil,
    Transfer.onListAllBalanced stays (items.reverse.flatMap Stacked.bytes), taken, List.nil_append]

end

end Nes
