import Nes.Word

/-! Bus transactions: what a processor does on its bus, one cycle at a time. A cycle reads a
byte, writes a byte, or leaves the bus alone. A transaction says nothing about what answers the
reads, so the same transaction runs against any device, and its cost is the number of its
cycles. -/
namespace Nes

inductive Transaction (α : Type) where
  | done (result : α)
  | idle (next : Transaction α)
  | read (addr : UInt16) (next : UInt8 → Transaction α)
  | write (addr : UInt16) (value : UInt8) (next : Transaction α)

class Device (σ : Type) where
  read : UInt16 → σ → UInt8 × σ
  write : UInt16 → UInt8 → σ → σ

structure Settled (σ α : Type) where
  result : α
  device : σ
  cycles : Nat

namespace Transaction
variable {α β γ σ : Type}

def bind : Transaction α → (α → Transaction β) → Transaction β
  | done result, f => f result
  | idle next, f => idle (next.bind f)
  | read addr next, f => read addr fun value => (next value).bind f
  | write addr value next, f => write addr value (next.bind f)

instance : Monad Transaction where
  pure := done
  bind := bind

theorem bindDone (t : Transaction α) : t.bind done = t := by
  induction t with
  | done => rfl
  | idle next ih => simp [bind, ih]
  | read addr next ih => simp [bind, ih]
  | write addr value next ih => simp [bind, ih]

theorem bindBind (t : Transaction α) (f : α → Transaction β) (g : β → Transaction γ) :
    (t.bind f).bind g = t.bind fun a => (f a).bind g := by
  induction t with
  | done => rfl
  | idle next ih => simp [bind, ih]
  | read addr next ih => simp [bind, ih]
  | write addr value next ih => simp [bind, ih]

instance : LawfulMonad Transaction :=
  LawfulMonad.mk' Transaction bindDone (fun _ _ => rfl) bindBind

def wait : Transaction Unit :=
  idle (done ())

def readByte (addr : UInt16) : Transaction UInt8 :=
  read addr done

def writeByte (addr : UInt16) (value : UInt8) : Transaction Unit :=
  write addr value (done ())

def readBytes (addr addr' : UInt16) : Transaction UInt16 := do
  let low ← readByte addr
  let high ← readByte addr'
  return word low high

def readWord (addr : UInt16) : Transaction UInt16 :=
  readBytes addr (addr + 1)

def run [Device σ] : Transaction α → σ → Settled σ α
  | done result, s => ⟨result, s, 0⟩
  | idle next, s =>
    let settled := next.run s
    { settled with cycles := settled.cycles + 1 }
  | read addr next, s =>
    let (value, s) := Device.read addr s
    let settled := (next value).run s
    { settled with cycles := settled.cycles + 1 }
  | write addr value next, s =>
    let settled := next.run (Device.write addr value s)
    { settled with cycles := settled.cycles + 1 }

theorem runBind [Device σ] (t : Transaction α) (f : α → Transaction β) (s : σ) :
    (t >>= f).run s =
      let first := t.run s
      let second := (f first.result).run first.device
      { second with cycles := first.cycles + second.cycles } := by
  show (t.bind f).run s = _
  induction t generalizing s with
  | done result => simp [bind, run]
  | idle next ih => simp only [bind, run, ih]; simp [Nat.add_right_comm]
  | read addr next ih => simp only [bind, run, ih]; simp [Nat.add_right_comm]
  | write addr value next ih => simp only [bind, run, ih]; simp [Nat.add_right_comm]

end Transaction
end Nes
