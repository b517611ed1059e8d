import Mathlib.Data.List.Forall2
import Nes.Proofs.Bus.History

/-! Mirrors. Work RAM shows four times, and the registers of the picture unit show 1024 times. No
request can tell one mirror from another, and a cell of work RAM holds what was last written to any
of its mirrors, whatever else is asked of the bus. -/
namespace Nes

inductive Request where
  | read (addr : UInt16)
  | write (addr : UInt16) (value : UInt8)
  | ppuRead (addr : UInt16)
  | ppuWrite (addr : UInt16) (value : UInt8)
  | tick (cycles : Nat)
  | beginVblank
  | endVblank
  | render
  | hold (buttons : UInt8)
  | takeFault
  | drain
  deriving DecidableEq, Repr

inductive Reply where
  | done
  | byte (value : UInt8)
  | nmi (wanted : Bool)
  | fault (taken : Option BoardFault)
  | samples (taken : Array Int16)
  deriving DecidableEq, Repr

namespace Bus

def serve (bus : Bus) : Request → Reply × Bus
  | .read addr => (.byte (bus.read addr).1, (bus.read addr).2)
  | .write addr value => (.done, bus.write addr value)
  | .ppuRead addr => (.byte (bus.ppuRead addr), bus)
  | .ppuWrite addr value => (.done, bus.ppuWrite addr value)
  | .tick cycles => (.done, bus.tick cycles)
  | .beginVblank =>
    let video := bus.video.update Ppu.beginVblank
    (.nmi video.ppu.wantsNmi, { bus with video })
  | .endVblank => (.done, { bus with video := bus.video.update Ppu.endVblank })
  | .render => (.done, { bus with video := bus.video.update Ppu.render })
  | .hold buttons => (.done, { bus with controller := bus.controller.hold buttons })
  | .takeFault => (.fault bus.takeFault.1, bus.takeFault.2)
  | .drain => (.samples bus.apu.drain.1, { bus with apu := bus.apu.drain.2 })

def serveAll (bus : Bus) : List Request → List Reply × Bus
  | [] => ([], bus)
  | request :: rest =>
    let (reply, bus) := bus.serve request
    let (replies, bus) := bus.serveAll rest
    (reply :: replies, bus)

end Bus

-- Addresses that stand for the same byte of work RAM or the same register of the picture unit.
def Mirrors (addr addr' : UInt16) : Prop :=
  let a := addr.toNat
  let b := addr'.toNat
  (a < 0x2000 ∧ b < 0x2000 ∧ a % 0x800 = b % 0x800) ∨
    (0x2000 ≤ a ∧ a < 0x4000 ∧ 0x2000 ≤ b ∧ b < 0x4000 ∧ a % 8 = b % 8)

instance (addr addr' : UInt16) : Decidable (Mirrors addr addr') :=
  inferInstanceAs (Decidable (_ ∨ _))

namespace Request

inductive Mirrored : Request → Request → Prop where
  | same (request : Request) : Mirrored request request
  | read {addr addr' : UInt16} (mirrors : Mirrors addr addr') :
      Mirrored (.read addr) (.read addr')
  | write {addr addr' : UInt16} (mirrors : Mirrors addr addr') (value : UInt8) :
      Mirrored (.write addr value) (.write addr' value)

def isRamWrite : Request → Bool
  | write addr _ => addr.toNat < 0x2000
  | _ => false

def stores (addr : UInt16) : Request → Option UInt8
  | write addr' value =>
    if addr'.toNat < 0x2000 ∧ addr'.toNat % 0x800 = addr.toNat % 0x800 then some value else none
  | _ => none

end Request

def lastStored (addr : UInt16) (requests : List Request) : Option UInt8 :=
  (requests.filterMap (·.stores addr)).getLast?

namespace Bus
variable (bus : Bus) {addr addr' : UInt16} (mirrors : Mirrors addr addr')
include mirrors

theorem answerMirrors : bus.answer addr = bus.answer addr' := by
  unfold answer
  simp only [UInt16.lt_iff_toNat_lt, UInt16.reduceToNat]
  obtain ⟨low, low', cell⟩ | ⟨above, below, above', below', register⟩ := mirrors
  · rw [if_pos low, if_pos low', ← Ram.readMod, cell, Ram.readMod]
  · have shown : bus.video.readRegister addr = bus.video.readRegister addr' := by
      unfold Video.readRegister
      rw [register]
    rw [if_neg (Nat.not_lt.mpr above), if_neg (Nat.not_lt.mpr above'), if_pos below, if_pos below',
      shown]

theorem readMirrors : bus.read addr = bus.read addr' := by
  rw [read, answerMirrors bus mirrors, read]

theorem writeMirrors (value : UInt8) : bus.write addr value = bus.write addr' value := by
  unfold write deliver
  simp only [UInt16.lt_iff_toNat_lt, UInt16.reduceToNat]
  obtain ⟨low, low', cell⟩ | ⟨above, below, above', below', register⟩ := mirrors
  · rw [if_pos low, if_pos low', ← Ram.writeMod, cell, Ram.writeMod]
  · have taken : bus.video.writeRegister addr value = bus.video.writeRegister addr' value := by
      unfold Video.writeRegister
      rw [register]
    rw [if_neg (Nat.not_lt.mpr above), if_neg (Nat.not_lt.mpr above'), if_pos below, if_pos below',
      taken]

end Bus

namespace Bus
variable (bus : Bus)

theorem serveMirrored {request request' : Request} (mirrored : request.Mirrored request') :
    bus.serve request = bus.serve request' := by
  cases mirrored with
  | same => rfl
  | read mirrors => rw [serve, bus.readMirrors mirrors, serve]
  | write mirrors value => rw [serve, bus.writeMirrors mirrors, serve]

theorem serveAllMirrored {requests requests' : List Request}
    (mirrored : List.Forall₂ Request.Mirrored requests requests') :
    bus.serveAll requests = bus.serveAll requests' := by
  induction mirrored generalizing bus with
  | nil => rfl
  | cons first others ih => simp only [serveAll, bus.serveMirrored first, ih]

theorem writeRam {addr : UInt16} (value : UInt8) (above : ¬addr.toNat < 0x2000) :
    (bus.write addr value).ram = bus.ram := by
  have beyond : ¬addr < 0x2000 := fun low => above (UInt16.lt_iff_toNat_lt.mp low)
  unfold write deliver
  rw [if_neg beyond]
  split
  · rfl
  split
  · split
    · exact readPageKeepsView Bus.ram (fun _ => rfl) { bus with openBus := value } value
    · rfl
    · rfl
  · rfl

theorem serveRam {request : Request} (other : request.isRamWrite = false) :
    (bus.serve request).2.ram = bus.ram := by
  cases request with
  | read addr => exact bus.readKeepsView Bus.ram (fun _ => rfl) addr
  | write addr value => exact bus.writeRam value (of_decide_eq_false other)
  | _ => rfl

theorem serveStores (request : Request) (addr : UInt16) :
    (bus.serve request).2.ram.read addr.toNat =
      (request.stores addr).getD (bus.ram.read addr.toNat) := by
  cases request with
  | write addr' value =>
    by_cases low : addr'.toNat < 0x2000
    · have written : (bus.write addr' value).ram = bus.ram.write addr'.toNat value := by
        unfold write deliver
        rw [if_pos (UInt16.lt_iff_toNat_lt.mpr low)]
      rw [serve, written, Ram.readWrite, Request.stores]
      simp only [low, true_and]
      split <;> rfl
    · have kept : (bus.serve (.write addr' value)).2.ram = bus.ram := bus.writeRam value low
      rw [kept, Request.stores, if_neg fun both => low both.1]
      rfl
  | read addr' => exact bus.readKeepsView (·.ram.read addr.toNat) (fun _ => rfl) addr'
  | _ => rfl

theorem lastStoredCons (addr : UInt16) (request : Request) (rest : List Request) :
    lastStored addr (request :: rest) = (lastStored addr rest).or (request.stores addr) := by
  unfold lastStored
  rw [List.filterMap_cons]
  cases request.stores addr with
  | none => exact Option.or_none.symm
  | some value =>
    simp only [List.getLast?_cons]
    cases (rest.filterMap (·.stores addr)).getLast? <;> rfl

theorem serveAllStores (requests : List Request) (addr : UInt16) :
    (bus.serveAll requests).2.ram.read addr.toNat =
      (lastStored addr requests).getD (bus.ram.read addr.toNat) := by
  induction requests generalizing bus with
  | nil => rfl
  | cons request rest ih =>
    have later : (bus.serveAll (request :: rest)).2 = ((bus.serve request).2.serveAll rest).2 := rfl
    rw [later, ih, serveStores, lastStoredCons]
    cases lastStored addr rest <;> rfl

theorem readRam {addr : UInt16} (low : addr.toNat < 0x2000) :
    (bus.read addr).1 = bus.ram.read addr.toNat := by
  unfold read answer
  rw [if_pos (UInt16.lt_iff_toNat_lt.mpr low)]

/-- Since the power came on, an address of work RAM reads what was last written to a mirror of it,
or 0. Nothing but writes to these addresses changes work RAM. On any bus, requests at mirrors get
the same replies and lead to the same bus. -/
theorem mirrorsAgree :
    (∀ (cart : Cartridge) (requests : List Request) (addr : UInt16), addr.toNat < 0x2000 →
      (((bus.powerOn cart).serveAll requests).2.read addr).1 =
        (lastStored addr requests).getD 0) ∧
      (∀ request : Request, request.isRamWrite = false → (bus.serve request).2.ram = bus.ram) ∧
      ∀ requests requests' : List Request, List.Forall₂ Request.Mirrored requests requests' →
        bus.serveAll requests = bus.serveAll requests' := by
  refine ⟨fun cart requests addr low => ?_, fun _ => bus.serveRam, fun _ _ => bus.serveAllMirrored⟩
  have clear : (bus.powerOn cart).ram.read addr.toNat = 0 := Ram.readFilled 0 addr.toNat
  rw [readRam _ low, serveAllStores, clear]

theorem mirrorsAgreeCopied :
    let cart : Cartridge := {
      prg := #[]
      chr := .rom #[]
      prgBanks := 1
      chrBanks := 1
      mapper := 0
      mirroring := .vertical }
    let bus := powerOn cart { apu := .standard }
    let requests := [.write 0x0801 5, .write 0x2006 0x01, .write 0x2006 0x23, .write 0x2007 0x42,
      .write 0x8000 7, .takeFault, .write 0x4014 0x18, .tick 3, .write 0x2003 1, .read 0x2004]
    let requests' := [.write 0x1001 5, .write 0x3FFE 0x01, .write 0x2106 0x23, .write 0x200F 0x42,
      .write 0x8000 7, .takeFault, .write 0x4014 0x18, .tick 3, .write 0x2FFB 1, .read 0x303C]
    let served := bus.serveAll requests
    List.Forall₂ Request.Mirrored requests requests' ∧
      lastStored 0x1801 requests = some 5 ∧ (served.2.read 0x1801).1 = 5 ∧
      (served.2.serve .takeFault).2.ram = served.2.ram ∧
      served.1 = [.done, .done, .done, .done, .done, .fault (some (.ppuWrite 0x0123 0x42)), .done,
        .done, .done, .byte 5] ∧
      bus.serveAll requests' = served := by
  intro cart bus requests requests' served
  have mirrored : List.Forall₂ Request.Mirrored requests requests' :=
    .cons (.write (by decide) 5) <| .cons (.write (by decide) 0x01) <|
      .cons (.write (by decide) 0x23) <| .cons (.write (by decide) 0x42) <| .cons (.same _) <|
      .cons (.same _) <| .cons (.same _) <| .cons (.same _) <| .cons (.write (by decide) 1) <|
      .cons (.read (by decide)) .nil
  obtain ⟨reads, -, -⟩ := mirrorsAgree { apu := .standard }
  obtain ⟨-, keeps, -⟩ := mirrorsAgree served.2
  obtain ⟨-, -, same⟩ := mirrorsAgree bus
  have stored : lastStored 0x1801 requests = some 5 := by decide
  have read := reads cart requests 0x1801 (by decide)
  rw [stored] at read
  have replies : served.1 = [.done, .done, .done, .done, .done,
      .fault (some (.ppuWrite 0x0123 0x42)), .done, .done, .done, .byte 5] := by
    decide +kernel
  exact ⟨mirrored, stored, read, keeps .takeFault rfl, replies, (same _ _ mirrored).symm⟩

end Bus
end Nes
