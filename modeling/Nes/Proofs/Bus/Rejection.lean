import Nes.Proofs.Bus.History

/-! Writes that the board of the cartridge rejects. The bus keeps the first of them as its fault,
and nothing that a program could read back changes. -/
namespace Nes

namespace Video
variable (video : Video)

def dataRejection (value : UInt8) : Option BoardFault :=
  video.cart.bind fun cart =>
    let addr := video.ppu.scroll.v % 0x4000
    if addr < 0x2000 ∧ cart.chr.isRam = false then some (.ppuWrite addr value) else none

theorem writePatternFault {cart : Cartridge} (inserted : video.cart = some cart) {addr : UInt16}
    (low : addr < 0x2000) (value : UInt8) :
    (video.writePattern addr value).1 =
      if cart.chr.isRam = false then some (.ppuWrite addr value) else none := by
  obtain ⟨ppu, inside⟩ := video
  cases inserted
  cases memory : cart.chr with
  | rom bytes => simp [writePattern, Cartridge.ppuWrite, memory, Chr.isRam]
  | ram cells => simp [writePattern, Cartridge.ppuWrite, memory, Chr.isRam, low]

theorem writeDataFault (value : UInt8) :
    (video.writeData value).1 = video.dataRejection value := by
  obtain ⟨ppu, cart⟩ := video
  by_cases low : ppu.scroll.v % 0x4000 < 0x2000
  · have pattern : (writeData ⟨ppu, cart⟩ value).1 =
        (writePattern ⟨ppu.advance, cart⟩ (ppu.scroll.v % 0x4000) value).1 := by
      simp only [writeData, writeVram, VideoCell.ofAddress, if_pos low, writeCell]
    cases cart with
    | none => rw [pattern]; rfl
    | some cart =>
      rw [pattern, writePatternFault _ rfl low]
      simp only [dataRejection, Option.bind_some, low, true_and]
  · have clear : dataRejection ⟨ppu, cart⟩ value = none := by
      cases cart with
      | none => rfl
      | some cart => simp [dataRejection, low]
    simp only [writeData, writeVram, VideoCell.ofAddress, if_neg low, clear]
    split <;> rfl

theorem writeRegisterData {addr : UInt16} (data : addr.toNat % 8 = 7) (value : UInt8) :
    video.writeRegister addr value =
      (video.update fun ppu => { ppu with latch := value }).writeData value := by
  simp only [writeRegister, data]

theorem writeRegisterFault (addr : UInt16) (value : UInt8) :
    (video.writeRegister addr value).1 =
      if addr.toNat % 8 = 7 then video.dataRejection value else none := by
  split
  · rename_i data
    rw [writeRegisterData video data]
    exact writeDataFault _ value
  · rename_i other
    unfold writeRegister
    simp only
    split
    case h_7 data => exact absurd data other
    all_goals rfl

theorem writeDataRejected {video : Video} {value : UInt8} {e : BoardFault}
    (rejected : video.dataRejection value = some e) :
    (video.writeData value).2 = video.update Ppu.advance := by
  obtain ⟨ppu, cart⟩ := video
  cases cart with
  | none => cases rejected
  | some cart =>
    simp only [dataRejection, Option.bind_some, Option.ite_none_right_eq_some] at rejected
    obtain ⟨⟨low, fixed⟩, -⟩ := rejected
    cases memory : cart.chr with
    | rom bytes =>
      simp only [writeData, writeVram, VideoCell.ofAddress, if_pos low, writeCell, writePattern,
        Cartridge.ppuWrite, memory]
      rfl
    | ram cells => simp [memory, Chr.isRam] at fixed

end Video

namespace Bus

-- What the board says to a write of the processor: it takes none at all, and what comes through the
-- data register only into character RAM.
def writeRejection (bus : Bus) (addr : UInt16) (value : UInt8) : Option BoardFault :=
  if 0x4020 ≤ addr then bus.video.cart.map fun _ => .cpuWrite addr value
  else if 0x2000 ≤ addr ∧ addr < 0x4000 ∧ addr.toNat % 8 = 7 then bus.video.dataRejection value
  else none

def rejection (bus : Bus) : Access → Option BoardFault
  | .read _ _ => none
  | .write addr value => bus.writeRejection addr value

def firstRejection (bus : Bus) : List Access → Option BoardFault
  | [] => none
  | access :: rest => (bus.rejection access).or ((access.perform bus).firstRejection rest)

theorem readFault (bus : Bus) (addr : UInt16) : (bus.read addr).2.fault = bus.fault :=
  bus.readKeepsView Bus.fault (fun _ => rfl) addr

theorem readPageFault (bus : Bus) (page : UInt8) : (bus.readPage page).2.fault = bus.fault :=
  bus.readPageKeepsView Bus.fault (fun _ => rfl) page

theorem writeRejectionRam (bus : Bus) {addr : UInt16} (inside : addr < 0x2000) (value : UInt8) :
    bus.writeRejection addr value = none := by
  rw [UInt16.lt_iff_toNat_lt] at inside
  unfold writeRejection
  simp only [UInt16.le_iff_toNat_le]
  rw [if_neg, if_neg]
  all_goals simp at *; omega

theorem stackInRam (low : UInt8) : word low 1 < 0x2000 := by
  rw [UInt16.lt_iff_toNat_lt, toNatWord]
  have bound := low.toNat_lt
  simp only [UInt8.reduceToNat, UInt16.reduceToNat]
  omega

theorem writeRejectionStack (bus : Bus) (low value : UInt8) :
    bus.writeRejection (word low 1) value = none :=
  bus.writeRejectionRam (stackInRam low) value

theorem writeRejectionRegister (bus : Bus) {addr : UInt16} (above : ¬addr < 0x2000)
    (inside : addr < 0x4000) (value : UInt8) :
    bus.writeRejection addr value =
      if addr.toNat % 8 = 7 then bus.video.dataRejection value else none := by
  have below : ¬0x4020 ≤ addr := by
    rw [UInt16.lt_iff_toNat_lt] at inside
    rw [UInt16.le_iff_toNat_le]
    simp at *
    omega
  simp only [writeRejection, if_neg below, UInt16.not_lt.mp above, inside, true_and]

theorem writeRejectionPort (bus : Bus) {addr : UInt16} (above : ¬addr < 0x4000)
    (inside : addr < 0x4020) (value : UInt8) : bus.writeRejection addr value = none := by
  unfold writeRejection
  rw [if_neg (UInt16.not_le.mpr inside), if_neg fun register => above register.2.1]

theorem writeFault (bus : Bus) (addr : UInt16) (value : UInt8) :
    (bus.write addr value).fault = bus.fault.or (bus.writeRejection addr value) := by
  unfold write deliver
  split
  · rename_i ram
    rw [bus.writeRejectionRam ram, Option.or_none]
  split
  · rename_i ram register
    rw [bus.writeRejectionRegister ram register, ← Video.writeRegisterFault]
    rfl
  split
  · rename_i register port
    rw [bus.writeRejectionPort register port, Option.or_none]
    split
    · unfold copyPageToOam
      exact readPageFault { bus with openBus := value } value
    · rfl
    · rfl
  · rename_i port
    rw [writeRejection, if_pos (UInt16.not_lt.mp port)]
    rfl

theorem performFault (bus : Bus) (access : Access) :
    (access.perform bus).fault = bus.fault.or (bus.rejection access) := by
  cases access with
  | read addr value => exact (bus.readFault addr).trans Option.or_none.symm
  | write addr value => exact bus.writeFault addr value

theorem performAllFault (bus : Bus) (accesses : List Access) :
    (accesses.foldl Access.perform bus).fault = bus.fault.or (bus.firstRejection accesses) := by
  induction accesses generalizing bus with
  | nil => exact Option.or_none.symm
  | cons access rest ih =>
    rw [List.foldl_cons, ih, performFault, firstRejection, Option.or_assoc]

theorem firstRejectionAppend (bus : Bus) (xs ys : List Access) :
    bus.firstRejection (xs ++ ys) =
      (bus.firstRejection xs).or ((xs.foldl Access.perform bus).firstRejection ys) := by
  induction xs generalizing bus with
  | nil => rfl
  | cons access rest ih =>
    rw [List.cons_append, firstRejection, ih, firstRejection, Option.or_assoc]
    rfl

theorem firstRejectionSome {bus : Bus} {accesses : List Access} {e : BoardFault}
    (rejected : bus.firstRejection accesses = some e) :
    ∃ before access rest, accesses = before ++ access :: rest ∧
      bus.firstRejection before = none ∧
      (before.foldl Access.perform bus).rejection access = some e := by
  induction accesses generalizing bus with
  | nil => cases rejected
  | cons access rest ih =>
    rw [firstRejection] at rejected
    cases now : bus.rejection access with
    | some cause =>
      rw [now, Option.some_or] at rejected
      exact ⟨[], access, rest, rfl, rfl, now.trans rejected⟩
    | none =>
      rw [now, Option.none_or] at rejected
      obtain ⟨before, access', rest', rfl, quiet, found⟩ := ih rejected
      refine ⟨access :: before, access', rest', rfl, ?_, found⟩
      rw [firstRejection, now, Option.none_or, quiet]

theorem firstRejectionNone {accesses : List Access}
    (never : ∀ access ∈ accesses, ∀ bus : Bus, bus.rejection access = none) (bus : Bus) :
    bus.firstRejection accesses = none := by
  induction accesses generalizing bus with
  | nil => rfl
  | cons access rest ih =>
    obtain ⟨now, later⟩ := List.forall_mem_cons.mp never
    rw [firstRejection, now bus, Option.none_or, ih later]

structure Memory where
  ram : WorkRam
  cart : Option Cartridge
  nametables : Nametables
  palette : PaletteRam
  oam : ObjectMemory
  tiles : Tiles

def memory (bus : Bus) : Memory where
  ram := bus.ram
  cart := bus.video.cart
  nametables := bus.video.ppu.nametables
  palette := bus.video.ppu.palette
  oam := bus.video.ppu.oam
  tiles := bus.video.ppu.tiles

theorem writeRejected {bus : Bus} {addr : UInt16} {value : UInt8} {e : BoardFault}
    (rejected : bus.writeRejection addr value = some e) :
    (bus.write addr value).memory = bus.memory := by
  by_cases port : addr < 0x4020
  · rw [writeRejection, if_neg (UInt16.not_le.mpr port), Option.ite_none_right_eq_some] at rejected
    obtain ⟨⟨above, below, data⟩, rejected⟩ := rejected
    have latched : (bus.video.writeRegister addr value).2 =
        (bus.video.update fun ppu => { ppu with latch := value }).update Ppu.advance := by
      rw [Video.writeRegisterData _ data]
      exact Video.writeDataRejected rejected
    unfold write deliver
    rw [if_neg (UInt16.not_lt.mpr above), if_pos below]
    simp only [latched]
    rfl
  · have above : ¬addr < 0x4000 := fun less => port (UInt16.lt_trans less (by decide))
    have above' : ¬addr < 0x2000 := fun less => port (UInt16.lt_trans less (by decide))
    unfold write deliver
    rw [if_neg above', if_neg above, if_neg port]
    rfl

theorem performRejected {bus : Bus} {access : Access} {e : BoardFault}
    (rejected : bus.rejection access = some e) : (access.perform bus).memory = bus.memory := by
  cases access with
  | read addr value => cases rejected
  | write addr value => exact writeRejected rejected

end Bus
end Nes
