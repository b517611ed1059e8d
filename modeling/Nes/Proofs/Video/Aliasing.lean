import Nes.Proofs.Bus.Rejection
import Nes.Proofs.Video.TileCache

/-! The address space of the picture unit as a store. Addresses are names of cells, some cells have
several names, and a cell holds what was last written under any of its names. -/
namespace Nes

def Mirroring.Shares (mirroring : Mirroring) (table table' : Nat) : Prop :=
  match mirroring with
  | .horizontal => table / 2 = table' / 2
  | .vertical => table % 2 = table' % 2

instance (mirroring : Mirroring) (table table' : Nat) :
    Decidable (mirroring.Shares table table') :=
  match mirroring with
  | .horizontal => Nat.decEq (table / 2) (table' / 2)
  | .vertical => Nat.decEq (table % 2) (table' % 2)

def PaletteRam.entry (addr : Nat) : Nat :=
  let low := addr % 0x20
  if low = 0x10 ∨ low = 0x14 ∨ low = 0x18 ∨ low = 0x1C then low - 0x10 else low

namespace Video

def Aliases (mirroring : Mirroring) (a b : UInt16) : Prop :=
  let a := a.toNat % 0x4000
  let b := b.toNat % 0x4000
  (a < 0x2000 ∧ a = b) ∨
    (0x2000 ≤ a ∧ a < 0x3F00 ∧ 0x2000 ≤ b ∧ b < 0x3F00 ∧ a % 0x400 = b % 0x400 ∧
      mirroring.Shares ((a - 0x2000) % 0x1000 / 0x400) ((b - 0x2000) % 0x1000 / 0x400)) ∨
    (0x3F00 ≤ a ∧ 0x3F00 ≤ b ∧ PaletteRam.entry a = PaletteRam.entry b)

instance (mirroring : Mirroring) (a b : UInt16) : Decidable (Aliases mirroring a b) :=
  inferInstanceAs (Decidable (_ ∨ _ ∨ _))

-- Whether a byte written to an address is taken into a cell. Pattern addresses have cells that can
-- be written only on a board with character RAM.
def accepts (video : Video) (addr : UInt16) : Bool :=
  if addr.toNat % 0x4000 < 0x2000 then video.cart.any (·.chr.isRam) else true

def stored (addr : UInt16) (value : UInt8) : UInt8 :=
  if 0x3F00 ≤ addr.toNat % 0x4000 then value &&& 0x3F else value

def writeAll (video : Video) (writes : List (UInt16 × UInt8)) : Video :=
  writes.foldl (fun video write => (video.writeVram write.1 write.2).2) video

def lastWritten (video : Video) (b : UInt16) (writes : List (UInt16 × UInt8)) : Option UInt8 :=
  (writes.filter fun write =>
    video.accepts write.1 && decide (Aliases video.ppu.mirroring write.1 b)).getLast?.map (·.2)

end Video

theorem Mirroring.bankShared (mirroring : Mirroring) {table table' : Nat} (h : table < 4)
    (h' : table' < 4) :
    mirroring.bank table = mirroring.bank table' ↔ mirroring.Shares table table' := by
  cases mirroring with
  | horizontal =>
    simp [bank, Shares, Fin.ext_iff]
    omega
  | vertical => simp [bank, Shares, Fin.ext_iff]

theorem PaletteRam.cellEntry (addr : Nat) : cell addr = entry addr := by
  unfold cell entry
  simp only
  split <;> split <;> omega

def VideoCell.Inside : VideoCell → Prop
  | pattern addr => addr.toNat < 0x2000
  | nametable _ offset => offset < 0x400
  | palette cell => cell < 32

theorem VideoCell.ofAddressRegions (mirroring : Mirroring) (addr : UInt16) :
    ofAddress mirroring addr =
      if addr.toNat % 0x4000 < 0x2000 then .pattern (addr % 0x4000)
      else if addr.toNat % 0x4000 < 0x3F00 then
        .nametable (mirroring.bank ((addr.toNat % 0x4000 - 0x2000) % 0x1000 / 0x400))
          (addr.toNat % 0x4000 % 0x400)
      else .palette (PaletteRam.entry (addr.toNat % 0x4000)) := by
  have masked : (addr % 0x4000).toNat = addr.toNat % 0x4000 := UInt16.toNat_mod addr 0x4000
  simp only [ofAddress, Mirroring.locate, UInt16.lt_iff_toNat_lt, masked, PaletteRam.cellEntry]
  rfl

theorem VideoCell.ofAddressInside (mirroring : Mirroring) (addr : UInt16) :
    (ofAddress mirroring addr).Inside := by
  rw [ofAddressRegions]
  split
  · rename_i low
    exact low
  split
  · exact Nat.mod_lt _ (by decide)
  · simp only [Inside, PaletteRam.entry]
    split <;> omega

theorem Video.aliasesCell (mirroring : Mirroring) (a b : UInt16) :
    Aliases mirroring a b ↔
      VideoCell.ofAddress mirroring a = VideoCell.ofAddress mirroring b := by
  have table (addr : Nat) : (addr - 0x2000) % 0x1000 / 0x400 < 4 := by omega
  have pattern : a % 0x4000 = b % 0x4000 ↔ a.toNat % 0x4000 = b.toNat % 0x4000 :=
    UInt16.toNat_inj.symm
  rw [VideoCell.ofAddressRegions, VideoCell.ofAddressRegions]
  unfold Aliases
  simp only
  rw [← mirroring.bankShared (table _) (table _)]
  generalize a.toNat % 0x4000 = n at *
  generalize b.toNat % 0x4000 = m at *
  by_cases low : n < 0x2000
  · by_cases low' : m < 0x2000
    · simp only [if_pos low, if_pos low', VideoCell.pattern.injEq, pattern]
      omega
    · rw [if_pos low, if_neg low']
      split <;> simp <;> omega
  · by_cases high : n < 0x3F00
    · by_cases inTables : ¬m < 0x2000 ∧ m < 0x3F00
      · simp only [if_neg low, if_pos high, if_neg inTables.1, if_pos inTables.2,
          VideoCell.nametable.injEq]
        omega
      · rw [if_neg low, if_pos high]
        split <;> (try split) <;> simp <;> omega
    · by_cases high' : m < 0x3F00
      · rw [if_neg low, if_neg high]
        split <;> simp <;> omega
      · have low' : ¬m < 0x2000 := by omega
        simp only [if_neg low, if_neg high, if_neg low', if_neg high', VideoCell.palette.injEq]
        omega

theorem Cartridge.ppuReadWrite {cart cart' : Cartridge} {addr : UInt16} {value : UInt8}
    (taken : cart.ppuWrite addr value = .ok cart') :
    cart.chr.isRam = true ∧ cart'.chr.isRam = true ∧ cart'.ppuRead addr = value := by
  have inside := (ppuWriteOk taken).1
  have low : addr < 0x2000 := UInt16.lt_iff_toNat_lt.mpr inside
  unfold ppuWrite at taken
  cases memory : cart.chr with
  | rom bytes => simp [memory] at taken
  | ram cells =>
    simp only [memory, if_pos low, Except.ok.injEq] at taken
    subst taken
    refine ⟨rfl, rfl, ?_⟩
    simp only [ppuRead, if_pos low, Ram.readWrite, if_true]

namespace VideoCell

def takes (cart : Option Cartridge) : VideoCell → Bool
  | pattern _ => cart.any (·.chr.isRam)
  | nametable .. | palette _ => true

def stored (value : UInt8) : VideoCell → UInt8
  | pattern _ | nametable .. => value
  | palette _ => value % 64

end VideoCell

namespace Video
variable (video : Video)

theorem acceptsCell (addr : UInt16) :
    video.accepts addr = (VideoCell.ofAddress video.ppu.mirroring addr).takes video.cart := by
  rw [VideoCell.ofAddressRegions]
  unfold accepts
  split
  · rfl
  · split <;> rfl

theorem storedCell (mirroring : Mirroring) (addr : UInt16) (value : UInt8) :
    stored addr value = (VideoCell.ofAddress mirroring addr).stored value := by
  have sixBits : value &&& 0x3F = value % 64 := by
    apply UInt8.toNat_inj.mp
    rw [UInt8.toNat_and, UInt8.toNat_mod]
    exact Nat.and_two_pow_sub_one_eq_mod value.toNat 6
  rw [VideoCell.ofAddressRegions]
  unfold stored
  split
  · rw [if_neg (by omega), if_neg (by omega), sixBits]
    rfl
  · split
    · rfl
    · rw [if_pos (by omega)]
      rfl

theorem writeCellLost {value : UInt8} {cell : VideoCell}
    (lost : cell.takes video.cart = false) : (video.writeCell value cell).2 = video := by
  obtain ⟨ppu, cart⟩ := video
  cases cell with
  | nametable | palette => cases lost
  | pattern addr =>
    cases cart with
    | none => rfl
    | some cart =>
      unfold writeCell writePattern
      cases taken : cart.ppuWrite addr value with
      | error e => simp only [taken]
      | ok cart' =>
        have ram := (Cartridge.ppuReadWrite taken).1
        simp [VideoCell.takes, ram] at lost

end Video

structure Video.Stores (video : Video) (value : UInt8) (cell : VideoCell) (video' : Video) :
    Prop where
  mirroring : video'.ppu.mirroring = video.ppu.mirroring
  board : video'.cart.any (·.chr.isRam) = video.cart.any (·.chr.isRam)
  reads : ∀ cell', cell'.Inside →
    video'.readCell cell' = if cell = cell' then cell.stored value else video.readCell cell'

namespace Video
variable (video : Video)

theorem writePatternStores {addr : UInt16} (value : UInt8)
    (taken : (VideoCell.pattern addr).takes video.cart = true)
    (inside : (VideoCell.pattern addr).Inside) :
    video.Stores value (.pattern addr) (video.writeCell value (.pattern addr)).2 := by
  obtain ⟨ppu, cart⟩ := video
  have low : addr < 0x2000 := UInt16.lt_iff_toNat_lt.mpr inside
  cases cart with
  | none => cases taken
  | some cart =>
    have ram : cart.chr.isRam = true := taken
    cases made : cart.ppuWrite addr value with
    | error e =>
      cases memory : cart.chr <;> simp [Cartridge.ppuWrite, memory, Chr.isRam, low] at made ram
    | ok cart' =>
      obtain ⟨-, ram', back⟩ := Cartridge.ppuReadWrite made
      have others := (Cartridge.ppuWriteOk made).2
      refine ⟨?_, ?_, ?_⟩ <;> simp only [writeCell, writePattern, made]
      · simp only [Option.any_some, ram, ram']
      · intro cell' inside'
        cases cell' with
        | nametable | palette => rw [if_neg (by simp)]; rfl
        | pattern addr' =>
          by_cases same : addr = addr'
          · subst same
            rw [if_pos rfl]
            exact back
          · rw [if_neg fun equal => same (VideoCell.pattern.inj equal)]
            exact others addr' (Ne.symm same)

theorem writeNametableStores (value : UInt8) {bank : Fin 2} {offset : Nat}
    (inside : (VideoCell.nametable bank offset).Inside) :
    video.Stores value (.nametable bank offset)
      (video.writeCell value (.nametable bank offset)).2 where
  mirroring := rfl
  board := rfl
  reads cell' inside' := by
    cases cell' with
    | pattern | palette => rw [if_neg (by simp)]; rfl
    | nametable bank' offset' =>
      have same : offset % 0x400 = offset' % 0x400 ↔ offset = offset' := by
        rw [Nat.mod_eq_of_lt inside, Nat.mod_eq_of_lt inside']
      simp only [writeCell, readCell, Nametables.bankWrite, VideoCell.nametable.injEq,
        VideoCell.stored]
      by_cases shared : bank = bank'
      · rw [if_pos shared, Ram.readWrite]
        simp only [shared, same, true_and]
      · rw [if_neg shared, if_neg fun both => shared both.1]

theorem writePaletteStores (value : UInt8) {cell : Nat} (inside : (VideoCell.palette cell).Inside) :
    video.Stores value (.palette cell) (video.writeCell value (.palette cell)).2 where
  mirroring := rfl
  board := rfl
  reads cell' inside' := by
    cases cell' with
    | pattern | nametable => rw [if_neg (by simp)]; rfl
    | palette entry =>
      have same : cell % 32 = entry % 32 ↔ cell = entry := by
        rw [Nat.mod_eq_of_lt inside, Nat.mod_eq_of_lt inside']
      simp only [writeCell, readCell, Ram.readWrite, same, VideoCell.palette.injEq,
        VideoCell.stored]

theorem writeCellStores {value : UInt8} {cell : VideoCell} (inside : cell.Inside)
    (taken : cell.takes video.cart = true) :
    video.Stores value cell (video.writeCell value cell).2 := by
  cases cell with
  | pattern addr => exact video.writePatternStores value taken inside
  | nametable bank offset => exact video.writeNametableStores value inside
  | palette cell => exact video.writePaletteStores value inside

theorem writeVramLost {video : Video} {addr : UInt16} (lost : video.accepts addr = false)
    (value : UInt8) : (video.writeVram addr value).2 = video := by
  rw [acceptsCell] at lost
  exact video.writeCellLost lost

theorem writeVramStores {video : Video} {addr : UInt16} (taken : video.accepts addr = true)
    (value : UInt8) :
    video.Stores value (.ofAddress video.ppu.mirroring addr) (video.writeVram addr value).2 := by
  rw [acceptsCell] at taken
  exact video.writeCellStores (VideoCell.ofAddressInside _ addr) taken

theorem readWriteVram (a : UInt16) (value : UInt8) (b : UInt16) :
    (video.writeVram a value).2.readVram b =
      if video.accepts a && decide (Aliases video.ppu.mirroring a b) then stored b value
      else video.readVram b := by
  cases taken : video.accepts a with
  | false => rw [writeVramLost taken, Bool.false_and, if_neg Bool.false_ne_true]
  | true =>
    have stores := writeVramStores taken value
    have found := stores.reads _ (VideoCell.ofAddressInside video.ppu.mirroring b)
    rw [Bool.true_and, readVram, stores.mirroring, found]
    by_cases shared : Aliases video.ppu.mirroring a b
    · have same := (aliasesCell video.ppu.mirroring a b).mp shared
      rw [if_pos same, if_pos (decide_eq_true shared), same, storedCell]
    · have apart := (not_congr (aliasesCell video.ppu.mirroring a b)).mp shared
      rw [if_neg apart, if_neg (by simpa using shared)]
      rfl

theorem writeVramPlaces (a : UInt16) (value : UInt8) :
    (video.writeVram a value).2.ppu.mirroring = video.ppu.mirroring ∧
      (video.writeVram a value).2.accepts = video.accepts := by
  cases taken : video.accepts a with
  | false => rw [writeVramLost taken]; exact ⟨rfl, rfl⟩
  | true =>
    have stores := writeVramStores taken value
    refine ⟨stores.mirroring, ?_⟩
    funext addr
    simp only [accepts, stores.board]

theorem lastWrittenCons (b : UInt16) (write : UInt16 × UInt8) (rest : List (UInt16 × UInt8)) :
    video.lastWritten b (write :: rest) =
      (video.lastWritten b rest).or
        (if video.accepts write.1 && decide (Aliases video.ppu.mirroring write.1 b) then
          some write.2 else none) := by
  unfold lastWritten
  rw [List.filter_cons]
  split
  · rw [List.getLast?_cons]
    cases (List.filter _ rest).getLast? <;> rfl
  · rw [Option.or_none]

theorem readWriteAll (b : UInt16) (writes : List (UInt16 × UInt8)) :
    (video.writeAll writes).readVram b =
      ((video.lastWritten b writes).map (stored b)).getD (video.readVram b) := by
  induction writes generalizing video with
  | nil => rfl
  | cons write rest ih =>
    obtain ⟨mirroring, accepted⟩ := video.writeVramPlaces write.1 write.2
    have places : (video.writeVram write.1 write.2).2.lastWritten b rest =
        video.lastWritten b rest := by
      unfold lastWritten
      rw [mirroring, accepted]
    rw [writeAll, List.foldl_cons, ← writeAll, ih, places, lastWrittenCons, readWriteVram]
    cases video.lastWritten b rest with
    | some value => rfl
    | none =>
      rw [Option.none_or]
      split <;> rfl

theorem writeAllAccepts (writes : List (UInt16 × UInt8)) :
    (video.writeAll writes).accepts = video.accepts := by
  induction writes generalizing video with
  | nil => rfl
  | cons write rest ih =>
    rw [writeAll, List.foldl_cons, ← writeAll, ih]
    exact (video.writeVramPlaces write.1 write.2).2

theorem acceptsNot (a : UInt16) (value : UInt8) :
    video.accepts a = false ↔
      (a.toNat % 0x4000 < 0x2000 ∧ video.cart = none) ∨
        (video.writeVram a value).1.isSome = true := by
  unfold accepts writeVram
  rw [VideoCell.ofAddressRegions]
  split
  · rename_i low
    have inside : a % 0x4000 < 0x2000 := by
      rw [UInt16.lt_iff_toNat_lt, UInt16.toNat_mod]
      exact low
    cases inserted : video.cart with
    | none => simp [low]
    | some cart =>
      have fault := video.writePatternFault inserted inside value
      rw [writeCell, fault]
      cases ram : cart.chr.isRam <;> simp [ram]
  · split <;> simp [writeCell, *]

/-- After any writes an address reads as the last byte that was taken under an address of the same
cell, and as before when there is none. A byte is not taken if the board rejects it or if there is
no board, and then nothing changes. -/
theorem lastWriterWins (writes : List (UInt16 × UInt8)) (b : UInt16) :
    (video.writeAll writes).readVram b =
        ((video.lastWritten b writes).map (stored b)).getD (video.readVram b) ∧
      ∀ (before : List (UInt16 × UInt8)) (a : UInt16) (value : UInt8),
        let now := video.writeAll before
        (video.accepts a = false ↔
          (a.toNat % 0x4000 < 0x2000 ∧ now.cart = none) ∨
            (now.writeVram a value).1.isSome = true) ∧
          (video.accepts a = false → (now.writeVram a value).2 = now) := by
  refine ⟨video.readWriteAll b writes, ?_⟩
  intro before a value now
  have accepted : now.accepts = video.accepts := video.writeAllAccepts before
  rw [← accepted]
  exact ⟨now.acceptsNot a value, fun lost => writeVramLost lost value⟩

def fixedVideo : Video where
  cart := some {
    prg := #[], chr := .rom #[], prgBanks := 1, chrBanks := 1, mapper := 0
    mirroring := .horizontal }

theorem lastWriterWinsFixed :
    let writes := [(0x2405, 7), (0x3805, 8), (0x7F14, 0xC1), (0x0005, 9)]
    (fixedVideo.writeAll writes).readVram 0x3005 = 7 ∧
      (fixedVideo.writeAll writes).readVram 0x3F04 = 1 ∧
      ((fixedVideo.writeAll writes).writeVram 0x0005 9).2 = fixedVideo.writeAll writes := by
  intro writes
  have table := (fixedVideo.lastWriterWins writes 0x3005).1
  have entry := (fixedVideo.lastWriterWins writes 0x3F04).1
  have last : fixedVideo.lastWritten 0x3005 writes = some 7 := by decide +kernel
  have last' : fixedVideo.lastWritten 0x3F04 writes = some 0xC1 := by decide +kernel
  rw [last] at table
  rw [last'] at entry
  have lost := (fixedVideo.lastWriterWins writes 0).2 writes 0x0005 9
  exact ⟨table, entry, lost.2 (by decide +kernel)⟩

end Video

end Nes
