import Mathlib.Data.List.Induction
import Nes.Proofs.Video.Aliasing
import Nes.Proofs.Video.ScrollFields

/-! Video memory through the data register. Every access moves the address on by one step, so a
program writes and reads rows of places. Below the palette a read gives the byte of the read before
it. -/
namespace Nes.Video

def setAddress (video : Video) (start : Nat) : Video :=
  Device.write 0x2006 (lowByte (.ofNat start))
    (Device.write 0x2006 (highByte (.ofNat start)) video)

def upload (video : Video) (bytes : List UInt8) : Video :=
  bytes.foldl (fun video value => Device.write 0x2007 value video) video

def afterReads (video : Video) : Nat → Video
  | 0 => video
  | n + 1 => (Device.read 0x2007 (video.afterReads n)).2

def dataRead (video : Video) (n : Nat) : UInt8 :=
  (Device.read 0x2007 (video.afterReads n)).1

def download (video : Video) (n : Nat) : List UInt8 :=
  (List.range n).map video.dataRead

def loaded (video : Video) (start : Nat) (bytes : List UInt8) : Video :=
  ((video.setAddress start).upload bytes).setAddress start

def increment (video : Video) : Nat :=
  if testBit video.ppu.ctrl 2 then 32 else 1

def rowPlace (video : Video) (start i : Nat) : UInt16 :=
  .ofNat (start + i * video.increment)

def place (video : Video) (k : Nat) : UInt16 :=
  video.rowPlace video.ppu.scroll.v.toNat k

def InPalette (addr : UInt16) : Prop :=
  0x3F00 ≤ addr.toNat % 0x4000

instance (addr : UInt16) : Decidable (InPalette addr) :=
  inferInstanceAs (Decidable (_ ≤ _))

def Separate (video : Video) (start count : Nat) : Prop :=
  ∀ j < count, video.accepts (video.rowPlace start j) = true ∧
    ∀ i < j, ¬Aliases video.ppu.mirroring (video.rowPlace start i) (video.rowPlace start j)

instance (video : Video) (start count : Nat) : Decidable (video.Separate start count) :=
  inferInstanceAs (Decidable (∀ j < count, _ ∧ ∀ i < j, ¬_))

theorem storedPalette {addr : UInt16} (palette : InPalette addr) (value : UInt8) :
    stored addr value = value &&& 0x3F :=
  if_pos palette

theorem storedBelow {addr : UInt16} (below : ¬InPalette addr) (value : UInt8) :
    stored addr value = value :=
  if_neg below

section
variable {a b : UInt16} (same : a.toNat % 0x4000 = b.toNat % 0x4000)
include same

theorem cellSame (mirroring : Mirroring) :
    VideoCell.ofAddress mirroring a = VideoCell.ofAddress mirroring b := by
  have masked : a % 0x4000 = b % 0x4000 := by
    apply UInt16.toNat_inj.mp
    rw [UInt16.toNat_mod, UInt16.toNat_mod]
    exact same
  unfold VideoCell.ofAddress
  rw [masked]

theorem readVramSame (video : Video) : video.readVram a = video.readVram b := by
  rw [readVram, readVram, cellSame same]

theorem aliasesSame (mirroring : Mirroring) (c : UInt16) :
    Aliases mirroring a c ↔ Aliases mirroring b c := by
  rw [aliasesCell, aliasesCell, cellSame same]

theorem acceptsSame (video : Video) : video.accepts a = video.accepts b := by
  unfold accepts
  rw [same]

end

theorem stepIncrement (video : Video) : video.ppu.step.toNat = video.increment := by
  unfold Ppu.step increment
  split <;> rfl

theorem toNatRowPlace (video : Video) (start i : Nat) :
    (video.rowPlace start i).toNat = (start + i * video.increment) % 0x10000 :=
  UInt16.toNat_ofNat'

structure Advanced (video : Video) (k : Nat) (video' : Video) : Prop where
  address : video'.ppu.scroll.v.toNat % 0x4000 = (video.place k).toNat % 0x4000
  increment : video'.increment = video.increment
  second : video'.ppu.scroll.second = video.ppu.scroll.second
  mirroring : video'.ppu.mirroring = video.ppu.mirroring
  accepts : video'.accepts = video.accepts

theorem advanceAddress (video : Video) :
    video.ppu.advance.scroll.v.toNat =
      (video.ppu.scroll.v.toNat + video.increment) % 0x8000 := by
  have moved : video.ppu.advance.scroll.v.toNat =
      (video.ppu.scroll.v.toNat + video.increment) % 0x10000 % 0x8000 := by
    rw [← stepIncrement, ← UInt16.toNat_add]
    exact UInt16.toNat_mod _ _
  rw [moved]
  exact Nat.mod_mod_of_dvd _ (by decide)

def bufferPlace (addr : UInt16) : UInt16 :=
  if InPalette addr then addr - 0x1000 else addr

theorem readDataSettled (video : Video) :
    Device.read 0x2007 video =
      (if InPalette video.ppu.scroll.v then video.readVram video.ppu.scroll.v
        else video.ppu.readBuffer,
      { video with ppu := { video.ppu.advance with
          readBuffer := video.readVram (bufferPlace video.ppu.scroll.v)
          latch := if InPalette video.ppu.scroll.v then video.readVram video.ppu.scroll.v
            else video.ppu.readBuffer } }) := by
  have masked : (video.ppu.scroll.v % 0x4000).toNat = video.ppu.scroll.v.toNat % 0x4000 :=
    UInt16.toNat_mod _ _
  have below : video.ppu.scroll.v % 0x4000 < 0x3F00 ↔ ¬InPalette video.ppu.scroll.v := by
    rw [UInt16.lt_iff_toNat_lt, masked, InPalette, Nat.not_le]
    rfl
  have whole : video.readVram (video.ppu.scroll.v % 0x4000) = video.readVram video.ppu.scroll.v :=
    readVramSame (by rw [masked, Nat.mod_mod]) video
  simp only [Device.read, readRegister, UInt16.reduceToNat, Nat.reduceMod, readData, latched, below,
    bufferPlace, whole]
  by_cases palette : InPalette video.ppu.scroll.v
  · have under : video.readVram (video.ppu.scroll.v % 0x4000 - 0x1000) =
        video.readVram (video.ppu.scroll.v - 0x1000) := by
      apply readVramSame
      unfold InPalette at palette
      rw [UInt16.toNat_sub, UInt16.toNat_sub, masked]
      simp only [UInt16.reduceToNat]
      omega
    simp only [palette, not_true_eq_false, if_false, if_true, under]
    rfl
  · simp only [palette, not_false_eq_true, if_true, if_false]
    rfl

theorem placeZero (video : Video) : video.place 0 = video.ppu.scroll.v := by
  apply UInt16.toNat_inj.mp
  rw [place, toNatRowPlace, Nat.zero_mul]
  exact Nat.mod_eq_of_lt video.ppu.scroll.v.toNat_lt

theorem advancedOnce {video video' : Video}
    (address : video'.ppu.scroll.v = video.ppu.advance.scroll.v)
    (increment : video'.increment = video.increment)
    (second : video'.ppu.scroll.second = video.ppu.scroll.second)
    (mirroring : video'.ppu.mirroring = video.ppu.mirroring)
    (accepts : video'.accepts = video.accepts) : video.Advanced 1 video' where
  address := by
    rw [address, advanceAddress, place, toNatRowPlace, Nat.one_mul]
    omega
  increment := increment
  second := second
  mirroring := mirroring
  accepts := accepts

theorem Advanced.refl (video : Video) : video.Advanced 0 video where
  address := by rw [placeZero]
  increment := rfl
  second := rfl
  mirroring := rfl
  accepts := rfl

theorem Advanced.place {video video' : Video} {k : Nat} (moved : video.Advanced k video')
    (j : Nat) : (video'.place j).toNat % 0x4000 = (video.place (k + j)).toNat % 0x4000 := by
  have address := moved.address
  rw [Video.place, toNatRowPlace] at address
  rw [Video.place, Video.place, toNatRowPlace, toNatRowPlace, moved.increment, Nat.add_mul]
  omega

theorem Advanced.trans {video video' video'' : Video} {j k : Nat} (first : video.Advanced j video')
    (rest : video'.Advanced k video'') : video.Advanced (j + k) video'' where
  address := rest.address.trans (first.place k)
  increment := rest.increment.trans first.increment
  second := rest.second.trans first.second
  mirroring := rest.mirroring.trans first.mirroring
  accepts := rest.accepts.trans first.accepts

theorem readAdvanced (video : Video) : video.Advanced 1 (Device.read 0x2007 video).2 := by
  rw [readDataSettled]
  exact advancedOnce rfl rfl rfl rfl rfl

theorem writeDataSettled (video : Video) (value : UInt8) :
    Device.write 0x2007 value video =
      (writeVram { video with ppu := { video.ppu.advance with latch := value } }
        video.ppu.scroll.v value).2 :=
  congrArg Prod.snd (video.writeRegisterData rfl value)

theorem writeDataScroll (video : Video) (value : UInt8) :
    (Device.write 0x2007 value video).ppu.scroll = video.ppu.advance.scroll ∧
      (Device.write 0x2007 value video).ppu.ctrl = video.ppu.ctrl := by
  rw [writeDataSettled]
  exact writeVramScroll { video with ppu := { video.ppu.advance with latch := value } }
    video.ppu.scroll.v value

theorem writeAdvanced (video : Video) (value : UInt8) :
    video.Advanced 1 (Device.write 0x2007 value video) := by
  obtain ⟨scroll, ctrl⟩ := video.writeDataScroll value
  obtain ⟨mirroring, accepts⟩ := writeVramPlaces
    { video with ppu := { video.ppu.advance with latch := value } } video.ppu.scroll.v value
  rw [← writeDataSettled] at mirroring accepts
  have same : (Device.write 0x2007 value video).increment = video.increment := by
    rw [increment, ctrl, increment]
  exact advancedOnce (by rw [scroll]) same (by rw [scroll]; rfl) mirroring accepts

theorem writeReadVram (video : Video) (value : UInt8) (b : UInt16) :
    readVram (Device.write 0x2007 value video) b =
      if video.accepts (video.place 0) ∧ Aliases video.ppu.mirroring (video.place 0) b then
        stored b value
      else video.readVram b := by
  rw [writeDataSettled, readWriteVram, placeZero]
  simp only [Bool.and_eq_true, decide_eq_true_eq]
  rfl

theorem writeBuffer (video : Video) (value : UInt8) :
    (Device.write 0x2007 value video).ppu.readBuffer = video.ppu.readBuffer := by
  rw [writeDataSettled]
  obtain ⟨nametables, palette, tiles, cart, same, -⟩ := writeVramParts
    { video with ppu := { video.ppu.advance with latch := value } } video.ppu.scroll.v value
  rw [same]
  rfl

theorem readsAdvanced (video : Video) (n : Nat) : video.Advanced n (video.afterReads n) := by
  induction n with
  | zero => exact .refl video
  | succ n ih => exact ih.trans (video.afterReads n).readAdvanced

theorem readsMemory (video : Video) (n : Nat) : (video.afterReads n).readVram = video.readVram := by
  induction n with
  | zero => rfl
  | succ n ih =>
    rw [afterReads, readDataSettled]
    exact ih

theorem paletteSame {a b : UInt16} (same : a.toNat % 0x4000 = b.toNat % 0x4000) :
    InPalette a ↔ InPalette b := by
  rw [InPalette, InPalette, same]

theorem bufferSame {a b : UInt16} (same : a.toNat % 0x4000 = b.toNat % 0x4000) (video : Video) :
    video.readVram (bufferPlace a) = video.readVram (bufferPlace b) := by
  apply readVramSame
  unfold bufferPlace
  simp only [paletteSame same]
  split
  · rw [UInt16.toNat_sub, UInt16.toNat_sub]
    simp only [UInt16.reduceToNat]
    omega
  · exact same

theorem bufferAfterRead (video : Video) (k : Nat) :
    (video.afterReads (k + 1)).ppu.readBuffer = video.readVram (bufferPlace (video.place k)) := by
  have buffered : (video.afterReads (k + 1)).ppu.readBuffer =
      (video.afterReads k).readVram (bufferPlace (video.afterReads k).ppu.scroll.v) := by
    rw [afterReads, readDataSettled]
  rw [buffered, readsMemory, bufferSame (video.readsAdvanced k).address]

theorem dataReadSettled (video : Video) (k : Nat) :
    video.dataRead k =
      if InPalette (video.place k) then video.readVram (video.place k)
      else (video.afterReads k).ppu.readBuffer := by
  have address := (video.readsAdvanced k).address
  rw [dataRead, readDataSettled, readsMemory, readVramSame address]
  simp only [paletteSame address]

theorem dataReadBuffered (video : Video) {k : Nat} (before : ¬InPalette (video.place k))
    (below : ¬InPalette (video.place (k + 1))) :
    video.dataRead (k + 1) = video.readVram (video.place k) := by
  rw [dataReadSettled, if_neg below, bufferAfterRead, bufferPlace, if_neg before]

theorem uploadAppend (video : Video) (bytes : List UInt8) (value : UInt8) :
    video.upload (bytes ++ [value]) = Device.write 0x2007 value (video.upload bytes) := by
  rw [upload, List.foldl_append]
  rfl

theorem uploadAdvanced (video : Video) (bytes : List UInt8) :
    video.Advanced bytes.length (video.upload bytes) := by
  induction bytes using List.reverseRecOn with
  | nil => exact .refl video
  | append_singleton bytes value ih =>
    rw [uploadAppend, List.length_append]
    exact ih.trans ((video.upload bytes).writeAdvanced value)

theorem uploadBuffer (video : Video) (bytes : List UInt8) :
    (video.upload bytes).ppu.readBuffer = video.ppu.readBuffer := by
  induction bytes using List.reverseRecOn with
  | nil => rfl
  | append_singleton bytes value ih => rw [uploadAppend, writeBuffer, ih]

theorem uploadAppendRead (video : Video) (bytes : List UInt8) (value : UInt8) (b : UInt16) :
    (video.upload (bytes ++ [value])).readVram b =
      if video.accepts (video.place bytes.length) ∧
          Aliases video.ppu.mirroring (video.place bytes.length) b then stored b value
      else (video.upload bytes).readVram b := by
  have moved := video.uploadAdvanced bytes
  have here := moved.place 0
  rw [uploadAppend, writeReadVram, moved.accepts, moved.mirroring, acceptsSame here]
  simp only [aliasesSame here, Nat.add_zero]

theorem Separate.shorter {video : Video} {start count : Nat}
    (separate : video.Separate start (count + 1)) : video.Separate start count :=
  fun j inside => separate j (by omega)

theorem aliasesSelf (mirroring : Mirroring) (a : UInt16) : Aliases mirroring a a :=
  (aliasesCell mirroring a a).mpr rfl

theorem uploadRead (video : Video) (bytes : List UInt8)
    (separate : video.Separate video.ppu.scroll.v.toNat bytes.length) (i : Nat)
    (inside : i < bytes.length) :
    (video.upload bytes).readVram (video.place i) = stored (video.place i) bytes[i] := by
  induction bytes using List.reverseRecOn with
  | nil => cases inside
  | append_singleton bytes value ih =>
    rw [List.length_append, List.length_singleton] at separate inside
    rw [uploadAppendRead]
    obtain ⟨taken, apart⟩ := separate bytes.length (by omega)
    by_cases last : i = bytes.length
    · subst last
      rw [if_pos ⟨taken, aliasesSelf _ _⟩, List.getElem_concat_length rfl]
    · have earlier : i < bytes.length := by omega
      have other : ¬Aliases video.ppu.mirroring (video.place bytes.length) (video.place i) := by
        rw [aliasesCell]
        exact fun equal => apart i earlier ((aliasesCell _ _ _).mpr equal.symm)
      rw [if_neg fun both => other both.2, ih separate.shorter earlier,
        List.getElem_append_left earlier]

theorem writeAddressTwice (s : ScrollLatch) (clear : s.second = false) {start : Nat}
    (inside : start < 0x4000) :
    let set := (s.writeAddress (highByte (.ofNat start))).writeAddress (lowByte (.ofNat start))
    set.v.toNat = start ∧ set.second = false := by
  intro set
  have whole : (UInt16.ofNat start).toNat = start := by
    rw [UInt16.toNat_ofNat']
    exact Nat.mod_eq_of_lt (by omega)
  have high : (highByte (.ofNat start)).toNat = start / 0x100 := by
    rw [highByte, whole, UInt8.toNat_ofNat']
    exact Nat.mod_eq_of_lt (by omega)
  have low : (lowByte (.ofNat start)).toNat = start % 0x100 := by
    rw [lowByte, whole, UInt8.toNat_ofNat']
  have first := toNatWithField s.t (show 8 + 8 ≤ 16 by decide) (start / 0x100 % 64)
  have last := toNatWithField (withField s.t 8 8 (start / 0x100 % 64))
    (show 0 + 8 ≤ 16 by decide) (start % 0x100)
  simp only [weight, Nat.reduceAdd, Nat.reduceShiftLeft] at first last
  rw [first] at last
  have t := s.t.toNat_lt
  simp only [set, ScrollLatch.writeAddress, clear, high, low, Bool.false_eq_true, if_false, if_true,
    and_true]
  omega

structure At (video : Video) (start : Nat) (video' : Video) : Prop where
  address : video'.ppu.scroll.v.toNat = start
  second : video'.ppu.scroll.second = false
  increment : video'.increment = video.increment
  buffer : video'.ppu.readBuffer = video.ppu.readBuffer
  memory : video'.readVram = video.readVram
  separate : ∀ count, video.Separate start count → video'.Separate start count

theorem setAddressAt {video : Video} (clear : video.ppu.scroll.second = false) {start : Nat}
    (inside : start < 0x4000) : video.At start (video.setAddress start) := by
  obtain ⟨address, second⟩ := writeAddressTwice video.ppu.scroll clear inside
  exact ⟨address, second, rfl, rfl, rfl, fun _ separate => separate⟩

theorem At.place {video video' : Video} {start : Nat} (set : video.At start video') (i : Nat) :
    video'.place i = video.rowPlace start i := by
  rw [Video.place, rowPlace, rowPlace, set.address, set.increment]

structure Holds (video : Video) (start : Nat) (bytes : List UInt8) (video' : Video) : Prop where
  place : ∀ i, video'.place i = video.rowPlace start i
  buffer : video'.ppu.readBuffer = video.ppu.readBuffer
  memory : ∀ i (inside : i < bytes.length), video'.readVram (video'.place i) =
    stored (video'.place i) bytes[i]

theorem loadedHolds {video : Video} (clear : video.ppu.scroll.second = false) {start : Nat}
    (inside : start < 0x4000) {bytes : List UInt8} (separate : video.Separate start bytes.length) :
    video.Holds start bytes (video.loaded start bytes) := by
  have set := setAddressAt clear inside
  have moved := (video.setAddress start).uploadAdvanced bytes
  have again := setAddressAt (moved.second.trans set.second) inside
  have place (i : Nat) : (video.loaded start bytes).place i = video.rowPlace start i := by
    rw [loaded, again.place, rowPlace, rowPlace, moved.increment, set.increment]
  refine ⟨place, ?_, ?_⟩
  · exact again.buffer.trans (((video.setAddress start).uploadBuffer bytes).trans set.buffer)
  · intro i inside
    have written := (video.setAddress start).uploadRead bytes
      (by rw [set.address]; exact set.separate _ separate) i inside
    rw [set.place] at written
    rw [place, loaded, again.memory, written]

theorem toNatPlace (video : Video) {start i : Nat}
    (inside : start + i * video.increment < 0x4000) :
    (video.rowPlace start i).toNat % 0x4000 = start + i * video.increment := by
  rw [toNatRowPlace]
  omega

theorem loadedDownload {video : Video} (clear : video.ppu.scroll.second = false) {start : Nat}
    {bytes : List UInt8} (below : start + bytes.length * video.increment < 0x3F00)
    (separate : video.Separate start bytes.length) :
    (video.loaded start bytes).download (bytes.length + 1) = video.ppu.readBuffer :: bytes := by
  have holds := loadedHolds clear (by omega) separate
  have low (i : Nat) (inside : i ≤ bytes.length) :
      ¬InPalette ((video.loaded start bytes).place i) := by
    have earlier := Nat.mul_le_mul_right video.increment inside
    rw [holds.place, InPalette, video.toNatPlace (by omega)]
    omega
  rw [download, List.range_succ_eq_map, List.map_cons, List.map_map]
  congr 1
  · rw [dataReadSettled, if_neg (low 0 (Nat.zero_le _))]
    exact holds.buffer
  · apply List.ext_getElem (by simp)
    intro i _ inside
    rw [List.getElem_map, List.getElem_range, Function.comp_apply,
      dataReadBuffered _ (low i (by omega)) (low (i + 1) inside), holds.memory i inside,
      storedBelow (low i (by omega))]

theorem loadedDownloadPalette {video : Video} (clear : video.ppu.scroll.second = false)
    {start : Nat} {bytes : List UInt8} (palette : 0x3F00 ≤ start)
    (inside : ∀ i < bytes.length, start + i * video.increment < 0x4000)
    (separate : video.Separate start bytes.length) :
    (video.loaded start bytes).download bytes.length = bytes.map (· &&& 0x3F) := by
  apply List.ext_getElem (by simp [download])
  intro i _ here
  rw [List.length_map] at here
  have first := inside 0 (by omega)
  have holds := loadedHolds clear (by omega) separate
  have high : InPalette ((video.loaded start bytes).place i) := by
    rw [holds.place, InPalette, video.toNatPlace (inside i here)]
    omega
  simp only [download, List.getElem_map, List.getElem_range]
  rw [dataReadSettled, if_pos high, holds.memory i here, storedPalette high]

/-- A row of places of which no two are one cell reads back as it was written, after the read that
empties the buffer; in the palette at once, with six bits. In general a read below the palette
gives the byte at the place before it, and one in the palette its own byte, with the nametable byte
underneath left for a later one. Every access moves the address on, also one with a byte that the
board rejects. -/
theorem dataPort {video : Video} (clear : video.ppu.scroll.second = false) :
    let step : Nat := if testBit video.ppu.ctrl 2 then 32 else 1
    (∀ (start : Nat) (bytes : List UInt8), video.Separate start bytes.length →
      (start + bytes.length * step ≤ 0x3EFF →
        (video.loaded start bytes).download (bytes.length + 1) = video.ppu.readBuffer :: bytes) ∧
      (0x3F00 ≤ start → (∀ i < bytes.length, start + i * step < 0x4000) →
        (video.loaded start bytes).download bytes.length = bytes.map (· &&& 0x3F))) ∧
    ∀ now : Video,
      (∀ k, ¬InPalette (now.place k) → ¬InPalette (now.place (k + 1)) →
        now.dataRead (k + 1) = now.readVram (now.place k)) ∧
      (∀ k, InPalette (now.place k) →
        now.dataRead k = now.readVram (now.place k) ∧
        (now.afterReads (k + 1)).ppu.readBuffer = now.readVram (now.place k - 0x1000)) ∧
      let next := (now.ppu.scroll.v.toNat + if testBit now.ppu.ctrl 2 then 32 else 1) % 0x8000
      (now.readRegister 0x2007).2.ppu.scroll.v.toNat = next ∧
        ∀ value, (now.writeRegister 0x2007 value).2.ppu.scroll.v.toNat = next := by
  intro step
  refine ⟨fun start bytes separate => ⟨?_, ?_⟩, fun now => ⟨?_, ?_, ?_, ?_⟩⟩
  · intro below
    exact loadedDownload clear (Nat.lt_succ_of_le below) separate
  · intro palette inside
    exact loadedDownloadPalette clear palette inside separate
  · exact fun k before below => now.dataReadBuffered before below
  · intro k palette
    rw [dataReadSettled, if_pos palette, bufferAfterRead, bufferPlace, if_pos palette]
    exact ⟨rfl, rfl⟩
  · refine Eq.trans ?_ now.advanceAddress
    exact congrArg (fun settled : UInt8 × Video => settled.2.ppu.scroll.v.toNat)
      now.readDataSettled
  · intro value
    refine Eq.trans ?_ now.advanceAddress
    exact congrArg (fun scroll : ScrollLatch => scroll.v.toNat) (now.writeDataScroll value).1

def writableVideo : Video where
  cart := some {
    prg := #[], chr := .ram (.filled 0x2000 0), prgBanks := 1, chrBanks := 0, mapper := 0
    mirroring := .horizontal }

-- A row that leaves the patterns for the tables, one whose last entry is the first of the palette,
-- and a column that leaves one table for the next.
theorem dataPortRegions :
    let columns := { writableVideo with ppu := { writableVideo.ppu with ctrl := 0x04 } }
    (writableVideo.loaded 0x1FFE [9, 8, 7, 6]).download 5 = [0, 9, 8, 7, 6] ∧
      (writableVideo.loaded 0x3F0E [0xFF, 0x41, 0x02]).download 3 = [0x3F, 0x01, 0x02] ∧
      (columns.loaded 0x23E1 [9, 8, 7]).download 4 = [0, 9, 8, 7] ∧
      (columns.writeRegister 0x2007 5).2.ppu.scroll.v = 32 := by
  intro columns
  obtain ⟨rows, -⟩ := @dataPort writableVideo rfl
  have patterns := (rows 0x1FFE [9, 8, 7, 6] (by decide +kernel)).1 (by decide)
  have palette := (rows 0x3F0E [0xFF, 0x41, 0x02] (by decide +kernel)).2 (by decide) (by decide)
  obtain ⟨below, single⟩ := @dataPort columns rfl
  have tables := (below 0x23E1 [9, 8, 7] (by decide +kernel)).1 (by decide)
  obtain ⟨-, -, -, written⟩ := single columns
  exact ⟨patterns, palette, tables, UInt16.toNat_inj.mp ((written 5).trans (by decide +kernel))⟩

end Nes.Video
