import Nes.Proofs.Ppu.CheckedDrawing
import Nes.Proofs.Video.ScrollFields
import Nes.Proofs.Video.TileCache

/-! Access to video with every sum, difference, shift and index checked: the registers of the
picture unit, its address space, and the tiles that it keeps of the cartridge. -/
namespace Nes
open Width

def field? (w : UInt16) (low size : Nat) : Option Nat :=
  (bits16.shiftRight w.toNat low).map (· % weight size)

def withField? (w : UInt16) (low size value : Nat) : Option UInt16 := do
  let part ← bits16.shiftLeft (value % weight size) low
  return UInt16.ofNat
    (w.toNat / weight (low + size) * weight (low + size) + part + w.toNat % weight low)

theorem fieldChecked (w : UInt16) {low : Nat} (narrow : low < 16) (size : Nat) :
    field? w low size = some (field w low size) := by
  have power : weight low = 2 ^ low := Nat.one_shiftLeft low
  rw [field?, shiftRightSome narrow, Nat.shiftRight_eq_div_pow, field, power]
  rfl

theorem withFieldChecked (w : UInt16) {low size : Nat} (narrow : low < 16) (fits : low + size ≤ 16)
    (value : Nat) : withField? w low size value = some (withField w low size value) := by
  have power : weight low = 2 ^ low := Nat.one_shiftLeft low
  have part : (value % weight size) <<< low = value % weight size * weight low := by
    rw [Nat.shiftLeft_eq, power]
  have bound : value % weight size * weight low < bits16.limit := by
    have below := Nat.mul_lt_mul_of_pos_right (Nat.mod_lt value (weightPos size)) (weightPos low)
    have room : weight size * weight low ≤ bits16.limit := by
      rw [← weightAdd, weight, Nat.one_shiftLeft]
      exact Nat.pow_le_pow_right (by decide) (show size + low ≤ 16 by omega)
    exact Nat.lt_of_lt_of_le below room
  rw [withField?, shiftLeftSome narrow (part ▸ bound), part]
  rfl

namespace ScrollLatch
variable (s : ScrollLatch)

def selectNametable? (value : UInt8) : Option ScrollLatch :=
  (withField? s.t 10 2 value.toNat).map fun t => { s with t }

def settle? : Option ScrollLatch := do
  let coarseX ← field? s.t 0 5
  let coarseY ← field? s.t 5 5
  let fineY ← field? s.t 12 3
  let left ← bits16.shiftLeft coarseX 3
  let top ← bits16.shiftLeft coarseY 3
  return { s with x := left ||| s.fineX, y := top ||| fineY }

def writeScroll? (value : UInt8) : Option ScrollLatch := do
  let coarse ← bits8.shiftRight value.toNat 3
  if s.second then
    let rows ← withField? s.t 5 5 coarse
    let t ← withField? rows 12 3 value.toNat
    let written := { s with t, second := false }
    written.settle?
  else
    let t ← withField? s.t 0 5 coarse
    return { s with t, fineX := value.toNat % 8, second := true }

def writeAddress? (value : UInt8) : Option ScrollLatch := do
  if s.second then
    let t ← withField? s.t 0 8 value.toNat
    return { s with t, v := t, second := false }
  else
    let t ← withField? s.t 8 8 (value.toNat % 64)
    return { s with t, second := true }

theorem selectNametableChecked (value : UInt8) :
    s.selectNametable? value = some (s.selectNametable value) := by
  rw [selectNametable?, withFieldChecked s.t (by decide) (by decide)]
  rfl

theorem settleChecked (fine : s.fineX < 8) : s.settle? = some s.settle := by
  have column : field s.t 0 5 < 32 := Nat.mod_lt _ (by decide)
  have row : field s.t 5 5 < 32 := Nat.mod_lt _ (by decide)
  have fineY : field s.t 12 3 < 8 := Nat.mod_lt _ (by decide)
  have fits {n : Nat} (small : n < 32) : n <<< 3 < bits16.limit := by
    rw [Nat.shiftLeft_eq, limit]
    omega
  unfold settle?
  simp only [fieldChecked s.t (show 0 < 16 by decide), fieldChecked s.t (show 5 < 16 by decide),
    fieldChecked s.t (show 12 < 16 by decide), Option.bind_eq_bind, Option.bind_some,
    shiftLeftSome (show 3 < bits16.bits by decide) (fits column),
    shiftLeftSome (show 3 < bits16.bits by decide) (fits row)]
  rw [← Nat.shiftLeft_add_eq_or_of_lt fine, ← Nat.shiftLeft_add_eq_or_of_lt fineY,
    Nat.shiftLeft_eq, Nat.shiftLeft_eq, Nat.mul_comm _ (2 ^ 3), Nat.mul_comm _ (2 ^ 3)]
  rfl

theorem writeScrollChecked (fine : s.fineX < 8) (value : UInt8) :
    s.writeScroll? value = some (s.writeScroll value) := by
  unfold writeScroll? writeScroll
  rw [shiftRightSome (by decide), Nat.shiftRight_eq_div_pow]
  simp only [Option.bind_eq_bind, Option.bind_some]
  cases s.second with
  | true =>
    simp only [if_true]
    rw [withFieldChecked s.t (by decide) (by decide), Option.bind_some,
      withFieldChecked _ (by decide) (by decide), Option.bind_some]
    exact settleChecked _ fine
  | false =>
    simp only [Bool.false_eq_true, if_false]
    rw [withFieldChecked s.t (by decide) (by decide)]
    rfl

theorem writeAddressChecked (value : UInt8) :
    s.writeAddress? value = some (s.writeAddress value) := by
  unfold writeAddress? writeAddress
  cases s.second with
  | true =>
    simp only [if_true]
    rw [withFieldChecked s.t (by decide) (by decide)]
    rfl
  | false =>
    simp only [Bool.false_eq_true, if_false]
    rw [withFieldChecked s.t (by decide) (by decide)]
    rfl

end ScrollLatch

namespace ObjectMemory

def writeAll? (oam : ObjectMemory) (addr : UInt8) : List UInt8 → Option ObjectMemory
  | [] => some oam
  | value :: rest => do
    let oam ← oam.write? addr.toNat value
    writeAll? oam (addr + 1) rest

theorem writeAllChecked (oam : ObjectMemory) (addr : UInt8) (values : List UInt8) :
    writeAll? oam addr values = some (oam.writeAll addr.toNat values) := by
  induction values generalizing oam addr with
  | nil => rfl
  | cons value rest ih =>
    have next : (addr + 1).toNat % 0x100 = (addr.toNat + 1) % 0x100 := by
      rw [UInt8.toNat_add]
      exact Nat.mod_mod _ _
    rw [writeAll?, Ram.writeSome oam addr.toNat_lt, Option.bind_eq_bind, Option.bind_some, ih,
      Ram.writeAllMod _ next]
    rfl

end ObjectMemory

namespace Ppu
variable (ppu : Ppu)

def writeCtrl? (value : UInt8) : Option Ppu :=
  (ppu.scroll.selectNametable? value).map fun scroll => { ppu with ctrl := value, scroll }

def readOam? : Option UInt8 :=
  ppu.oam.read? ppu.oamAddr.toNat

def writeOam? (value : UInt8) : Option Ppu :=
  (ppu.oam.write? ppu.oamAddr.toNat value).map fun oam =>
    { ppu with oam, oamAddr := ppu.oamAddr + 1 }

def copyToOam? (bytes : List UInt8) : Option Ppu :=
  (ObjectMemory.writeAll? ppu.oam ppu.oamAddr (bytes.take 0x100)).map fun oam => { ppu with oam }

def writeScroll? (value : UInt8) : Option Ppu :=
  (ppu.scroll.writeScroll? value).map fun scroll => { ppu with scroll }

def writeAddress? (value : UInt8) : Option Ppu :=
  (ppu.scroll.writeAddress? value).map fun scroll => { ppu with scroll }

theorem writeCtrlChecked (value : UInt8) : ppu.writeCtrl? value = some (ppu.writeCtrl value) := by
  rw [writeCtrl?, ScrollLatch.selectNametableChecked]
  rfl

theorem readOamChecked : ppu.readOam? = some ppu.readOam :=
  Ram.readSome ppu.oam ppu.oamAddr.toNat_lt

theorem writeOamChecked (value : UInt8) : ppu.writeOam? value = some (ppu.writeOam value) := by
  rw [writeOam?, Ram.writeSome ppu.oam ppu.oamAddr.toNat_lt]
  rfl

theorem copyToOamChecked (bytes : List UInt8) :
    ppu.copyToOam? bytes = some (ppu.copyToOam bytes) := by
  rw [copyToOam?, ObjectMemory.writeAllChecked]
  rfl

theorem writeScrollChecked (fine : ppu.scroll.fineX < 8) (value : UInt8) :
    ppu.writeScroll? value = some (ppu.writeScroll value) := by
  rw [writeScroll?, ScrollLatch.writeScrollChecked _ fine]
  rfl

theorem writeAddressChecked (value : UInt8) :
    ppu.writeAddress? value = some (ppu.writeAddress value) := by
  rw [writeAddress?, ScrollLatch.writeAddressChecked]
  rfl

end Ppu

namespace Tiles

def decodePixel? (low high : UInt8) (base : Nat) (tiles : Array UInt8) (x : Nat) :
    Option (Array UInt8) := do
  let bit ← bits64.sub 7 x
  let lowBits ← bits8.shiftRight low.toNat bit
  let highBits ← bits8.shiftRight high.toNat bit
  let highBit ← bits8.shiftLeft (highBits % 2) 1
  let cell ← bits64.add base x
  put? tiles cell (UInt8.ofNat (highBit ||| lowBits % 2))

def decodeRow? (chr : UInt16 → UInt8) (tile row : Nat) (tiles : Array UInt8) :
    Option (Array UInt8) := do
  let addr ← bits64.mulAdd tile 16 row
  let next ← bits16.add (UInt16.ofNat addr).toNat 8
  let low := chr (UInt16.ofNat addr)
  let high := chr (UInt16.ofNat next)
  let inTile ← bits64.mul row 8
  let base ← bits64.mulAdd tile 64 inTile
  (List.range 8).foldlM (decodePixel? low high base) tiles

def decodeAll? (chr : UInt16 → UInt8) (tiles : Array UInt8) : Option (Array UInt8) :=
  sweep? 8 512 (fun row tile => decodeRow? chr tile row) tiles

theorem decodePixelChecked (low high : UInt8) {base x : Nat} (hx : x < 8)
    (inside : base + x < 0x8000) (tiles : Tiles) :
    decodePixel? low high base tiles.bytes x =
      some (tiles.write (base + x) (decode low high x)).bytes := by
  have lowBit : low.toNat / 2 ^ (7 - x) % 2 = (testBit low (7 - x)).toNat :=
    (Nat.toNat_testBit _ _).symm
  have highBit : high.toNat / 2 ^ (7 - x) % 2 = (testBit high (7 - x)).toNat :=
    (Nat.toNat_testBit _ _).symm
  have narrow : 7 - x < bits8.bits := by
    rw [bits]
    omega
  have pixel : UInt8.ofNat ((testBit high (7 - x)).toNat <<< 1 ||| (testBit low (7 - x)).toNat) =
      decode low high x := by
    unfold decode
    cases testBit low (7 - x) <;> cases testBit high (7 - x) <;> rfl
  have one : (testBit high (7 - x)).toNat <<< 1 < bits8.limit := by
    cases testBit high (7 - x) <;> decide
  unfold decodePixel?
  rw [subSome bits64 (show x ≤ 7 by omega)]
  simp only [Option.bind_eq_bind, Option.bind_some, shiftRightSome narrow,
    Nat.shiftRight_eq_div_pow, lowBit, highBit]
  rw [shiftLeftSome (by decide) one, Option.bind_some, addIndex (by omega), Option.bind_some, pixel]
  exact Ram.putBytes tiles inside _

theorem decodeRowChecked (chr : UInt16 → UInt8) {tile row : Nat} (ht : tile < 512) (hr : row < 8)
    (tiles : Tiles) :
    decodeRow? chr tile row tiles.bytes = some (tiles.refresh chr tile row).bytes := by
  obtain ⟨low, high⟩ := toNatRowAddress ht hr
  have first : UInt16.ofNat (tile * 16 + row) = rowAddress tile row := by
    rw [Nat.mul_comm]
    rfl
  have second : UInt16.ofNat (16 * tile + row + 8) = rowAddress tile row + 8 := by
    rw [← high, UInt16.ofNat_toNat]
  have base : tile * 64 + row * 8 = 64 * tile + 8 * row := by omega
  have pixel (x : Nat) (inRow : x ∈ List.range 8) (tiles : Tiles) :=
    decodePixelChecked (chr (rowAddress tile row)) (chr (rowAddress tile row + 8))
      (List.mem_range.mp inRow)
      (show 64 * tile + 8 * row + x < 0x8000 by have := List.mem_range.mp inRow; omega) tiles
  unfold decodeRow? refresh
  rw [mulAddIndex (by omega), Option.bind_eq_bind, Option.bind_some, first, low,
    addSome (by rw [limit]; omega), Option.bind_some, second, mulIndex (by omega),
    Option.bind_some, mulAddIndex (by omega), Option.bind_some, base, Ram.writeAllRange]
  exact followEach Ram.bytes pixel tiles

def Decoded (chr : UInt16 → UInt8) (tile row : Nat) (tiles : Tiles) : Prop :=
  ∀ x < 8, tiles.pixel tile x row =
    decode (chr (rowAddress tile row)) (chr (rowAddress tile row + 8)) x

theorem refreshMakes (chr : UInt16 → UInt8) {tile row : Nat} (ht : tile < 512) (hr : row < 8)
    (tiles : Tiles) : Decoded chr tile row (tiles.refresh chr tile row) := by
  intro x hx
  rw [pixelRefresh tiles chr ht hr ht hx hr, if_pos ⟨rfl, rfl⟩]

theorem refreshKeeps {chr : UInt16 → UInt8} {tile row tile' row' : Nat} (ht : tile < 512)
    (hr : row < 8) (ht' : tile' < 512) (hr' : row' < 8) {tiles : Tiles}
    (now : Decoded chr tile' row' tiles) : Decoded chr tile' row' (tiles.refresh chr tile row) := by
  intro x hx
  rw [pixelRefresh tiles chr ht hr ht' hx hr']
  split
  · next same =>
    obtain ⟨rfl, rfl⟩ := same
    rfl
  · exact now x hx

def refreshTile (chr : UInt16 → UInt8) (tiles : Tiles) (tile : Nat) : Tiles :=
  (List.range 8).foldl (fun tiles row => tiles.refresh chr tile row) tiles

theorem refreshTileMakes (chr : UInt16 → UInt8) {tile : Nat} (ht : tile < 512) (tiles : Tiles) :
    ∀ row ∈ List.range 8, Decoded chr tile row (refreshTile chr tiles tile) := by
  refine foldlReaches (Decoded chr tile) (fun row inTile tiles => ?_)
    (fun row inTile row' inTile' tiles now => ?_) tiles
  · exact refreshMakes chr ht (List.mem_range.mp inTile) tiles
  · exact refreshKeeps ht (List.mem_range.mp inTile) ht (List.mem_range.mp inTile') now

theorem refreshTileKeeps {chr : UInt16 → UInt8} {tile tile' row : Nat} (ht : tile < 512)
    (ht' : tile' < 512) (hr : row < 8) {tiles : Tiles} (now : Decoded chr tile' row tiles) :
    Decoded chr tile' row (refreshTile chr tiles tile) := by
  refine List.foldlRecOn (List.range 8) _ now fun tiles now row' inTile => ?_
  exact refreshKeeps ht (List.mem_range.mp inTile) ht' hr now

theorem refreshTiles (chr : UInt16 → UInt8) (tiles : Tiles) :
    (List.range 512).foldl (refreshTile chr) tiles = ofChr chr := by
  have all := foldlReaches
    (fun tile tiles => ∀ row ∈ List.range 8, Decoded chr tile row tiles)
    (fun tile inTable tiles => refreshTileMakes chr (List.mem_range.mp inTable) tiles)
    (fun tile inTable tile' inTable' tiles now row inTile => refreshTileKeeps
      (List.mem_range.mp inTable) (List.mem_range.mp inTable') (List.mem_range.mp inTile)
      (now row inTile))
    tiles
  apply extPixel
  intro tile ht y hy x hx
  rw [pixelOfChr chr ht hx hy]
  exact all tile (List.mem_range.mpr ht) y (List.mem_range.mpr hy) x hx

theorem decodeAllChecked (chr : UInt16 → UInt8) (tiles : Tiles) :
    decodeAll? chr tiles.bytes = some (Tiles.ofChr chr).bytes := by
  rw [← refreshTiles chr tiles]
  exact followSweep Ram.bytes (fun row hr tile ht => decodeRowChecked chr ht hr) tiles

end Tiles

namespace Cartridge
variable (cart : Cartridge)

def cpuRead? (addr : UInt16) : Option (Option UInt8) := do
  if addr < 0x8000 then
    return none
  else
    let offset ← bits16.sub addr.toNat 0x8000
    return cart.prg[
      if cart.prg.size > Image.prgBankSize then offset else offset % Image.prgBankSize]?

def ppuWrite? (addr : UInt16) (value : UInt8) : Option (Except BoardFault Cartridge) :=
  match cart.chr with
  | .ram cells =>
    if addr < 0x2000 then
      (cells.write? addr.toNat value).map fun cells => .ok { cart with chr := .ram cells }
    else some (.error (.ppuWrite addr value))
  | .rom _ => some (.error (.ppuWrite addr value))

theorem cpuReadChecked (addr : UInt16) : cart.cpuRead? addr = some (cart.cpuRead addr) := by
  unfold cpuRead? cpuRead
  by_cases low : addr < 0x8000
  · rw [if_pos low, if_pos low]
    rfl
  · have high : 0x8000 ≤ addr.toNat := UInt16.le_iff_toNat_le.mp (UInt16.not_lt.mp low)
    rw [if_neg low, if_neg low, subSome bits16 high]
    rfl

theorem ppuWriteChecked (addr : UInt16) (value : UInt8) :
    cart.ppuWrite? addr value = some (cart.ppuWrite addr value) := by
  unfold ppuWrite? ppuWrite
  cases cart.chr with
  | rom bytes => rfl
  | ram cells =>
    by_cases inside : addr < 0x2000
    · simp only [if_pos inside, Ram.writeSome cells (UInt16.lt_iff_toNat_lt.mp inside)]
      rfl
    · simp only [if_neg inside]

end Cartridge

theorem PaletteRam.cellBound (addr : Nat) : cell addr < 32 := by
  unfold cell
  simp only
  split <;> omega

def Mirroring.locate? (mirroring : Mirroring) (addr : Nat) : Option (Fin 2 × Nat) := do
  let offset ← bits16.sub addr 0x2000
  let bank ← mirroring.bank? (offset % 0x1000 / 0x400)
  return (bank, offset % 0x1000 % 0x400)

theorem Mirroring.locateChecked (mirroring : Mirroring) {addr : Nat} (table : 0x2000 ≤ addr) :
    mirroring.locate? addr = some (mirroring.locate addr) := by
  have offset : (addr - 0x2000) % 0x1000 % 0x400 = addr % 0x400 := by omega
  rw [locate?, subSome bits16 table, Option.bind_eq_bind, Option.bind_some, bankChecked, offset]
  rfl

namespace VideoCell

def ofAddress? (mirroring : Mirroring) (addr : UInt16) : Option VideoCell :=
  let addr := addr % 0x4000
  if addr < 0x2000 then some (.pattern addr)
  else if addr < 0x3F00 then
    (mirroring.locate? addr.toNat).map fun place => .nametable place.1 place.2
  else some (.palette (PaletteRam.cell addr.toNat))

def There : VideoCell → Prop
  | pattern addr => addr < 0x2000
  | nametable _ offset => offset < 0x400
  | palette cell => cell < 32

theorem ofAddressChecked (mirroring : Mirroring) (addr : UInt16) :
    ofAddress? mirroring addr = some (ofAddress mirroring addr) ∧
      (ofAddress mirroring addr).There := by
  unfold ofAddress? ofAddress
  simp only
  generalize addr % 0x4000 = addr
  by_cases pattern : addr < 0x2000
  · rw [if_pos pattern, if_pos pattern]
    exact ⟨rfl, pattern⟩
  · have table : 0x2000 ≤ addr.toNat := UInt16.le_iff_toNat_le.mp (UInt16.not_lt.mp pattern)
    rw [if_neg pattern, if_neg pattern]
    by_cases nametable : addr < 0x3F00
    · rw [if_pos nametable, if_pos nametable, mirroring.locateChecked table]
      exact ⟨rfl, Nat.mod_lt _ (by decide)⟩
    · rw [if_neg nametable, if_neg nametable]
      exact ⟨rfl, PaletteRam.cellBound _⟩

end VideoCell

namespace Video
variable (video : Video)

def readCell? : VideoCell → Option UInt8
  | .pattern addr => some (chr video.cart addr)
  | .nametable bank offset => (video.ppu.nametables.bank bank).read? offset
  | .palette cell => video.ppu.palette.read? cell

def readVram? (addr : UInt16) : Option UInt8 :=
  (VideoCell.ofAddress? video.ppu.mirroring addr).bind video.readCell?

def readData? : Option (UInt8 × Video) := do
  let addr := video.ppu.scroll.v % 0x4000
  if addr < 0x3F00 then
    let next ← video.readVram? addr
    return (video.ppu.readBuffer,
      { video with ppu := { video.ppu with readBuffer := next }.advance })
  else
    let under ← bits16.sub addr.toNat 0x1000
    let next ← video.readVram? (UInt16.ofNat under)
    let value ← video.readVram? addr
    return (value, { video with ppu := { video.ppu with readBuffer := next }.advance })

def readRegister? (addr : UInt16) : Option (UInt8 × Video) :=
  match addr.toNat % 8 with
  | 2 => some (latched video.ppu.readStatus.1 ⟨video.ppu.readStatus.2, video.cart⟩)
  | 4 => video.ppu.readOam?.map (latched · video)
  | 7 => video.readData?.map fun done => latched done.1 done.2
  | _ => some (video.ppu.latch, video)

theorem readCellChecked {cell : VideoCell} (there : cell.There) :
    video.readCell? cell = some (video.readCell cell) := by
  cases cell with
  | pattern addr => rfl
  | nametable bank offset => exact Ram.readSome _ there
  | palette cell => exact Ram.readSome _ there

theorem readVramChecked (addr : UInt16) : video.readVram? addr = some (video.readVram addr) := by
  obtain ⟨found, there⟩ := VideoCell.ofAddressChecked video.ppu.mirroring addr
  rw [readVram?, found, Option.bind_some, readCellChecked video there]
  rfl

theorem readDataChecked : video.readData? = some video.readData := by
  unfold readData? readData
  simp only
  generalize video.ppu.scroll.v % 0x4000 = addr
  by_cases below : addr < 0x3F00
  · rw [if_pos below, if_pos below, readVramChecked]
    rfl
  · have high : 0x3F00 ≤ addr.toNat := UInt16.le_iff_toNat_le.mp (UInt16.not_lt.mp below)
    have under : UInt16.ofNat (addr.toNat - 0x1000) = addr - 0x1000 := by
      apply UInt16.toNat_inj.mp
      rw [UInt16.toNat_sub_of_le _ _ (UInt16.le_iff_toNat_le.mpr (Nat.le_trans (by decide) high)),
        UInt16.toNat_ofNat']
      exact Nat.mod_eq_of_lt (Nat.lt_of_le_of_lt (Nat.sub_le _ _) addr.toNat_lt)
    rw [if_neg below, if_neg below, subSome bits16 (show 0x1000 ≤ addr.toNat by omega)]
    simp only [Option.bind_eq_bind, Option.bind_some, readVramChecked, under]
    rfl

theorem readRegisterChecked (addr : UInt16) :
    video.readRegister? addr = some (video.readRegister addr) := by
  unfold readRegister?
  split
  case h_1 status =>
    simp only [readRegister, status]
  case h_2 oam =>
    simp only [readRegister, oam, Ppu.readOamChecked]
    rfl
  case h_3 data =>
    simp only [readRegister, data, readDataChecked]
    rfl
  case h_4 => simp only [readRegister]

end Video

def Nametables.write? (n : Nametables) (number : Fin 2) (offset : Nat) (value : UInt8) :
    Option Nametables :=
  if number.val = 0 then (n.first.write? offset value).map fun first => { n with first }
  else (n.second.write? offset value).map fun second => { n with second }

theorem Nametables.writeChecked (n : Nametables) (number : Fin 2) {offset : Nat}
    (inside : offset < 0x400) (value : UInt8) :
    n.write? number offset value = some (n.write number offset value) := by
  unfold write? write
  split
  · rw [Ram.writeSome _ inside]
    rfl
  · rw [Ram.writeSome _ inside]
    rfl

structure FlatVideo where
  video : Video
  canvas : Canvas

def Video.flat (video : Video) : FlatVideo :=
  ⟨video, video.ppu.canvas⟩

namespace FlatVideo

section
variable (s : FlatVideo)

def withPpu (ppu : Ppu) : Option BoardFault × FlatVideo :=
  (none, ⟨⟨ppu, s.video.cart⟩, s.canvas⟩)

def writePattern? (addr : UInt16) (value : UInt8) : Option (Option BoardFault × FlatVideo) :=
  match s.video.cart with
  | none => some (none, s)
  | some cart => do
    let done ← cart.ppuWrite? addr value
    match done with
    | .error fault => return (some fault, s)
    | .ok cart =>
      let tile := addr.toNat / 16
      let row := addr.toNat % 8
      let tiles ← Tiles.decodeRow? cart.ppuRead tile row s.canvas.tiles
      return (none,
        ⟨⟨{ s.video.ppu with tiles := s.video.ppu.tiles.refresh cart.ppuRead tile row }, some cart⟩,
          { s.canvas with tiles }⟩)

def writeCell? (value : UInt8) : VideoCell → Option (Option BoardFault × FlatVideo)
  | .pattern addr => s.writePattern? addr value
  | .nametable bank offset =>
    (s.video.ppu.nametables.write? bank offset value).map fun nametables =>
      s.withPpu { s.video.ppu with nametables }
  | .palette cell =>
    (s.video.ppu.palette.write? cell (value % 64)).map fun palette =>
      s.withPpu { s.video.ppu with palette }

def writeVram? (addr : UInt16) (value : UInt8) : Option (Option BoardFault × FlatVideo) :=
  (VideoCell.ofAddress? s.video.ppu.mirroring addr).bind (s.writeCell? value)

def writeData? (value : UInt8) : Option (Option BoardFault × FlatVideo) :=
  let addr := s.video.ppu.scroll.v
  writeVram? ⟨⟨s.video.ppu.advance, s.video.cart⟩, s.canvas⟩ addr value

def writeRegister? (addr : UInt16) (value : UInt8) : Option (Option BoardFault × FlatVideo) :=
  let s : FlatVideo := ⟨s.video.update fun ppu => { ppu with latch := value }, s.canvas⟩
  match addr.toNat % 8 with
  | 0 => (s.video.ppu.writeCtrl? value).map s.withPpu
  | 1 => some (s.withPpu (s.video.ppu.writeMask value))
  | 3 => some (s.withPpu (s.video.ppu.writeOamAddr value))
  | 4 => (s.video.ppu.writeOam? value).map s.withPpu
  | 5 => (s.video.ppu.writeScroll? value).map s.withPpu
  | 6 => (s.video.ppu.writeAddress? value).map s.withPpu
  | 7 => s.writeData? value
  | _ => some (none, s)

def copyToOam? (bytes : List UInt8) : Option FlatVideo :=
  (s.video.ppu.copyToOam? bytes).map fun ppu => ⟨⟨ppu, s.video.cart⟩, s.canvas⟩

def render? : Option FlatVideo :=
  (s.canvas.render? s.video.ppu).map fun canvas => ⟨s.video.update Ppu.render, canvas⟩

def beginVblank? : Option FlatVideo :=
  let video := s.video.update fun ppu => { ppu with status := (ppu.status ||| 0x80) &&& 0xBF }
  render? ⟨video, s.canvas⟩

def powerOn? (cart : Cartridge) : Option FlatVideo :=
  (Tiles.decodeAll? cart.ppuRead Canvas.blank.tiles).map fun tiles =>
    ⟨.powerOn cart, { Canvas.blank with tiles }⟩

end
end FlatVideo

namespace Video
variable (video : Video)

theorem writePatternChecked {addr : UInt16} (inside : addr < 0x2000) (value : UInt8) :
    video.flat.writePattern? addr value =
      some ((video.writePattern addr value).1, (video.writePattern addr value).2.flat) := by
  obtain ⟨ppu, cart⟩ := video
  have bound : addr.toNat < 0x2000 := UInt16.lt_iff_toNat_lt.mp inside
  cases cart with
  | none => rfl
  | some cart =>
    unfold FlatVideo.writePattern? writePattern flat
    simp only [Cartridge.ppuWriteChecked, Option.bind_eq_bind, Option.bind_some]
    cases cart.ppuWrite addr value with
    | error fault => rfl
    | ok cart =>
      have tiles : ppu.canvas.tiles = ppu.tiles.bytes := rfl
      have tile : addr.toNat / 16 < 512 := by omega
      have row : addr.toNat % 8 < 8 := Nat.mod_lt _ (by decide)
      simp only [tiles, Tiles.decodeRowChecked cart.ppuRead tile row]
      rfl

theorem writeCellChecked (value : UInt8) {cell : VideoCell} (there : cell.There) :
    video.flat.writeCell? value cell =
      some ((video.writeCell value cell).1, (video.writeCell value cell).2.flat) := by
  cases cell with
  | pattern addr => exact video.writePatternChecked there value
  | nametable bank offset =>
    have written := video.ppu.nametables.writeChecked bank there value
    exact congrArg (Option.map fun nametables =>
      video.flat.withPpu { video.ppu with nametables }) written
  | palette cell =>
    have written := Ram.writeSome video.ppu.palette there (value % 64)
    exact congrArg (Option.map fun palette => video.flat.withPpu { video.ppu with palette }) written

theorem writeVramChecked (addr : UInt16) (value : UInt8) :
    video.flat.writeVram? addr value =
      some ((video.writeVram addr value).1, (video.writeVram addr value).2.flat) := by
  obtain ⟨found, there⟩ := VideoCell.ofAddressChecked video.ppu.mirroring addr
  rw [FlatVideo.writeVram?, flat, found, Option.bind_some]
  exact video.writeCellChecked value there

theorem writeDataChecked (value : UInt8) :
    video.flat.writeData? value =
      some ((video.writeData value).1, (video.writeData value).2.flat) := by
  have advanced := writeVramChecked ⟨video.ppu.advance, video.cart⟩ video.ppu.scroll.v value
  exact advanced

theorem writeRegisterChecked (fine : video.ppu.scroll.fineX < 8) (addr : UInt16) (value : UInt8) :
    video.flat.writeRegister? addr value =
      some ((video.writeRegister addr value).1, (video.writeRegister addr value).2.flat) := by
  let latched := video.update fun ppu => { ppu with latch := value }
  unfold FlatVideo.writeRegister?
  simp only
  split
  case h_1 ctrl =>
    simp only [writeRegister, ctrl]
    exact congrArg (Option.map latched.flat.withPpu) (latched.ppu.writeCtrlChecked value)
  case h_2 mask =>
    simp only [writeRegister, mask]
    rfl
  case h_3 oamAddr =>
    simp only [writeRegister, oamAddr]
    rfl
  case h_4 oam =>
    simp only [writeRegister, oam]
    exact congrArg (Option.map latched.flat.withPpu) (latched.ppu.writeOamChecked value)
  case h_5 scroll =>
    simp only [writeRegister, scroll]
    exact congrArg (Option.map latched.flat.withPpu) (latched.ppu.writeScrollChecked fine value)
  case h_6 address =>
    simp only [writeRegister, address]
    exact congrArg (Option.map latched.flat.withPpu) (latched.ppu.writeAddressChecked value)
  case h_7 data =>
    simp only [writeRegister, data]
    exact latched.writeDataChecked value
  case h_8 =>
    simp only [writeRegister]
    rfl

theorem copyToOamChecked (bytes : List UInt8) :
    video.flat.copyToOam? bytes = some (video.update (·.copyToOam bytes)).flat :=
  congrArg (Option.map fun ppu => FlatVideo.mk ⟨ppu, video.cart⟩ video.ppu.canvas)
    (video.ppu.copyToOamChecked bytes)

theorem renderChecked (drawable : video.ppu.Drawable) :
    video.flat.render? = some (video.update Ppu.render).flat :=
  congrArg (Option.map fun canvas => FlatVideo.mk (video.update Ppu.render) canvas)
    drawable.renderChecked

theorem beginVblankChecked (drawable : video.ppu.Drawable) :
    video.flat.beginVblank? = some (video.update Ppu.beginVblank).flat := by
  have entered : Ppu.Drawable { video.ppu with status := (video.ppu.status ||| 0x80) &&& 0xBF } :=
    ⟨drawable.pixels, drawable.x, drawable.y⟩
  exact renderChecked ⟨_, video.cart⟩ entered

theorem powerOnChecked (cart : Cartridge) :
    FlatVideo.powerOn? cart = some (powerOn cart).flat := by
  have blank : Canvas.blank.tiles = Ram.bytes (.filled 0x8000 0) := (Ram.bytesFilled _ _).symm
  unfold FlatVideo.powerOn?
  rw [blank, Tiles.decodeAllChecked, ← Ppu.canvasNew cart.mirroring]
  rfl

end Video
end Nes
