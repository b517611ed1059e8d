import Nes.Proofs.Bus.History
import Nes.Proofs.Memory

/-! The tile cache. Whatever happens on the bus, the picture unit keeps the pixels of exactly the
patterns that the cartridge holds now, and without a cartridge all of them are 0. -/
namespace Nes

namespace Tiles

theorem toNatRowAddress {tile row : Nat} (ht : tile < 512) (hr : row < 8) :
    (rowAddress tile row).toNat = 16 * tile + row ∧
      (rowAddress tile row + 8).toNat = 16 * tile + row + 8 := by
  simp [rowAddress]
  omega

theorem pixelOfChr (chr : UInt16 → UInt8) {tile x y : Nat} (ht : tile < 512) (hx : x < 8)
    (hy : y < 8) :
    (ofChr chr).pixel tile x y =
      decode (chr (rowAddress tile y)) (chr (rowAddress tile y + 8)) x := by
  have cell : (64 * tile + 8 * y + x) % 0x8000 = 64 * tile + 8 * y + x :=
    Nat.mod_eq_of_lt (by omega)
  have ofTile : (64 * tile + 8 * y + x) / 64 = tile := by omega
  have ofRow : (64 * tile + 8 * y + x) / 8 % 8 = y := by omega
  have ofColumn : (64 * tile + 8 * y + x) % 8 = x := by omega
  simp only [pixel, ofChr, Ram.readOfFn, cell, ofTile, ofRow, ofColumn]

theorem toNatDecode (low high : UInt8) (x : Nat) :
    (decode low high x).toNat = (testBit low (7 - x)).toNat + 2 * (testBit high (7 - x)).toNat := by
  unfold decode
  cases testBit low (7 - x) <;> cases testBit high (7 - x) <;> rfl

theorem extPixel {tiles tiles' : Tiles}
    (same : ∀ tile < 512, ∀ y < 8, ∀ x < 8, tiles.pixel tile x y = tiles'.pixel tile x y) :
    tiles = tiles' := by
  apply Ram.ext
  intro addr inside
  have found := same (addr / 64) (by omega) (addr / 8 % 8) (by omega) (addr % 8) (by omega)
  have whole : 64 * (addr / 64) + 8 * (addr / 8 % 8) + addr % 8 = addr := by omega
  simpa only [pixel, whole] using found

theorem pixelRefresh (tiles : Tiles) (chr : UInt16 → UInt8) {tile row tile' x y : Nat}
    (ht : tile < 512) (hr : row < 8) (ht' : tile' < 512) (hx : x < 8) (hy : y < 8) :
    (tiles.refresh chr tile row).pixel tile' x y =
      if tile = tile' ∧ row = y then
        decode (chr (rowAddress tile row)) (chr (rowAddress tile row + 8)) x
      else tiles.pixel tile' x y := by
  unfold refresh pixel
  rw [Ram.readWriteAll _ (by simp; omega) (by omega)]
  by_cases same : tile = tile' ∧ row = y
  · obtain ⟨rfl, rfl⟩ := same
    have offset : 64 * tile + 8 * row + x - (64 * tile + 8 * row) = x := by omega
    rw [if_pos (by omega), if_pos ⟨rfl, rfl⟩, offset]
    simp [List.getD, hx]
  · rw [if_neg same]
    split
    · have beyond : 8 ≤ 64 * tile' + 8 * y + x - (64 * tile + 8 * row) := by omega
      simp [List.getD, beyond]
    · rfl

theorem refreshOfChr {chr chr' : UInt16 → UInt8} {tile row : Nat} (ht : tile < 512) (hr : row < 8)
    (same : ∀ addr, addr ≠ rowAddress tile row → addr ≠ rowAddress tile row + 8 →
      chr' addr = chr addr) :
    (ofChr chr).refresh chr' tile row = ofChr chr' := by
  apply extPixel
  intro tile' ht' y hy x hx
  rw [pixelRefresh _ _ ht hr ht' hx hy, pixelOfChr chr' ht' hx hy]
  by_cases here : tile = tile' ∧ row = y
  · obtain ⟨rfl, rfl⟩ := here
    rw [if_pos ⟨rfl, rfl⟩]
  · obtain ⟨low, high⟩ := toNatRowAddress ht hr
    obtain ⟨low', high'⟩ := toNatRowAddress ht' hy
    rw [if_neg here, pixelOfChr chr ht' hx hy]
    rw [same (rowAddress tile' y), same (rowAddress tile' y + 8)]
    all_goals
      intro clash
      have := congrArg UInt16.toNat clash
      omega

end Tiles

theorem Cartridge.ppuReadBytes (cart : Cartridge) {addr : UInt16} (inside : addr.toNat < 0x2000) :
    cart.ppuRead addr = cart.chr.bytes.getD addr.toNat 0 := by
  have bound : addr < 0x2000 := UInt16.lt_iff_toNat_lt.mpr inside
  unfold ppuRead
  rw [if_pos bound]
  cases cart.chr with
  | rom bytes => rfl
  | ram cells => simp [Chr.bytes, Ram.read, Nat.mod_eq_of_lt inside, Array.getD, inside]

theorem Cartridge.ppuWriteOk {cart cart' : Cartridge} {addr : UInt16} {value : UInt8}
    (taken : cart.ppuWrite addr value = .ok cart') :
    addr.toNat < 0x2000 ∧ ∀ other, other ≠ addr → cart'.ppuRead other = cart.ppuRead other := by
  unfold ppuWrite at taken
  cases memory : cart.chr with
  | rom bytes => simp [memory] at taken
  | ram cells =>
    simp only [memory] at taken
    split at taken
    · rename_i inside
      cases taken
      have bound : addr.toNat < 0x2000 := UInt16.lt_iff_toNat_lt.mp inside
      refine ⟨bound, fun other apart => ?_⟩
      unfold ppuRead
      simp only [memory]
      split
      · rename_i inside'
        have bound' : other.toNat < 0x2000 := UInt16.lt_iff_toNat_lt.mp inside'
        have apartNat : ¬addr.toNat = other.toNat := fun same =>
          apart (UInt16.toNat_inj.mp same.symm)
        rw [Ram.readWrite, Nat.mod_eq_of_lt bound, Nat.mod_eq_of_lt bound', if_neg apartNat]
      · rfl
    · cases taken

namespace Video

structure Coherent (video : Video) : Prop where
  tiles : video.ppu.tiles = .ofChr (chr video.cart)
  palette : ∀ cell, (video.ppu.palette.read cell).toNat < 64

namespace Coherent
variable {video : Video}

theorem blank : Coherent {} where
  tiles := by
    apply Tiles.extPixel
    intro tile ht y hy x hx
    rw [Tiles.pixelOfChr _ ht hx hy]
    simp only [Tiles.pixel, Ram.readFilled, chr, Tiles.decode, testBit, UInt8.toNat_zero,
      Nat.zero_testBit]
    rfl
  palette cell := by
    simp [Ram.readFilled]

theorem powerOn (cart : Cartridge) : Coherent (powerOn cart) where
  tiles := rfl
  palette cell := by
    simp [Video.powerOn, loadTiles, Ram.readFilled]

theorem update (coherent : Coherent video) (change : Ppu → Ppu)
    (tiles : (change video.ppu).tiles = video.ppu.tiles)
    (palette : (change video.ppu).palette = video.ppu.palette) : Coherent (video.update change) where
  tiles := tiles.trans coherent.tiles
  palette cell := by
    have bound := coherent.palette cell
    rwa [← palette] at bound

theorem writePattern (coherent : Coherent video) (addr : UInt16) (value : UInt8) :
    Coherent (video.writePattern addr value).2 := by
  obtain ⟨ppu, cart⟩ := video
  cases cart with
  | none => exact coherent
  | some cart =>
    unfold Video.writePattern
    cases taken : cart.ppuWrite addr value with
    | error fault =>
      simp only [taken]
      exact coherent
    | ok cart' =>
      simp only [taken]
      obtain ⟨bound, others⟩ := Cartridge.ppuWriteOk taken
      refine ⟨?_, coherent.palette⟩
      have tile : addr.toNat / 16 < 512 := by omega
      have row : addr.toNat % 8 < 8 := Nat.mod_lt _ (by decide)
      obtain ⟨low, high⟩ := Tiles.toNatRowAddress tile row
      rw [show ppu.tiles = .ofChr cart.ppuRead from coherent.tiles]
      apply Tiles.refreshOfChr tile row
      intro other notLow notHigh
      apply others
      rintro rfl
      rw [Ne, ← UInt16.toNat_inj] at notLow notHigh
      omega

theorem writeCell (coherent : Coherent video) (value : UInt8) (cell : VideoCell) :
    Coherent (video.writeCell value cell).2 := by
  cases cell with
  | pattern addr => exact coherent.writePattern addr value
  | nametable bank offset => exact ⟨coherent.tiles, coherent.palette⟩
  | palette cell =>
    refine ⟨coherent.tiles, fun other => ?_⟩
    have old := coherent.palette other
    have new := Nat.mod_lt value.toNat (show 0 < 64 by decide)
    simp only [Video.writeCell, Ram.readWrite]
    split
    · simpa using new
    · exact old

theorem writeVram (coherent : Coherent video) (addr : UInt16) (value : UInt8) :
    Coherent (video.writeVram addr value).2 :=
  coherent.writeCell value _

theorem readRegister (coherent : Coherent video) (addr : UInt16) :
    Coherent (video.readRegister addr).2 := by
  obtain ⟨status, scroll, latch, readBuffer, same⟩ := video.readRegisterParts addr
  rw [same]
  exact ⟨coherent.tiles, coherent.palette⟩

theorem writeRegister (coherent : Coherent video) (addr : UInt16) (value : UInt8) :
    Coherent (video.writeRegister addr value).2 := by
  have latched : Coherent (video.update fun ppu => { ppu with latch := value }) :=
    coherent.update _ rfl rfl
  unfold Video.writeRegister
  simp only
  split
  case h_7 => exact writeVram (latched.update Ppu.advance rfl rfl) _ value
  case h_8 => exact latched
  all_goals exact ⟨coherent.tiles, coherent.palette⟩

theorem render (coherent : Coherent video) : Coherent (video.update Ppu.render) := by
  apply coherent.update Ppu.render <;> unfold Ppu.render Ppu.renderSprites <;> split <;> rfl

theorem kept : Kept Coherent where
  powerOn := powerOn
  readRegister _ addr coherent := coherent.readRegister addr
  writeRegister _ addr value coherent := coherent.writeRegister addr value
  writeVram _ addr value coherent := coherent.writeVram addr value
  copyToOam _ _ coherent := coherent.update _ rfl rfl
  beginVblank _ coherent :=
    render (coherent.update (fun ppu => { ppu with status := (ppu.status ||| 0x80) &&& 0xBF }) rfl rfl)
  endVblank _ coherent := coherent.update _ rfl rfl
  render _ coherent := coherent.render

end Coherent
end Video

namespace Video.Coherent
variable {video : Video}

theorem pixel (coherent : Coherent video) {tile x y : Nat} (ht : tile < 512) (hx : x < 8)
    (hy : y < 8) :
    (video.ppu.tiles.pixel tile x y).toNat =
      (testBit (chr video.cart (Tiles.rowAddress tile y)) (7 - x)).toNat +
        2 * (testBit (chr video.cart (Tiles.rowAddress tile y + 8)) (7 - x)).toNat := by
  rw [coherent.tiles, Tiles.pixelOfChr _ ht hx hy, Tiles.toNatDecode]

theorem twoBits (coherent : Coherent video) (cell : Nat) :
    (video.ppu.tiles.read cell).toNat < 4 := by
  have low (bit : Bool) : bit.toNat ≤ 1 := bit.toNat_le
  rw [coherent.tiles]
  unfold Tiles.ofChr
  rw [Ram.readOfFn, Tiles.toNatDecode]
  exact Nat.lt_succ_of_le (Nat.add_le_add (low _) (Nat.mul_le_mul_left 2 (low _)))

theorem pixelInserted (coherent : Coherent video) {cart : Cartridge}
    (inserted : video.cart = some cart) {tile x y : Nat} (ht : tile < 512) (hx : x < 8)
    (hy : y < 8) :
    (video.ppu.tiles.pixel tile x y).toNat =
      (testBit (cart.chr.bytes.getD (16 * tile + y) 0) (7 - x)).toNat +
        2 * (testBit (cart.chr.bytes.getD (16 * tile + 8 + y) 0) (7 - x)).toNat := by
  obtain ⟨low, high⟩ := Tiles.toNatRowAddress ht hy
  have next : 16 * tile + y + 8 = 16 * tile + 8 + y := by omega
  have lowByte := cart.ppuReadBytes (show (Tiles.rowAddress tile y).toNat < 0x2000 by omega)
  have highByte := cart.ppuReadBytes (show (Tiles.rowAddress tile y + 8).toNat < 0x2000 by omega)
  rw [low] at lowByte
  rw [high, next] at highByte
  rw [coherent.pixel ht hx hy, inserted, ← lowByte, ← highByte]
  rfl

theorem blankWithout (coherent : Coherent video) (ejected : video.cart = none) (addr : Nat) :
    video.ppu.tiles.read addr = 0 := by
  have same : video.ppu.tiles = ({} : Ppu).tiles := by
    rw [coherent.tiles, blank.tiles, ejected]
  rw [same]
  exact Ram.readFilled 0 addr

end Video.Coherent

namespace Bus

theorem playCoherent (apu : Apu) (signals : List Signal) :
    ((Bus.play { apu } signals).video).Coherent :=
  playVideo Video.Coherent.kept Video.Coherent.blank signals

/-- At the end of any history the tiles are the patterns in the character memory of the cartridge,
and without a cartridge they are all 0. -/
theorem tilesFollowCartridge (apu : Apu) (signals : List Signal) :
    let video := (Bus.play { apu } signals).video
    (∀ cart, video.cart = some cart → ∀ tile < 512, ∀ y < 8, ∀ x < 8,
      (video.ppu.tiles.pixel tile x y).toNat =
        (testBit (cart.chr.bytes.getD (16 * tile + y) 0) (7 - x)).toNat +
          2 * (testBit (cart.chr.bytes.getD (16 * tile + 8 + y) 0) (7 - x)).toNat) ∧
      (video.cart = none → ∀ addr, video.ppu.tiles.read addr = 0) := by
  intro video
  have coherent : Video.Coherent video := playCoherent apu signals
  refine ⟨?_, coherent.blankWithout⟩
  intro cart inserted tile ht y hy x hx
  exact coherent.pixelInserted inserted ht hx hy

def uploadSignals : List Signal :=
  [.insert {
      prg := #[], chr := .ram (.filled 0x2000 0), prgBanks := 1, chrBanks := 0, mapper := 0
      mirroring := .vertical },
    .access (.write 0x2006 0x00), .access (.write 0x2006 0x1B), .access (.write 0x2007 0x80)]

theorem tilesFollowCartridgeUpload :
    let video := (Bus.play { apu := .standard } uploadSignals).video
    (∃ cart, video.cart = some cart ∧ cart.chr.bytes.getD 0x13 0 = 0 ∧
      cart.chr.bytes.getD 0x1B 0 = 0x80) ∧
      (video.ppu.tiles.pixel 1 0 3).toNat = 2 ∧
      (Bus.play { apu := .standard } [.beginVblank]).video.ppu.tiles.read 0x53 = 0 := by
  intro video
  have uploaded : (video.cart.map fun cart =>
      (cart.chr.bytes.getD 0x13 0, cart.chr.bytes.getD 0x1B 0)) = some (0, 0x80) := by
    decide +kernel
  obtain ⟨cart, inserted, bytes⟩ := Option.map_eq_some_iff.mp uploaded
  obtain ⟨low, high⟩ := Prod.mk.inj bytes
  have pixel := (tilesFollowCartridge .standard uploadSignals).1 cart inserted 1 (by decide) 3
    (by decide) 0 (by decide)
  rw [low, high] at pixel
  exact ⟨⟨cart, inserted, low, high⟩, pixel,
    (tilesFollowCartridge .standard [.beginVblank]).2 rfl 0x53⟩

end Bus
end Nes
