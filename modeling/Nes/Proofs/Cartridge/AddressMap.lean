import Nes.Console
import Nes.Proofs.Cartridge.ImageLayout
import Nes.Proofs.Cartridge.Offers

/-! From the bytes of an image to the address space. Whatever happens to a board, it shows the
processor the program of the image that it was made of, and the picture unit the patterns of the
image or, from character RAM, the byte that was taken last. -/
namespace Nes

def Image.programIndex (data : Array UInt8) (addr : UInt16) : Nat :=
  prgStart data + (addr.toNat - 0x8000) % (if data.getD 4 0 = 1 then 0x4000 else 0x8000)

namespace Cartridge

def programCell (cart : Cartridge) (addr : UInt16) : Nat :=
  if cart.prg.size > 0x4000 then addr.toNat - 0x8000 else (addr.toNat - 0x8000) % 0x4000

structure Within (cart : Cartridge) : Prop where
  program : ∀ addr : UInt16, 0x8000 ≤ addr.toNat →
    ∃ inside : cart.programCell addr < cart.prg.size,
      cart.cpuRead addr = some cart.prg[cart.programCell addr]
  read : ∀ addr : UInt16, addr.toNat < 0x2000 →
    ∃ inside : addr.toNat < cart.chr.bytes.size, cart.ppuRead addr = cart.chr.bytes[addr.toNat]
  write : ∀ (addr : UInt16) (value : UInt8) (cart' : Cartridge),
    cart.ppuWrite addr value = .ok cart' →
      ∃ inside : addr.toNat < cart.chr.bytes.size,
        cart'.chr.bytes = cart.chr.bytes.set addr.toNat value

structure Shows (cart : Cartridge) (data : Array UInt8) (last : UInt16 → Option UInt8) : Prop where
  below : ∀ addr : UInt16, addr.toNat < 0x8000 → cart.cpuRead addr = none
  program : ∀ addr : UInt16, 0x8000 ≤ addr.toNat →
    ∃ inside : Image.programIndex data addr < data.size,
      cart.cpuRead addr = some data[Image.programIndex data addr]
  rom : data.getD 5 0 ≠ 0 → ∀ addr : UInt16, addr.toNat < 0x2000 →
    ∃ inside : Image.chrStart data + addr.toNat < data.size,
      cart.ppuRead addr = data[Image.chrStart data + addr.toNat]
  ram : data.getD 5 0 = 0 → ∀ addr : UInt16, addr.toNat < 0x2000 →
    cart.ppuRead addr = (last addr).getD 0
  accepts : ∀ (addr : UInt16) (value : UInt8),
    (cart.ppuWrite addr value).isOk = true ↔ data.getD 5 0 = 0 ∧ addr.toNat < 0x2000

structure MadeOf (data : Array UInt8) (cart : Cartridge) : Prop where
  prg : cart.prg = data.extract (Image.prgStart data) (Image.chrStart data)
  rom : data.getD 5 0 ≠ 0 →
    cart.chr = .rom (data.extract (Image.chrStart data) (Image.chrStart data + Image.chrSize data))
  ram : data.getD 5 0 = 0 → cart.chr.isRam = true

theorem cpuReadBelow (cart : Cartridge) {addr : UInt16} (low : addr.toNat < 0x8000) :
    cart.cpuRead addr = none :=
  if_pos (UInt16.lt_iff_toNat_lt.mpr low)

theorem cpuReadCell (cart : Cartridge) {addr : UInt16} (high : 0x8000 ≤ addr.toNat) :
    cart.cpuRead addr = cart.prg[cart.programCell addr]? := by
  have above : ¬addr < 0x8000 := fun low => Nat.not_lt.mpr high (UInt16.lt_iff_toNat_lt.mp low)
  exact if_neg above

theorem sizeRam {cart : Cartridge} (ram : cart.chr.isRam = true) :
    cart.chr.bytes.size = 0x2000 := by
  cases memory : cart.chr with
  | rom bytes => rw [memory] at ram; cases ram
  | ram cells => exact cells.cells.size_toArray

theorem MadeOf.layout (data : Array UInt8) : MadeOf data (ofLayout data) where
  prg := rfl
  rom banks := if_neg banks
  ram banks := by
    simp only [ofLayout, Image.ofLayout, if_pos banks]
    rfl

end Cartridge

theorem Image.Loadable.fits {data : Array UInt8} (loadable : Image.Loadable data) :
    Image.chrStart data + Image.chrSize data ≤ data.size := by
  have size := loadable.size
  unfold Image.chrStart Image.chrSize Image.prgSize
  rw [Image.prgStartTrainer]
  omega

namespace Cartridge.MadeOf
variable {data : Array UInt8} {cart : Cartridge}

theorem offer (made : MadeOf data cart) (write : UInt16 × UInt8) :
    MadeOf data (cart.offer write) := by
  obtain ⟨-, same⟩ | ⟨cells, ram, -, -, put⟩ := cart.offerCases write
  · rwa [same]
  · rw [put]
    refine ⟨made.prg, fun banks => ?_, fun _ => rfl⟩
    have rom := made.rom banks
    rw [ram] at rom
    cases rom

theorem offerAll (made : MadeOf data cart) (writes : List (UInt16 × UInt8)) :
    MadeOf data (cart.offerAll writes) :=
  List.foldlRecOn writes Cartridge.offer made fun _ made write _ => made.offer write

theorem sizePrg (made : MadeOf data cart) (loadable : Image.Loadable data) :
    cart.prg.size = Image.prgSize data := by
  have fits := loadable.fits
  have start : Image.chrStart data = Image.prgStart data + Image.prgSize data := rfl
  rw [made.prg, Array.size_extract]
  omega

theorem sizeChr (made : MadeOf data cart) (loadable : Image.Loadable data) :
    cart.chr.bytes.size = if data.getD 5 0 = 0 then 0x2000 else Image.chrSize data := by
  split
  · rename_i banks
    exact sizeRam (made.ram banks)
  · rename_i banks
    have fits := loadable.fits
    rw [made.rom banks, Chr.bytes, Array.size_extract]
    omega

theorem cellInside (made : MadeOf data cart) (loadable : Image.Loadable data) (addr : UInt16) :
    cart.programCell addr < cart.prg.size ∧
      Image.programIndex data addr = Image.prgStart data + cart.programCell addr := by
  have banks := loadable.prgBanks
  have bound := addr.toNat_lt
  have single : data.getD 4 0 = 1 ↔ (data.getD 4 0).toNat = 1 := UInt8.toNat_inj.symm
  unfold programCell Image.programIndex
  rw [made.sizePrg loadable, Image.prgSize]
  simp only [single]
  split <;> split <;> omega

theorem chrInside (made : MadeOf data cart) (loadable : Image.Loadable data) {addr : UInt16}
    (low : addr.toNat < 0x2000) : addr.toNat < cart.chr.bytes.size := by
  have banks : data.getD 5 0 = 0 ↔ (data.getD 5 0).toNat = 0 := UInt8.toNat_inj.symm
  rw [made.sizeChr loadable, Image.chrSize]
  simp only [banks]
  split <;> omega

theorem within (made : MadeOf data cart) (loadable : Image.Loadable data) : cart.Within where
  program addr high := by
    obtain ⟨inside, -⟩ := made.cellInside loadable addr
    exact ⟨inside, (cart.cpuReadCell high).trans (Array.getElem?_eq_getElem inside)⟩
  read addr low := by
    have inside := made.chrInside loadable low
    refine ⟨inside, ?_⟩
    rw [cart.ppuReadBytes low, Array.getD_eq_getD_getElem?, Array.getElem?_eq_getElem inside]
    rfl
  write addr value cart' taken := by
    have low := (ppuWriteOk taken).1
    refine ⟨made.chrInside loadable low, ?_⟩
    obtain ⟨lost, -⟩ | ⟨cells, ram, -, put, same⟩ := cart.offerCases (addr, value)
    · rw [taken] at lost
      cases lost
    · rw [taken, Except.ok.injEq] at put
      rw [put, same]
      simp [ram, Chr.bytes, Ram.write, Nat.mod_eq_of_lt low]

theorem accepts (made : MadeOf data cart) (addr : UInt16) (value : UInt8) :
    (cart.ppuWrite addr value).isOk = true ↔ data.getD 5 0 = 0 ∧ addr.toNat < 0x2000 := by
  unfold ppuWrite
  by_cases banks : data.getD 5 0 = 0
  · have ram := made.ram banks
    simp only [banks, true_and, UInt16.lt_iff_toNat_lt, UInt16.reduceToNat]
    cases memory : cart.chr with
    | rom bytes => rw [memory] at ram; cases ram
    | ram cells =>
      by_cases low : addr.toNat < 0x2000
      · simp only [low, iff_true]
        rfl
      · simp only [low, iff_false]
        exact Bool.false_ne_true
  · rw [made.rom banks]
    exact ⟨fun taken => absurd taken Bool.false_ne_true, fun both => absurd both.1 banks⟩

theorem program (made : MadeOf data cart) (loadable : Image.Loadable data) {addr : UInt16}
    (high : 0x8000 ≤ addr.toNat) :
    ∃ inside : Image.programIndex data addr < data.size,
      cart.cpuRead addr = some data[Image.programIndex data addr] := by
  obtain ⟨inside, place⟩ := made.cellInside loadable addr
  have fits := loadable.fits
  have size := made.sizePrg loadable
  have start : Image.chrStart data = Image.prgStart data + Image.prgSize data := rfl
  refine ⟨by omega, ?_⟩
  rw [← Array.getElem?_eq_getElem, cart.cpuReadCell high, made.prg, Array.getElem?_extract,
    if_pos (by omega), place]

theorem readRom (made : MadeOf data cart) (loadable : Image.Loadable data)
    (banks : data.getD 5 0 ≠ 0) {addr : UInt16} (low : addr.toNat < 0x2000) :
    ∃ inside : Image.chrStart data + addr.toNat < data.size,
      cart.ppuRead addr = data[Image.chrStart data + addr.toNat] := by
  have inside := made.chrInside loadable low
  have fits := loadable.fits
  rw [made.sizeChr loadable, if_neg banks] at inside
  have within : Image.chrStart data + addr.toNat < data.size := by omega
  refine ⟨within, ?_⟩
  rw [cart.ppuReadBytes low, made.rom banks, Chr.bytes, Array.getD_eq_getD_getElem?,
    Array.getElem?_extract, if_pos (by omega), Array.getElem?_eq_getElem within]
  rfl

end Cartridge.MadeOf

namespace Cartridge

theorem readBlank {data : Array UInt8} (banks : data.getD 5 0 = 0) (addr : UInt16) :
    (ofLayout data).ppuRead addr = 0 := by
  simp only [ppuRead, ofLayout, Image.ofLayout, if_pos banks, Ram.readFilled, ite_self]

theorem showsLayout {data : Array UInt8} (loadable : Image.Loadable data)
    (writes : List (UInt16 × UInt8)) :
    ((ofLayout data).offerAll writes).Shows data ((ofLayout data).lastTaken writes) where
  below _ low := cpuReadBelow _ low
  program _ high := ((MadeOf.layout data).offerAll writes).program loadable high
  rom banks _ low := ((MadeOf.layout data).offerAll writes).readRom loadable banks low
  ram banks addr _ := by rw [ppuReadOfferAll, readBlank banks]
  accepts := ((MadeOf.layout data).offerAll writes).accepts

end Cartridge

theorem Bus.readMapped {bus : Bus} {cart : Cartridge} (inserted : bus.video.cart = some cart)
    {addr : UInt16} (high : 0x8000 ≤ addr.toNat) {value : UInt8}
    (mapped : cart.cpuRead addr = some value) : (bus.read addr).1 = value := by
  unfold read answer
  simp only [UInt16.lt_iff_toNat_lt, UInt16.reduceToNat]
  rw [if_neg (by omega), if_neg (by omega), if_neg (by omega)]
  simp only [inserted, Option.bind_some, mapped, Option.getD_some]

theorem Console.insertVector (console : Console) {cart : Cartridge} {low high : UInt8}
    (mapped : cart.cpuRead 0xFFFC = some low) (mapped' : cart.cpuRead 0xFFFD = some high) :
    (console.insert cart).cpu.registers.pc = word low high := by
  have on : (console.bus.powerOn cart).video.cart = some cart := rfl
  have on' : ((console.bus.powerOn cart).read 0xFFFC).2.video.cart = some cart :=
    ((console.bus.powerOn cart).readCart 0xFFFC).trans on
  have vector : (console.insert cart).cpu.registers.pc =
      word ((console.bus.powerOn cart).read 0xFFFC).1
        (((console.bus.powerOn cart).read 0xFFFC).2.read 0xFFFD).1 := rfl
  rw [vector, Bus.readMapped on (by decide) mapped, Bus.readMapped on' (by decide) mapped']

/-- Whatever happens after power on, the board of an accepted image answers as the bytes of the
image say, and every access stays inside its memories. A console that loads the image starts at the
vector that is mapped to $FFFC. -/
theorem Cartridge.showsImage {data : Array UInt8} {cart : Cartridge}
    (accepted : ofBytes data = .ok cart) :
    (∀ (bus : Bus) (events : List BoardEvent),
      ∃ now, ((bus.powerOn cart).undergoAll events).video.cart = some now ∧
        now.Shows data (cart.lastTaken ((bus.powerOn cart).allOffers events)) ∧ now.Within) ∧
      ∀ console : Console,
        console.loadFile (some data) = console.loadBytes data ∧
          (console.loadBytes data).1 = none ∧
          ∃ low high, data[Image.programIndex data 0xFFFC]? = some low ∧
            data[Image.programIndex data 0xFFFD]? = some high ∧
            (console.loadBytes data).2.cpu.registers.pc = word low high := by
  obtain ⟨loadable, made⟩ := ofBytesOk.mp accepted
  refine ⟨?_, ?_⟩
  · intro bus events
    have kept := (bus.powerOn cart).undergoAllOffers events
    subst made
    exact ⟨_, kept, showsLayout loadable _, ((MadeOf.layout data).offerAll _).within loadable⟩
  · intro console
    have loaded : console.loadBytes data = (none, console.insert cart) := by
      rw [Console.loadBytes, accepted]
      rfl
    subst made
    have upper : 0x8000 ≤ (0xFFFC : UInt16).toNat := by decide
    have upper' : 0x8000 ≤ (0xFFFD : UInt16).toNat := by decide
    obtain ⟨inside, low⟩ := (MadeOf.layout data).program loadable upper
    obtain ⟨inside', high⟩ := (MadeOf.layout data).program loadable upper'
    refine ⟨rfl, by rw [loaded], _, _, Array.getElem?_eq_getElem inside,
      Array.getElem?_eq_getElem inside', ?_⟩
    rw [loaded]
    exact console.insertVector low high

theorem ImageFile.getProgram (file : ImageFile) (addr : UInt16) :
    file.bytes[Image.programIndex file.bytes addr]? =
      file.prg[(addr.toNat - 0x8000) % (if file.prgBanks = 1 then 0x4000 else 0x8000)]? := by
  have single : file.prgBanks = 1 ↔ file.prgBanks.toNat = 1 := UInt8.toNat_inj.symm
  have hasPrg := file.hasPrg
  rw [Image.programIndex, file.startFront, file.getHeader.1, file.getPrg]
  rw [file.prgSize]
  simp only [single]
  split <;> omega

def trainedFile : ImageFile where
  prgBanks := 1
  chrBanks := 0
  flags := 5
  highFlags := 0
  reserved := .replicate 8 0
  trainer := .replicate 512 0xFF
  prg := .ofFn fun i : Fin 0x4000 => UInt8.ofNat i
  chr := #[]
  trailing := #[0x1A]
  hasPrg := by decide
  trainerSize := Array.size_replicate
  prgSize := Array.size_ofFn
  chrSize := rfl

theorem Cartridge.showsImageTrained :
    let console := Console.new {}
    ofBytes trainedFile.bytes = .ok trainedFile.board ∧
      (∃ now, ((console.bus.powerOn trainedFile.board).undergoAll
          [.signal (.access (.write 0x2006 0x01)) nofun,
            .signal (.access (.write 0x3FFE 0x23)) nofun,
            .signal (.access (.write 0x2007 0x11)) nofun, .board (.ppuWrite 0x0123 0x5A),
            .board (.ppuWrite 0x2123 0x77), .signal (.ppuWrite 0x4124 0x33) nofun,
            .board (.cpuWrite 0xC123 0x44)]).video.cart = some now ∧
        now.cpuRead 0x6000 = none ∧ now.cpuRead 0xC123 = some 0x23 ∧
        now.ppuRead 0x0123 = 0x5A ∧ now.ppuRead 0x0124 = 0x33 ∧ now.ppuRead 0x0125 = 0) ∧
      (console.loadBytes trainedFile.bytes).2.cpu.registers.pc = 0xFDFC := by
  intro console
  have accepted : ofBytes trainedFile.bytes = .ok trainedFile.board :=
    trainedFile.ofBytesBoard (by decide)
  have banks : trainedFile.bytes.getD 5 0 = 0 := trainedFile.getHeader.2.1
  have program (addr : UInt16) :
      trainedFile.bytes[Image.programIndex trainedFile.bytes addr]? =
        some (UInt8.ofNat ((addr.toNat - 0x8000) % 0x4000)) := by
    have single : trainedFile.prgBanks = 1 := rfl
    have inside : (addr.toNat - 0x8000) % 0x4000 < 0x4000 := Nat.mod_lt _ (by decide)
    rw [trainedFile.getProgram, if_pos single]
    simp only [trainedFile, Array.getElem?_ofFn, dif_pos inside]
  obtain ⟨lives, starts⟩ := showsImage accepted
  refine ⟨accepted, ?_, ?_⟩
  · obtain ⟨now, inserted, shown, -⟩ := lives console.bus _
    obtain ⟨inside, mapped⟩ := shown.program 0xC123 (by decide)
    rw [← Array.getElem?_eq_getElem, program] at mapped
    have ram := shown.ram banks
    exact ⟨now, inserted, shown.below _ (by decide), mapped, ram _ (by decide), ram _ (by decide),
      ram _ (by decide)⟩
  · obtain ⟨-, -, low, high, first, second, pc⟩ := starts console
    rw [program, Option.some.injEq] at first second
    rw [pc, ← first, ← second]
    decide

end Nes
