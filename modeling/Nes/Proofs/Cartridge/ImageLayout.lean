import Nes.Cartridge

/-! The layout of an image. An image is accepted exactly when its header is one, its sections are
there in full and its board is known; of several defects the first in this order is told. A file put
together from its parts is read back as these parts. -/
namespace Nes

namespace Image

def prgStart (data : Array UInt8) : Nat :=
  if testBit (data.getD 6 0) 2 then 528 else 16

def prgSize (data : Array UInt8) : Nat :=
  0x4000 * (data.getD 4 0).toNat

def chrStart (data : Array UInt8) : Nat :=
  prgStart data + prgSize data

def chrSize (data : Array UInt8) : Nat :=
  0x2000 * (data.getD 5 0).toNat

def mapperNumber (flags highFlags : UInt8) : UInt8 :=
  (highFlags &&& (0xF0 : UInt8)) ||| (flags >>> (4 : UInt8))

def ofLayout (data : Array UInt8) : Image where
  prg := data.extract (prgStart data) (chrStart data)
  chr :=
    if data.getD 5 0 = 0 then .ram (.filled 0x2000 0)
    else .rom (data.extract (chrStart data) (chrStart data + chrSize data))
  prgBanks := data.getD 4 0
  chrBanks := data.getD 5 0
  mirroring := if testBit (data.getD 6 0) 0 then .vertical else .horizontal
  mapper := mapperNumber (data.getD 6 0) (data.getD 7 0)
  hasTrainer := testBit (data.getD 6 0) 2

def defects (data : Array UInt8) : List (Bool × LoadError) :=
  [(decide (data.size < 16), .tooShort data.size),
    (decide (data.toList.take 4 ≠ [0x4E, 0x45, 0x53, 0x1A]), .badMagic),
    (decide (data.getD 4 0 = 0), .truncated .prg 0x4000 0),
    (decide (data.size - prgStart data < prgSize data),
      .truncated .prg (prgSize data) (data.size - prgStart data)),
    (decide (data.size - chrStart data < chrSize data),
      .truncated .chr (chrSize data) (data.size - chrStart data)),
    (decide (mapperNumber (data.getD 6 0) (data.getD 7 0) ≠ 0),
      .unsupportedMapper (mapperNumber (data.getD 6 0) (data.getD 7 0)))]

def firstDefect (data : Array UInt8) : Option LoadError :=
  ((defects data).find? (·.1)).map (·.2)

structure Loadable (data : Array UInt8) : Prop where
  header : 16 ≤ data.size
  magic : data.toList.take 4 = [0x4E, 0x45, 0x53, 0x1A]
  prgBanks : 1 ≤ (data.getD 4 0).toNat
  size :
    16 + (if testBit (data.getD 6 0) 2 then 512 else 0) + 0x4000 * (data.getD 4 0).toNat +
      0x2000 * (data.getD 5 0).toNat ≤ data.size
  flags : (data.getD 6 0).toNat / 16 = 0
  highFlags : (data.getD 7 0).toNat / 16 = 0

theorem mapperParts (flags highFlags : UInt8) :
    highFlags / 16 * 16 + flags / 16 = mapperNumber flags highFlags := by
  have nibbles : ∀ byte : UInt8, byte &&& 0xF0 = byte / 16 * 16 ∧ byte >>> 4 = byte / 16 := by
    decide +kernel
  have high := (nibbles highFlags).1
  have low := (nibbles flags).2
  have bound := highFlags.toNat_lt
  have bound' := flags.toNat_lt
  apply UInt8.toNat_inj.mp
  rw [mapperNumber, high, low]
  simp only [UInt8.toNat_or, UInt8.toNat_add, UInt8.toNat_mul, UInt8.toNat_div, UInt8.reduceToNat]
  rw [Nat.mod_eq_of_lt (by omega : highFlags.toNat / 16 * 16 < 2 ^ 8), Nat.mod_eq_of_lt (by omega),
    Nat.mul_comm]
  exact Nat.two_pow_add_eq_or_of_lt (i := 4) (by omega) _

theorem mapperZero (flags highFlags : UInt8) :
    mapperNumber flags highFlags = 0 ↔ flags.toNat / 16 = 0 ∧ highFlags.toNat / 16 = 0 := by
  have bound := highFlags.toNat_lt
  have bound' := flags.toNat_lt
  rw [← mapperParts, ← UInt8.toNat_inj]
  simp only [UInt8.toNat_add, UInt8.toNat_mul, UInt8.toNat_div, UInt8.reduceToNat]
  omega

theorem prgStartTrainer (data : Array UInt8) :
    prgStart data = 16 + (if testBit (data.getD 6 0) 2 then 512 else 0) := by
  unfold prgStart
  split <;> rfl

theorem parseLayout (data : Array UInt8) :
    parse data =
      if data.size < 16 then .error (.tooShort data.size)
      else if data.toList.take 4 ≠ [0x4E, 0x45, 0x53, 0x1A] then .error .badMagic
      else if data.getD 4 0 = 0 then .error (.truncated .prg 0x4000 0)
      else if data.size - prgStart data < prgSize data then
        .error (.truncated .prg (prgSize data) (data.size - prgStart data))
      else if data.size - chrStart data < chrSize data then
        .error (.truncated .chr (chrSize data) (data.size - chrStart data))
      else .ok (ofLayout data) := by
  have start := (prgStartTrainer data).symm
  have prg : (data.getD 4 0).toNat * 0x4000 = prgSize data := Nat.mul_comm _ _
  have chr : (data.getD 5 0).toNat * 0x2000 = chrSize data := Nat.mul_comm _ _
  have next : prgStart data + prgSize data = chrStart data := rfl
  have magical : data.extract 0 4 = magic ↔ data.toList.take 4 = [0x4E, 0x45, 0x53, 0x1A] := by
    rw [← Array.toList_inj, Array.toList_extract]
    rfl
  unfold parse slice
  delta headerSize trainerSize prgBankSize chrBankSize
  simp only [throw, throwThe, MonadExceptOf.throw, bind, Except.bind, pure, Except.pure, start, prg,
    chr, next, mapperParts, ne_eq, magical]
  by_cases short : data.size < 16
  · rw [if_pos short, if_pos short]
  by_cases foreign : ¬data.toList.take 4 = [0x4E, 0x45, 0x53, 0x1A]
  · simp only [if_neg short, if_pos foreign]
  by_cases empty : data.getD 4 0 = 0
  · simp only [if_neg short, if_neg foreign, if_pos empty]
  by_cases prgShort : data.size - prgStart data < prgSize data
  · simp only [if_neg short, if_neg foreign, if_neg empty, if_pos prgShort]
  simp only [if_neg short, if_neg foreign, if_neg empty, if_neg prgShort]
  by_cases ram : data.getD 5 0 = 0
  · have none : ¬data.size - chrStart data < chrSize data := by
      rw [chrSize, ram]
      exact Nat.not_lt_zero _
    simp only [if_pos ram, if_neg none, ofLayout]
  simp only [if_neg ram, ofLayout]
  by_cases chrShort : data.size - chrStart data < chrSize data
  · simp only [if_pos chrShort]
    rfl
  · simp only [if_neg chrShort]
    rfl

end Image

def Cartridge.ofLayout (data : Array UInt8) : Cartridge where
  prg := (Image.ofLayout data).prg
  chr := (Image.ofLayout data).chr
  prgBanks := data.getD 4 0
  chrBanks := data.getD 5 0
  mapper := 0
  mirroring := (Image.ofLayout data).mirroring

theorem Cartridge.ofImageLayout (data : Array UInt8) :
    ofImage (Image.ofLayout data) =
      if Image.mapperNumber (data.getD 6 0) (data.getD 7 0) ≠ 0 then
        .error (.unsupportedMapper (Image.mapperNumber (data.getD 6 0) (data.getD 7 0)))
      else .ok (ofLayout data) := by
  have mapper : (Image.ofLayout data).mapper =
      Image.mapperNumber (data.getD 6 0) (data.getD 7 0) := rfl
  unfold ofImage
  rw [mapper]
  by_cases known : Image.mapperNumber (data.getD 6 0) (data.getD 7 0) = 0
  · rw [if_pos known, if_neg (not_not_intro known), known]
    rfl
  · rw [if_neg known, if_pos known]

theorem Cartridge.ofBytesLayout (data : Array UInt8) :
    ofBytes data = (Image.firstDefect data).elim (.ok (ofLayout data)) .error := by
  have read : ofBytes data = (Image.parse data).bind ofImage := rfl
  have first (c : Prop) [Decidable c] (e : LoadError) (rest : List (Bool × LoadError)) :
      (((decide c, e) :: rest).find? (·.1)).map (·.2) =
        if c then some e else (rest.find? (·.1)).map (·.2) := by
    by_cases applies : c <;> simp [applies]
  rw [read, Image.parseLayout]
  unfold Image.firstDefect Image.defects
  simp only [first, List.find?_nil, Option.map_none]
  iterate 5
    split
    · rfl
  exact (ofImageLayout data).trans (by split <;> rfl)

theorem Image.firstDefectNone (data : Array UInt8) : firstDefect data = none ↔ Loadable data := by
  have start := prgStartTrainer data
  have banks : data.getD 4 0 = 0 ↔ (data.getD 4 0).toNat = 0 := UInt8.toNat_inj.symm
  simp only [firstDefect, Option.map_eq_none_iff, List.find?_eq_none, defects, List.forall_mem_cons,
    List.not_mem_nil, false_implies, implies_true, and_true, decide_eq_true_eq, ne_eq,
    Decidable.not_not, mapperZero, banks]
  constructor
  · rintro ⟨header, magic, prgBanks, prg, chr, flags, highFlags⟩
    unfold chrStart prgSize chrSize at *
    exact ⟨by omega, magic, by omega, by omega, flags, highFlags⟩
  · rintro ⟨header, magic, prgBanks, size, flags, highFlags⟩
    unfold chrStart prgSize chrSize
    exact ⟨by omega, magic, by omega, by omega, by omega, flags, highFlags⟩

theorem Cartridge.ofBytesOk {data : Array UInt8} {cart : Cartridge} :
    ofBytes data = .ok cart ↔ Image.Loadable data ∧ ofLayout data = cart := by
  rw [← Image.firstDefectNone, ofBytesLayout]
  cases Image.firstDefect data with
  | none => simp
  | some e => simp

structure ImageFile where
  prgBanks : UInt8
  chrBanks : UInt8
  flags : UInt8
  highFlags : UInt8
  reserved : Vector UInt8 8
  trainer : Array UInt8
  prg : Array UInt8
  chr : Array UInt8
  trailing : Array UInt8
  hasPrg : 1 ≤ prgBanks.toNat
  trainerSize : trainer.size = if testBit flags 2 then 512 else 0
  prgSize : prg.size = 0x4000 * prgBanks.toNat
  chrSize : chr.size = 0x2000 * chrBanks.toNat

namespace ImageFile
variable (file : ImageFile)

def fields : Array UInt8 :=
  #[0x4E, 0x45, 0x53, 0x1A, file.prgBanks, file.chrBanks, file.flags, file.highFlags]

def bytes : Array UInt8 :=
  file.fields ++ file.reserved.toArray ++ file.trainer ++ file.prg ++ file.chr ++ file.trailing

def image : Image where
  prg := file.prg
  chr := if file.chrBanks = 0 then .ram (.filled 0x2000 0) else .rom file.chr
  prgBanks := file.prgBanks
  chrBanks := file.chrBanks
  mirroring := if testBit file.flags 0 then .vertical else .horizontal
  mapper := Image.mapperNumber file.flags file.highFlags
  hasTrainer := testBit file.flags 2

theorem extractMiddle (xs ys zs : Array UInt8) :
    (xs ++ ys ++ zs).extract xs.size (xs.size + ys.size) = ys := by
  rw [Array.extract_append, Array.extract_append]
  simp

theorem getField {i : Nat} (inside : i < 8) : file.bytes.getD i 0 = file.fields.getD i 0 := by
  have first : file.bytes = file.fields ++ (file.reserved.toArray ++ file.trainer ++ file.prg ++
      file.chr ++ file.trailing) := by
    simp only [bytes, Array.append_assoc]
  rw [first, Array.getD_eq_getD_getElem?, Array.getElem?_append_left inside,
    ← Array.getD_eq_getD_getElem?]

theorem getHeader :
    file.bytes.getD 4 0 = file.prgBanks ∧ file.bytes.getD 5 0 = file.chrBanks ∧
      file.bytes.getD 6 0 = file.flags ∧ file.bytes.getD 7 0 = file.highFlags :=
  ⟨file.getField (by decide), file.getField (by decide), file.getField (by decide),
    file.getField (by decide)⟩

def front : Array UInt8 :=
  file.fields ++ file.reserved.toArray ++ file.trainer

theorem startFront : Image.prgStart file.bytes = file.front.size := by
  have fields : file.fields.size = 8 := rfl
  obtain ⟨-, -, flags, -⟩ := file.getHeader
  simp only [Image.prgStart, flags, front, Array.size_append, Vector.size_toArray, fields,
    file.trainerSize]
  split <;> rfl

theorem sizePrg : Image.prgSize file.bytes = file.prg.size := by
  rw [Image.prgSize, file.getHeader.1, file.prgSize]

theorem sizeChr : Image.chrSize file.bytes = file.chr.size := by
  rw [Image.chrSize, file.getHeader.2.1, file.chrSize]

theorem startChr : Image.chrStart file.bytes = (file.front ++ file.prg).size := by
  rw [Image.chrStart, startFront, sizePrg, Array.size_append]

theorem ofLayoutBytes : Image.ofLayout file.bytes = file.image := by
  obtain ⟨prgBanks, chrBanks, flags, highFlags⟩ := file.getHeader
  have prg : file.bytes.extract (Image.prgStart file.bytes) (Image.chrStart file.bytes) =
      file.prg := by
    have middle : file.bytes = file.front ++ file.prg ++ (file.chr ++ file.trailing) := by
      simp only [bytes, front, Array.append_assoc]
    rw [Image.chrStart, startFront, sizePrg, middle, extractMiddle]
  have chr : file.bytes.extract (Image.chrStart file.bytes)
      (Image.chrStart file.bytes + Image.chrSize file.bytes) = file.chr := by
    rw [startChr, sizeChr]
    exact extractMiddle _ _ _
  simp only [Image.ofLayout, image, prg, chr, prgBanks, chrBanks, flags, highFlags]

theorem parseBytes : Image.parse file.bytes = .ok file.image := by
  have fields : file.fields.size = 8 := rfl
  have reserved : file.reserved.toArray.size = 8 := file.reserved.size_toArray
  have size : file.bytes.size =
      file.front.size + file.prg.size + file.chr.size + file.trailing.size := by
    simp only [bytes, front, Array.size_append]
  have header : 16 ≤ file.front.size := by
    simp only [front, Array.size_append]
    omega
  have magic : file.bytes.toList.take 4 = [0x4E, 0x45, 0x53, 0x1A] := by
    simp [bytes, ImageFile.fields]
  have hasPrg : ¬file.prgBanks = 0 := fun none => by simpa [none] using file.hasPrg
  rw [Image.parseLayout, file.getHeader.1, startFront, sizePrg, startChr, sizeChr, Array.size_append,
    ofLayoutBytes, if_neg (by omega), if_neg (not_not_intro magic), if_neg hasPrg,
    if_neg (by omega), if_neg (by omega)]

theorem getPrg {i : Nat} (inside : i < file.prg.size) :
    file.bytes[file.front.size + i]? = file.prg[i]? := by
  have middle : file.bytes = file.front ++ (file.prg ++ (file.chr ++ file.trailing)) := by
    simp only [bytes, front, Array.append_assoc]
  rw [middle, Array.getElem?_append_right (Nat.le_add_right _ _), Nat.add_sub_cancel_left,
    Array.getElem?_append_left inside]

def board : Cartridge where
  prg := file.prg
  chr := file.image.chr
  prgBanks := file.prgBanks
  chrBanks := file.chrBanks
  mapper := 0
  mirroring := file.image.mirroring

theorem ofBytesBoard (known : Image.mapperNumber file.flags file.highFlags = 0) :
    Cartridge.ofBytes file.bytes = .ok file.board := by
  have read : Cartridge.ofBytes file.bytes =
      (Image.parse file.bytes).bind Cartridge.ofImage := rfl
  have mapper : file.image.mapper = 0 := known
  rw [read, file.parseBytes, Except.bind, Cartridge.ofImage, if_pos mapper, mapper]
  rfl

end ImageFile

/-- An image is loaded exactly when it is one, and else the first of its defects is told. A file
made of its parts is read as these, whatever follows them. -/
theorem Cartridge.loadsLayout :
    (∀ data : Array UInt8,
      ((∃ cart, ofBytes data = .ok cart) ↔ Image.Loadable data) ∧
        ∀ e, ofBytes data = .error e ↔ Image.firstDefect data = some e) ∧
      ∀ file : ImageFile, Image.parse file.bytes = .ok file.image := by
  refine ⟨?_, ImageFile.parseBytes⟩
  intro data
  rw [← Image.firstDefectNone, ofBytesLayout]
  cases Image.firstDefect data with
  | none => simp
  | some e => simp [eq_comm]

end Nes
