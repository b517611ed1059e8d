import Nes.Cartridge.Image

/-! Cartridges. The only board is NROM: program and character memory at fixed addresses, and
one program bank fills the upper half of the address space twice. -/
namespace Nes

structure Cartridge where
  prg : Array UInt8
  chr : Chr
  prgBanks : UInt8
  chrBanks : UInt8
  mapper : UInt8
  mirroring : Mirroring
  deriving DecidableEq, Repr

namespace Cartridge

def boardName : String :=
  "NROM"

def ofImage (image : Image) : Except LoadError Cartridge :=
  if image.mapper = 0 then
    .ok {
      prg := image.prg
      chr := image.chr
      prgBanks := image.prgBanks
      chrBanks := image.chrBanks
      mapper := image.mapper
      mirroring := image.mirroring }
  else
    .error (.unsupportedMapper image.mapper)

def ofBytes (data : Array UInt8) : Except LoadError Cartridge := do
  ofImage (← Image.parse data)

def ofFile (contents : Option (Array UInt8)) : Except LoadError Cartridge :=
  match contents with
  | none => .error .fileNotFound
  | some data => ofBytes data

def cpuRead (cart : Cartridge) (addr : UInt16) : Option UInt8 :=
  if addr < 0x8000 then none
  else
    let offset := addr.toNat - 0x8000
    cart.prg[if cart.prg.size > Image.prgBankSize then offset else offset % Image.prgBankSize]?

-- The board has neither registers nor RAM that the processor could write.
def cpuWrite (_ : Cartridge) (addr : UInt16) (value : UInt8) : BoardFault :=
  .cpuWrite addr value

def ppuRead (cart : Cartridge) (addr : UInt16) : UInt8 :=
  if addr < 0x2000 then
    match cart.chr with
    | .rom bytes => bytes.getD addr.toNat 0
    | .ram cells => cells.read addr.toNat
  else 0

def ppuWrite (cart : Cartridge) (addr : UInt16) (value : UInt8) : Except BoardFault Cartridge :=
  match cart.chr with
  | .ram cells =>
    if addr < 0x2000 then .ok { cart with chr := .ram (cells.write addr.toNat value) }
    else .error (.ppuWrite addr value)
  | .rom _ => .error (.ppuWrite addr value)

end Cartridge
end Nes
