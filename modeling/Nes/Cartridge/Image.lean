import Nes.Cartridge.Error
import Nes.Mirroring
import Nes.Ram
import Nes.Word

/-! Cartridge images in the iNES layout: a header of 16 bytes, a trainer of 512 bytes if the
header says so, the program banks, and the character banks. An image without character banks
stands for a board with character RAM. -/
namespace Nes

inductive Chr where
  | rom (bytes : Array UInt8)
  | ram (cells : Ram 0x2000)
  deriving DecidableEq, Repr

structure Image where
  prg : Array UInt8
  chr : Chr
  prgBanks : UInt8
  chrBanks : UInt8
  mirroring : Mirroring
  mapper : UInt8
  hasTrainer : Bool
  deriving DecidableEq, Repr

namespace Chr

def bytes : Chr → Array UInt8
  | rom bytes => bytes
  | ram cells => cells.cells.toArray

def isRam : Chr → Bool
  | rom _ => false
  | ram _ => true

end Chr

namespace Image

def headerSize : Nat := 16
def trainerSize : Nat := 512
def prgBankSize : Nat := 0x4000
def chrBankSize : Nat := 0x2000

def magic : Array UInt8 :=
  #[0x4E, 0x45, 0x53, 0x1A]

def slice (data : Array UInt8) (start len : Nat) (part : ImageSection) :
    Except LoadError (Array UInt8) :=
  let found := data.size - start
  if found < len then .error (.truncated part len found)
  else .ok (data.extract start (start + len))

def parse (data : Array UInt8) : Except LoadError Image := do
  if data.size < headerSize then throw (.tooShort data.size)
  if data.extract 0 4 ≠ magic then throw .badMagic
  let prgBanks := data.getD 4 0
  let chrBanks := data.getD 5 0
  let flags := data.getD 6 0
  let highFlags := data.getD 7 0
  let hasTrainer := testBit flags 2
  if prgBanks = 0 then throw (.truncated .prg prgBankSize 0)
  let prgStart := headerSize + if hasTrainer then trainerSize else 0
  let prgSize := prgBanks.toNat * prgBankSize
  let prg ← slice data prgStart prgSize .prg
  let chr ←
    if chrBanks = 0 then pure (Chr.ram (.filled 0x2000 0))
    else Chr.rom <$> slice data (prgStart + prgSize) (chrBanks.toNat * chrBankSize) .chr
  return {
    prg, chr, prgBanks, chrBanks, hasTrainer
    mirroring := if testBit flags 0 then .vertical else .horizontal
    mapper := highFlags / 16 * 16 + flags / 16 }

end Image
end Nes
