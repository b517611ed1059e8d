import Nes.Hex

/-! What can go wrong with a cartridge: an image that does not load, and an access that the
board cannot perform. -/
namespace Nes

inductive ImageSection where
  | prg
  | chr
  deriving DecidableEq, Repr

def ImageSection.name : ImageSection → String
  | prg => "PRG ROM"
  | chr => "CHR ROM"

inductive LoadError where
  | tooShort (size : Nat)
  | badMagic
  | truncated (part : ImageSection) (expected found : Nat)
  | unsupportedMapper (mapper : UInt8)
  | fileNotFound
  deriving DecidableEq, Repr

def LoadError.message : LoadError → String
  | tooShort size => s!"image is {size} bytes, shorter than the 16-byte iNES header"
  | badMagic => "missing iNES magic (expected 4E 45 53 1A)"
  | truncated part expected found =>
    s!"truncated {part.name}: expected {expected} bytes, found {found}"
  | unsupportedMapper mapper => s!"unsupported mapper {mapper.toNat}"
  | fileNotFound => "failed to read ROM file: No such file or directory (os error 2)"

inductive BoardFault where
  | cpuWrite (addr : UInt16) (value : UInt8)
  | ppuWrite (addr : UInt16) (value : UInt8)
  deriving DecidableEq, Repr

namespace BoardFault

def side : BoardFault → String
  | cpuWrite .. => "CPU"
  | ppuWrite .. => "PPU"

def addr : BoardFault → UInt16
  | cpuWrite addr _ | ppuWrite addr _ => addr

def value : BoardFault → UInt8
  | cpuWrite _ value | ppuWrite _ value => value

def message (fault : BoardFault) : String :=
  "NROM: " ++ fault.side ++ " write $" ++ Hex.padded 2 fault.value.toNat ++ " to $" ++
    Hex.padded 4 fault.addr.toNat ++ " is not supported"

end BoardFault
end Nes
