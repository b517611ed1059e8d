import Nes.Ram
import Nes.Word

/-! Tiles: 512 patterns of eight by eight pixels. In character memory a row of a tile is two
bytes, one for each bit of its pixels, eight addresses apart; the unit keeps the pixels. -/
namespace Nes

abbrev Tiles :=
  Ram 0x8000

namespace Tiles

def decode (low high : UInt8) (x : Nat) : UInt8 :=
  (testBit low (7 - x)).toUInt8 + 2 * (testBit high (7 - x)).toUInt8

def pixel (tiles : Tiles) (tile x y : Nat) : UInt8 :=
  tiles.read (64 * tile + 8 * y + x)

def rowAddress (tile row : Nat) : UInt16 :=
  UInt16.ofNat (16 * tile + row)

def ofChr (chr : UInt16 → UInt8) : Tiles :=
  .ofFn fun i =>
    let addr := rowAddress (i.val / 64) (i.val / 8 % 8)
    decode (chr addr) (chr (addr + 8)) (i.val % 8)

def refresh (tiles : Tiles) (chr : UInt16 → UInt8) (tile row : Nat) : Tiles :=
  let addr := rowAddress tile row
  let low := chr addr
  let high := chr (addr + 8)
  tiles.writeAll (64 * tile + 8 * row) ((List.range 8).map (decode low high))

end Tiles
end Nes
