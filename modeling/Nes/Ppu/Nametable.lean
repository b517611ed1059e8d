import Nes.Mirroring
import Nes.Ram

/-! Nametables: four logical tables of tile numbers and attributes, kept in two banks. -/
namespace Nes

structure Nametables where
  first : Ram 0x400 := .filled 0x400 0
  second : Ram 0x400 := .filled 0x400 0
  deriving DecidableEq, Repr, Inhabited

namespace Nametables

def bank (n : Nametables) (number : Fin 2) : Ram 0x400 :=
  if number.val = 0 then n.first else n.second

def write (n : Nametables) (number : Fin 2) (offset : Nat) (value : UInt8) : Nametables :=
  if number.val = 0 then { n with first := n.first.write offset value }
  else { n with second := n.second.write offset value }

theorem bankWrite (n : Nametables) (number number' : Fin 2) (offset : Nat) (value : UInt8) :
    (n.write number offset value).bank number' =
      if number = number' then (n.bank number').write offset value else n.bank number' := by
  unfold write bank
  grind

end Nametables

-- Where a tile of a picture of tables lies: the table, and the column and the row in it. The
-- picture has two tables side by side, twice; a table has 32 columns and 30 rows.
structure TilePlace where
  table : Nat
  column : Nat
  row : Nat
  deriving DecidableEq, Repr

namespace TilePlace

def ofPoint (x y : Nat) : TilePlace where
  table := 2 * (y / 240) + x / 256
  column := x % 256 / 8
  row := y % 240 / 8

def left (p : TilePlace) : Nat :=
  256 * (p.table % 2) + 8 * p.column

def top (p : TilePlace) : Nat :=
  240 * (p.table / 2) + 8 * p.row

def tileCell (p : TilePlace) : Nat :=
  32 * p.row + p.column

def attributeCell (p : TilePlace) : Nat :=
  0x3C0 + 8 * (p.row / 4) + p.column / 4

def attributeShift (p : TilePlace) : Nat :=
  4 * (p.row / 2 % 2) + 2 * (p.column / 2 % 2)

def palette (p : TilePlace) (attributes : UInt8) : Nat :=
  attributes.toNat >>> p.attributeShift % 4

end TilePlace
end Nes
