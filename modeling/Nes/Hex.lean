/-! Numbers in upper-case hexadecimal, with leading zeros to a fixed width. -/
namespace Nes.Hex

def digit (n : Nat) : Char :=
  Char.ofNat (if n < 10 then 48 + n else 55 + n)

def digits : (width n : Nat) → List Char
  | 0, _ => []
  | width + 1, n => digits width (n / 16) ++ [digit (n % 16)]

def padded (width n : Nat) : String :=
  String.ofList (digits width n)

end Nes.Hex
