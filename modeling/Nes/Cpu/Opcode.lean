import Nes.Cpu.Instruction

/-! The instruction of every opcode. The table has a row for each high digit of the opcode, and
in a row an entry for each low digit. -/
namespace Nes.Instruction

def row0 : Vector Instruction 16 :=
  #v[⟨.brk, .implied⟩, ⟨.ora, .indirectX⟩, ⟨.jam, .implied⟩, ⟨.slo, .indirectX⟩,
     ⟨.nop, .zeroPage⟩, ⟨.ora, .zeroPage⟩, ⟨.asl, .zeroPage⟩, ⟨.slo, .zeroPage⟩,
     ⟨.php, .implied⟩, ⟨.ora, .immediate⟩, ⟨.asl, .accumulator⟩, ⟨.anc, .immediate⟩,
     ⟨.nop, .absolute⟩, ⟨.ora, .absolute⟩, ⟨.asl, .absolute⟩, ⟨.slo, .absolute⟩]

def row1 : Vector Instruction 16 :=
  #v[⟨.bpl, .relative⟩, ⟨.ora, .indirectY⟩, ⟨.jam, .implied⟩, ⟨.slo, .indirectY⟩,
     ⟨.nop, .zeroPageX⟩, ⟨.ora, .zeroPageX⟩, ⟨.asl, .zeroPageX⟩, ⟨.slo, .zeroPageX⟩,
     ⟨.clc, .implied⟩, ⟨.ora, .absoluteY⟩, ⟨.nop, .implied⟩, ⟨.slo, .absoluteY⟩,
     ⟨.nop, .absoluteX⟩, ⟨.ora, .absoluteX⟩, ⟨.asl, .absoluteX⟩, ⟨.slo, .absoluteX⟩]

def row2 : Vector Instruction 16 :=
  #v[⟨.jsr, .absolute⟩, ⟨.and, .indirectX⟩, ⟨.jam, .implied⟩, ⟨.rla, .indirectX⟩,
     ⟨.bit, .zeroPage⟩, ⟨.and, .zeroPage⟩, ⟨.rol, .zeroPage⟩, ⟨.rla, .zeroPage⟩,
     ⟨.plp, .implied⟩, ⟨.and, .immediate⟩, ⟨.rol, .accumulator⟩, ⟨.anc2, .immediate⟩,
     ⟨.bit, .absolute⟩, ⟨.and, .absolute⟩, ⟨.rol, .absolute⟩, ⟨.rla, .absolute⟩]

def row3 : Vector Instruction 16 :=
  #v[⟨.bmi, .relative⟩, ⟨.and, .indirectY⟩, ⟨.jam, .implied⟩, ⟨.rla, .indirectY⟩,
     ⟨.nop, .zeroPageX⟩, ⟨.and, .zeroPageX⟩, ⟨.rol, .zeroPageX⟩, ⟨.rla, .zeroPageX⟩,
     ⟨.sec, .implied⟩, ⟨.and, .absoluteY⟩, ⟨.nop, .implied⟩, ⟨.rla, .absoluteY⟩,
     ⟨.nop, .absoluteX⟩, ⟨.and, .absoluteX⟩, ⟨.rol, .absoluteX⟩, ⟨.rla, .absoluteX⟩]

def row4 : Vector Instruction 16 :=
  #v[⟨.rti, .implied⟩, ⟨.eor, .indirectX⟩, ⟨.jam, .implied⟩, ⟨.sre, .indirectX⟩,
     ⟨.nop, .zeroPage⟩, ⟨.eor, .zeroPage⟩, ⟨.lsr, .zeroPage⟩, ⟨.sre, .zeroPage⟩,
     ⟨.pha, .implied⟩, ⟨.eor, .immediate⟩, ⟨.lsr, .accumulator⟩, ⟨.alr, .immediate⟩,
     ⟨.jmp, .absolute⟩, ⟨.eor, .absolute⟩, ⟨.lsr, .absolute⟩, ⟨.sre, .absolute⟩]

def row5 : Vector Instruction 16 :=
  #v[⟨.bvc, .relative⟩, ⟨.eor, .indirectY⟩, ⟨.jam, .implied⟩, ⟨.sre, .indirectY⟩,
     ⟨.nop, .zeroPageX⟩, ⟨.eor, .zeroPageX⟩, ⟨.lsr, .zeroPageX⟩, ⟨.sre, .zeroPageX⟩,
     ⟨.cli, .implied⟩, ⟨.eor, .absoluteY⟩, ⟨.nop, .implied⟩, ⟨.sre, .absoluteY⟩,
     ⟨.nop, .absoluteX⟩, ⟨.eor, .absoluteX⟩, ⟨.lsr, .absoluteX⟩, ⟨.sre, .absoluteX⟩]

def row6 : Vector Instruction 16 :=
  #v[⟨.rts, .implied⟩, ⟨.adc, .indirectX⟩, ⟨.jam, .implied⟩, ⟨.rra, .indirectX⟩,
     ⟨.nop, .zeroPage⟩, ⟨.adc, .zeroPage⟩, ⟨.ror, .zeroPage⟩, ⟨.rra, .zeroPage⟩,
     ⟨.pla, .implied⟩, ⟨.adc, .immediate⟩, ⟨.ror, .accumulator⟩, ⟨.arr, .immediate⟩,
     ⟨.jmp, .indirect⟩, ⟨.adc, .absolute⟩, ⟨.ror, .absolute⟩, ⟨.rra, .absolute⟩]

def row7 : Vector Instruction 16 :=
  #v[⟨.bvs, .relative⟩, ⟨.adc, .indirectY⟩, ⟨.jam, .implied⟩, ⟨.rra, .indirectY⟩,
     ⟨.nop, .zeroPageX⟩, ⟨.adc, .zeroPageX⟩, ⟨.ror, .zeroPageX⟩, ⟨.rra, .zeroPageX⟩,
     ⟨.sei, .implied⟩, ⟨.adc, .absoluteY⟩, ⟨.nop, .implied⟩, ⟨.rra, .absoluteY⟩,
     ⟨.nop, .absoluteX⟩, ⟨.adc, .absoluteX⟩, ⟨.ror, .absoluteX⟩, ⟨.rra, .absoluteX⟩]

def row8 : Vector Instruction 16 :=
  #v[⟨.nop, .immediate⟩, ⟨.sta, .indirectX⟩, ⟨.nop, .immediate⟩, ⟨.sax, .indirectX⟩,
     ⟨.sty, .zeroPage⟩, ⟨.sta, .zeroPage⟩, ⟨.stx, .zeroPage⟩, ⟨.sax, .zeroPage⟩,
     ⟨.dey, .implied⟩, ⟨.nop, .immediate⟩, ⟨.txa, .implied⟩, ⟨.ane, .immediate⟩,
     ⟨.sty, .absolute⟩, ⟨.sta, .absolute⟩, ⟨.stx, .absolute⟩, ⟨.sax, .absolute⟩]

def row9 : Vector Instruction 16 :=
  #v[⟨.bcc, .relative⟩, ⟨.sta, .indirectY⟩, ⟨.jam, .implied⟩, ⟨.sha, .indirectY⟩,
     ⟨.sty, .zeroPageX⟩, ⟨.sta, .zeroPageX⟩, ⟨.stx, .zeroPageY⟩, ⟨.sax, .zeroPageY⟩,
     ⟨.tya, .implied⟩, ⟨.sta, .absoluteY⟩, ⟨.txs, .implied⟩, ⟨.tas, .absoluteY⟩,
     ⟨.shy, .absoluteX⟩, ⟨.sta, .absoluteX⟩, ⟨.shx, .absoluteY⟩, ⟨.sha, .absoluteY⟩]

def rowA : Vector Instruction 16 :=
  #v[⟨.ldy, .immediate⟩, ⟨.lda, .indirectX⟩, ⟨.ldx, .immediate⟩, ⟨.lax, .indirectX⟩,
     ⟨.ldy, .zeroPage⟩, ⟨.lda, .zeroPage⟩, ⟨.ldx, .zeroPage⟩, ⟨.lax, .zeroPage⟩,
     ⟨.tay, .implied⟩, ⟨.lda, .immediate⟩, ⟨.tax, .implied⟩, ⟨.lxa, .immediate⟩,
     ⟨.ldy, .absolute⟩, ⟨.lda, .absolute⟩, ⟨.ldx, .absolute⟩, ⟨.lax, .absolute⟩]

def rowB : Vector Instruction 16 :=
  #v[⟨.bcs, .relative⟩, ⟨.lda, .indirectY⟩, ⟨.jam, .implied⟩, ⟨.lax, .indirectY⟩,
     ⟨.ldy, .zeroPageX⟩, ⟨.lda, .zeroPageX⟩, ⟨.ldx, .zeroPageY⟩, ⟨.lax, .zeroPageY⟩,
     ⟨.clv, .implied⟩, ⟨.lda, .absoluteY⟩, ⟨.tsx, .implied⟩, ⟨.las, .absoluteY⟩,
     ⟨.ldy, .absoluteX⟩, ⟨.lda, .absoluteX⟩, ⟨.ldx, .absoluteY⟩, ⟨.lax, .absoluteY⟩]

def rowC : Vector Instruction 16 :=
  #v[⟨.cpy, .immediate⟩, ⟨.cmp, .indirectX⟩, ⟨.nop, .immediate⟩, ⟨.dcp, .indirectX⟩,
     ⟨.cpy, .zeroPage⟩, ⟨.cmp, .zeroPage⟩, ⟨.dec, .zeroPage⟩, ⟨.dcp, .zeroPage⟩,
     ⟨.iny, .implied⟩, ⟨.cmp, .immediate⟩, ⟨.dex, .implied⟩, ⟨.sbx, .immediate⟩,
     ⟨.cpy, .absolute⟩, ⟨.cmp, .absolute⟩, ⟨.dec, .absolute⟩, ⟨.dcp, .absolute⟩]

def rowD : Vector Instruction 16 :=
  #v[⟨.bne, .relative⟩, ⟨.cmp, .indirectY⟩, ⟨.jam, .implied⟩, ⟨.dcp, .indirectY⟩,
     ⟨.nop, .zeroPageX⟩, ⟨.cmp, .zeroPageX⟩, ⟨.dec, .zeroPageX⟩, ⟨.dcp, .zeroPageX⟩,
     ⟨.cld, .implied⟩, ⟨.cmp, .absoluteY⟩, ⟨.nop, .implied⟩, ⟨.dcp, .absoluteY⟩,
     ⟨.nop, .absoluteX⟩, ⟨.cmp, .absoluteX⟩, ⟨.dec, .absoluteX⟩, ⟨.dcp, .absoluteX⟩]

def rowE : Vector Instruction 16 :=
  #v[⟨.cpx, .immediate⟩, ⟨.sbc, .indirectX⟩, ⟨.nop, .immediate⟩, ⟨.isc, .indirectX⟩,
     ⟨.cpx, .zeroPage⟩, ⟨.sbc, .zeroPage⟩, ⟨.inc, .zeroPage⟩, ⟨.isc, .zeroPage⟩,
     ⟨.inx, .implied⟩, ⟨.sbc, .immediate⟩, ⟨.nop, .implied⟩, ⟨.usbc, .immediate⟩,
     ⟨.cpx, .absolute⟩, ⟨.sbc, .absolute⟩, ⟨.inc, .absolute⟩, ⟨.isc, .absolute⟩]

def rowF : Vector Instruction 16 :=
  #v[⟨.beq, .relative⟩, ⟨.sbc, .indirectY⟩, ⟨.jam, .implied⟩, ⟨.isc, .indirectY⟩,
     ⟨.nop, .zeroPageX⟩, ⟨.sbc, .zeroPageX⟩, ⟨.inc, .zeroPageX⟩, ⟨.isc, .zeroPageX⟩,
     ⟨.sed, .implied⟩, ⟨.sbc, .absoluteY⟩, ⟨.nop, .implied⟩, ⟨.isc, .absoluteY⟩,
     ⟨.nop, .absoluteX⟩, ⟨.sbc, .absoluteX⟩, ⟨.inc, .absoluteX⟩, ⟨.isc, .absoluteX⟩]

def rows : Vector (Vector Instruction 16) 16 :=
  #v[row0, row1, row2, row3, row4, row5, row6, row7, row8, row9, rowA, rowB, rowC, rowD, rowE, rowF]

def decode (opcode : UInt8) : Instruction :=
  (rows.get (Fin.ofNat 16 (opcode.toNat / 16))).get (Fin.ofNat 16 opcode.toNat)

end Nes.Instruction
