/-! Instructions: an operation together with the way its operand is found. -/
namespace Nes

inductive Operation where
  | adc | and | asl | bcc | bcs | beq | bit | bmi | bne | bpl | brk | bvc | bvs | clc | cld
  | cli | clv | cmp | cpx | cpy | dec | dex | dey | eor | inc | inx | iny | jmp | jsr | lda
  | ldx | ldy | lsr | nop | ora | pha | php | pla | plp | rol | ror | rti | rts | sbc | sec
  | sed | sei | sta | stx | sty | tax | tay | tsx | txa | txs | tya
  | alr | anc | anc2 | ane | arr | dcp | isc | jam | las | lax | lxa | rla | rra | sax | sbx
  | sha | shx | shy | slo | sre | tas | usbc
  deriving DecidableEq, Repr

def Operation.isUnofficial : Operation → Bool
  | alr | anc | anc2 | ane | arr | dcp | isc | jam | las | lax | lxa | rla | rra | sax | sbx
  | sha | shx | shy | slo | sre | tas | usbc => true
  | _ => false

inductive Mode where
  | implied | accumulator | immediate | zeroPage | zeroPageX | zeroPageY | relative
  | absolute | absoluteX | absoluteY | indirect | indirectX | indirectY
  deriving DecidableEq, Repr

structure Instruction where
  operation : Operation
  mode : Mode
  deriving DecidableEq, Repr

end Nes
