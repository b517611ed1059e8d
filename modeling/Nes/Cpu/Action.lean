import Nes.Cpu.Arithmetic
import Nes.Cpu.Operand

/-! What each operation does with its operand. Operations fall into a few kinds by the use they
make of the bus; within a kind they differ only in what they do to the registers. -/
namespace Nes

inductive Action where
  | load (use : UInt8 → Registers → Registers)
  | store (value : Registers → UInt8)
  | storeUnstable (settle : Registers → Registers) (value : Registers → UInt8)
  | modify (alter : Alteration) (use : UInt8 → Registers → Registers)
  | internal (change : Registers → Registers)
  | branch (taken : Status → Bool)
  | jump
  | call
  | return
  | returnFromInterrupt
  | brk
  | push (value : Registers → UInt8)
  | pull (use : UInt8 → Registers → Registers)
  | jam

namespace Operation
open Registers Alteration

def unstableBits : UInt8 :=
  0xEE

def ignore : UInt8 → Registers → Registers :=
  fun _ r => r

def andA (value : UInt8) (r : Registers) : Registers :=
  r.loadA (r.a &&& value)

def orA (value : UInt8) (r : Registers) : Registers :=
  r.loadA (r.a ||| value)

def xorA (value : UInt8) (r : Registers) : Registers :=
  r.loadA (r.a ^^^ value)

def loadAX (value : UInt8) (r : Registers) : Registers :=
  { r with a := value }.loadX value

def andCarry (value : UInt8) (r : Registers) : Registers :=
  let r := andA value r
  { r with status := { r.status with carry := testBit r.a 7 } }

def andRotate (value : UInt8) (r : Registers) : Registers :=
  let result := (r.a &&& value) >>> 1 ||| r.status.carry.toUInt8 <<< 7
  let r := r.loadA result
  { r with
    status :=
      { r.status with
        carry := testBit result 6
        overflow := testBit result 6 != testBit result 5 } }

def subtractFromAX (value : UInt8) (r : Registers) : Registers :=
  let masked := r.a &&& r.x
  { r with status := { r.status with carry := decide (masked ≥ value) } }.loadX (masked - value)

def loadAXSP (value : UInt8) (r : Registers) : Registers :=
  let masked := value &&& r.sp
  loadAX masked { r with sp := masked }

def action : Operation → Action
  | lda => .load loadA
  | ldx => .load loadX
  | ldy => .load loadY
  | sta => .store (·.a)
  | stx => .store (·.x)
  | sty => .store (·.y)
  | tax => .internal fun r => r.loadX r.a
  | tay => .internal fun r => r.loadY r.a
  | tsx => .internal fun r => r.loadX r.sp
  | txa => .internal fun r => r.loadA r.x
  | tya => .internal fun r => r.loadA r.y
  | txs => .internal fun r => { r with sp := r.x }
  | adc => .load add
  | sbc | usbc => .load subtract
  | and => .load andA
  | ora => .load orA
  | eor => .load xorA
  | bit => .load testBits
  | cmp => .load fun value r => r.compare r.a value
  | cpx => .load fun value r => r.compare r.x value
  | cpy => .load fun value r => r.compare r.y value
  | asl => .modify shiftLeft ignore
  | lsr => .modify shiftRight ignore
  | rol => .modify rotateLeft ignore
  | ror => .modify rotateRight ignore
  | inc => .modify increment ignore
  | dec => .modify decrement ignore
  | inx => .internal fun r => r.loadX (r.x + 1)
  | dex => .internal fun r => r.loadX (r.x - 1)
  | iny => .internal fun r => r.loadY (r.y + 1)
  | dey => .internal fun r => r.loadY (r.y - 1)
  | bcc => .branch (!·.carry)
  | bcs => .branch (·.carry)
  | bne => .branch (!·.zero)
  | beq => .branch (·.zero)
  | bpl => .branch (!·.negative)
  | bmi => .branch (·.negative)
  | bvc => .branch (!·.overflow)
  | bvs => .branch (·.overflow)
  | jmp => .jump
  | jsr => .call
  | rts => .return
  | rti => .returnFromInterrupt
  | brk => .brk
  | pha => .push (·.a)
  | php => .push (·.status.breakByte)
  | pla => .pull loadA
  | plp => .pull fun value r => { r with status := .ofStack value }
  | clc => .internal fun r => { r with status := { r.status with carry := false } }
  | sec => .internal fun r => { r with status := { r.status with carry := true } }
  | cli => .internal fun r => { r with status := { r.status with interruptDisable := false } }
  | sei => .internal fun r => { r with status := { r.status with interruptDisable := true } }
  | cld => .internal fun r => { r with status := { r.status with decimal := false } }
  | sed => .internal fun r => { r with status := { r.status with decimal := true } }
  | clv => .internal fun r => { r with status := { r.status with overflow := false } }
  | nop => .load ignore
  | slo => .modify shiftLeft orA
  | rla => .modify rotateLeft andA
  | sre => .modify shiftRight xorA
  | rra => .modify rotateRight add
  | isc => .modify (fun value s => (value + 1, s)) subtract
  | dcp => .modify (fun value s => (value - 1, s)) fun value r => r.compare r.a value
  | lax => .load loadAX
  | sax => .store fun r => r.a &&& r.x
  | las => .load loadAXSP
  | sha => .storeUnstable id fun r => r.a &&& r.x
  | shx => .storeUnstable id (·.x)
  | shy => .storeUnstable id (·.y)
  | tas => .storeUnstable (fun r => { r with sp := r.a &&& r.x }) (·.sp)
  | anc | anc2 => .load andCarry
  | alr => .load fun value r => { r with a := r.a &&& value }.alterA shiftRight
  | arr => .load andRotate
  | ane => .load fun value r => r.loadA ((r.a ||| unstableBits) &&& r.x &&& value)
  | lxa => .load fun value r => loadAX ((r.a ||| unstableBits) &&& value) r
  | sbx => .load subtractFromAX
  | jam => .jam

end Operation

namespace Action
open Transaction

def breakVector : UInt16 :=
  0xFFFE

def enterHandler (vector returnTo : UInt16) (saved : UInt8) (r : Registers) :
    Transaction Registers := do
  let r ← r.pushWord returnTo
  let r ← r.push saved
  let pc ← readWord vector
  return { r with status := { r.status with interruptDisable := true }, pc }

def enterBreak (r : Registers) : Transaction Registers :=
  enterHandler breakVector (r.pc + 1) r.status.breakByte r

def perform (action : Action) (operand : Operand) (r : Registers) : Transaction Registers :=
  match action with
  | load use => do
    let value ← operand.load r
    return use value r
  | store value => operand.store (value r) r
  | storeUnstable settle value => do
    let r := settle r
    operand.storeUnstable (value r)
    return r
  | modify alter use => do
    let value ← operand.load r
    if operand.target?.isSome then wait
    let (result, status) := alter value r.status
    let r ← operand.store result { r with status }
    return use result r
  | internal change => return change r
  | branch taken =>
    match taken r.status, operand.target? with
    | true, some pc => do
      wait
      return { r with pc }
    | _, _ => return r
  | jump =>
    match operand.target? with
    | some pc => return { r with pc }
    | none => return r
  | call =>
    match operand.target? with
    | some pc => do
      wait
      let r ← r.pushWord (r.pc - 1)
      return { r with pc }
    | none => return r
  | .return => do
    wait
    let (pc, r) ← r.pullWord
    wait
    return { r with pc := pc + 1 }
  | returnFromInterrupt => do
    wait
    let (status, r) ← r.pull
    let (pc, r) ← r.pullWord
    return { r with status := .ofStack status, pc }
  | brk => enterBreak r
  | push value => r.push (value r)
  | pull use => do
    wait
    let (value, r) ← r.pull
    return use value r
  | jam => return { r with pc := r.pc - 1, halted := true }

end Action
end Nes
