import Nes.Apu
import Nes.Controller
import Nes.Transaction
import Nes.Video
import Nes.WorkRam

/-! The bus of the console: which device answers at which address. Where none answers, a read
gives the last byte that was on the bus. The first write that the cartridge rejects is kept as a
fault. -/
namespace Nes

structure Bus where
  ram : WorkRam := .clear
  video : Video := {}
  apu : Apu
  controller : Controller := {}
  openBus : UInt8 := 0
  fault : Option BoardFault := none

namespace Bus

def powerOn (cart : Cartridge) (bus : Bus) : Bus where
  video := .powerOn cart
  apu := bus.apu.reset

def record (bus : Bus) (fault : Option BoardFault) : Bus :=
  { bus with fault := bus.fault.or fault }

def takeFault (bus : Bus) : Option BoardFault × Bus :=
  (bus.fault, { bus with fault := none })

def answer (bus : Bus) (addr : UInt16) : UInt8 × Bus :=
  if addr < 0x2000 then (bus.ram.read addr.toNat, bus)
  else if addr < 0x4000 then
    let (value, video) := bus.video.readRegister addr
    (value, { bus with video })
  else if addr < 0x4020 then
    match addr.toNat with
    | 0x4015 =>
      let (value, apu) := bus.apu.readStatus
      (value, { bus with apu })
    | 0x4016 =>
      let (button, controller) := bus.controller.read
      (bus.openBus &&& 0xE0 ||| button, { bus with controller })
    | 0x4017 => (0, bus)
    | _ => (bus.openBus, bus)
  else ((bus.video.cart.bind (·.cpuRead addr)).getD bus.openBus, bus)

def read (bus : Bus) (addr : UInt16) : UInt8 × Bus :=
  let (value, bus) := bus.answer addr
  (value, { bus with openBus := value })

def readInto (bus : Bus) (bytes : List UInt8) : List UInt16 → List UInt8 × Bus
  | [] => (bytes, bus)
  | addr :: rest =>
    let (value, bus) := bus.read addr
    bus.readInto (value :: bytes) rest

def pageAddresses (page : UInt8) : List UInt16 :=
  (List.range 0x100).map fun i => word (UInt8.ofNat i) page

def readPage (bus : Bus) (page : UInt8) : List UInt8 × Bus :=
  if page < 0x20 then (bus.ram.page page, bus)
  else
    let (bytes, bus) := bus.readInto [] (pageAddresses page)
    (bytes.reverse, bus)

def copyPageToOam (bus : Bus) (page : UInt8) : Bus :=
  let (bytes, bus) := bus.readPage page
  { bus with video := bus.video.update (·.copyToOam bytes) }

def deliver (bus : Bus) (addr : UInt16) (value : UInt8) : Bus :=
  if addr < 0x2000 then { bus with ram := bus.ram.write addr.toNat value }
  else if addr < 0x4000 then
    let (fault, video) := bus.video.writeRegister addr value
    { bus with video }.record fault
  else if addr < 0x4020 then
    match addr.toNat with
    | 0x4014 => bus.copyPageToOam value
    | 0x4016 => { bus with controller := bus.controller.write value }
    | _ => { bus with apu := bus.apu.write addr value }
  else
    bus.record (bus.video.cart.map (·.cpuWrite addr value))

def write (bus : Bus) (addr : UInt16) (value : UInt8) : Bus :=
  { bus with openBus := value }.deliver addr value

instance : Device Bus where
  read addr bus := bus.read addr
  write addr value bus := bus.write addr value

def ppuRead (bus : Bus) (addr : UInt16) : UInt8 :=
  bus.video.readVram addr

def ppuWrite (bus : Bus) (addr : UInt16) (value : UInt8) : Bus :=
  let (fault, video) := bus.video.writeVram addr value
  { bus with video }.record fault

def tick (bus : Bus) (cycles : Nat) : Bus :=
  { bus with apu := bus.apu.tick cycles }

end Bus
end Nes
