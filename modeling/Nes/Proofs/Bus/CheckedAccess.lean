import Nes.Proofs.Apu.CheckedArithmetic
import Nes.Proofs.Video.CheckedAccess

/-! The bus with every sum, difference, shift and index checked. Whatever happens on it, no check
fails. -/
namespace Nes
open Width

def WorkRam.page? (m : WorkRam) (number : UInt8) : Option (List UInt8) := do
  let first ← bits64.shiftLeft number.toNat 8
  let stop ← bits64.add (first % 0x800) 0x100
  if stop ≤ m.bytes.size then
    return m.slice (first % 0x800) 0x100
  else none

theorem WorkRam.pageChecked (m : WorkRam) (number : UInt8) :
    WorkRam.page? m number = some (WorkRam.page m number) := by
  have byte := number.toNat_lt
  have first : number.toNat <<< 8 = 256 * number.toNat := by
    rw [Nat.shiftLeft_eq, Nat.mul_comm]
  have size : m.bytes.size = 0x800 := Vector.size_toArray _
  unfold page? page
  rw [shiftLeftSome (by decide) (by rw [first, limit]; omega), first, Option.bind_eq_bind,
    Option.bind_some, addIndex (by omega), Option.bind_some, if_pos (by omega), Ram.sliceMod]
  rfl

namespace Controller

def read? (pad : Controller) : Option (UInt8 × Controller) := do
  if pad.strobe then
    return (pad.buttons &&& 1, pad)
  else if pad.reads ≥ 8 then
    return (1, pad)
  else
    let reads ← bits8.add pad.reads 1
    return (pad.shift &&& 1, { pad with shift := pad.shift >>> 1, reads })

theorem readChecked (pad : Controller) : pad.read? = some pad.read := by
  unfold read? read
  split
  · rfl
  · split
    · rfl
    · rw [addSome (by rw [limit]; omega)]
      rfl

end Controller

namespace Bus
variable (bus : Bus)

def answer? (addr : UInt16) : Option (UInt8 × Bus) :=
  if addr < 0x2000 then (bus.ram.read? (addr.toNat % 0x800)).map fun value => (value, bus)
  else if addr < 0x4000 then
    (bus.video.readRegister? addr).map fun done => (done.1, { bus with video := done.2 })
  else if addr < 0x4020 then
    match addr.toNat with
    | 0x4015 => some (bus.apu.readStatus.1, { bus with apu := bus.apu.readStatus.2 })
    | 0x4016 => bus.controller.read?.map fun done =>
      (bus.openBus &&& 0xE0 ||| done.1, { bus with controller := done.2 })
    | 0x4017 => some (0, bus)
    | _ => some (bus.openBus, bus)
  else
    match bus.video.cart with
    | none => some (bus.openBus, bus)
    | some cart => (cart.cpuRead? addr).map fun value => (value.getD bus.openBus, bus)

def read? (addr : UInt16) : Option (UInt8 × Bus) :=
  (bus.answer? addr).map fun done => (done.1, { done.2 with openBus := done.1 })

def readInto? (bus : Bus) (bytes : List UInt8) : List UInt16 → Option (List UInt8 × Bus)
  | [] => some (bytes, bus)
  | addr :: rest => do
    let done ← bus.read? addr
    readInto? done.2 (done.1 :: bytes) rest

def pageAddresses? (page : UInt8) : Option (List UInt16) :=
  (bits16.shiftLeft page.toNat 8).map fun base =>
    (List.range 0x100).map fun i => UInt16.ofNat (base ||| i)

def readPage? (page : UInt8) : Option (List UInt8 × Bus) := do
  if page < 0x20 then
    let bytes ← WorkRam.page? bus.ram page
    return (bytes, bus)
  else
    let addrs ← pageAddresses? page
    let done ← bus.readInto? [] addrs
    return (done.1.reverse, done.2)

def ppuRead? (addr : UInt16) : Option UInt8 :=
  bus.video.readVram? addr

theorem answerChecked (addr : UInt16) : bus.answer? addr = some (bus.answer addr) := by
  unfold answer?
  by_cases ram : addr < 0x2000
  · rw [if_pos ram, Ram.readSome _ (Nat.mod_lt _ (by decide)), Ram.readMod, answer, if_pos ram]
    rfl
  by_cases video : addr < 0x4000
  · rw [if_neg ram, if_pos video, Video.readRegisterChecked, answer, if_neg ram, if_pos video]
    rfl
  by_cases ports : addr < 0x4020
  · rw [if_neg ram, if_neg video, if_pos ports]
    split
    case h_1 status => simp only [answer, if_neg ram, if_neg video, if_pos ports, status]
    case h_2 pad =>
      simp only [answer, if_neg ram, if_neg video, if_pos ports, pad, Controller.readChecked]
      rfl
    case h_3 second => simp only [answer, if_neg ram, if_neg video, if_pos ports, second]
    case h_4 => simp only [answer, if_neg ram, if_neg video, if_pos ports]
  · rw [if_neg ram, if_neg video, if_neg ports, answer, if_neg ram, if_neg video, if_neg ports]
    cases bus.video.cart with
    | none => rfl
    | some cart =>
      simp only [Cartridge.cpuReadChecked]
      rfl

theorem readChecked (addr : UInt16) : bus.read? addr = some (bus.read addr) := by
  rw [read?, answerChecked]
  rfl

theorem readIntoChecked (bus : Bus) (bytes : List UInt8) (addrs : List UInt16) :
    bus.readInto? bytes addrs = some (bus.readInto bytes addrs) := by
  induction addrs generalizing bus bytes with
  | nil => rfl
  | cons addr rest ih =>
    rw [readInto?, readChecked]
    exact ih _ _

theorem pageAddressesChecked (page : UInt8) : pageAddresses? page = some (pageAddresses page) := by
  have byte := page.toNat_lt
  have base : page.toNat <<< 8 = 256 * page.toNat := by
    rw [Nat.shiftLeft_eq, Nat.mul_comm]
  rw [pageAddresses?, shiftLeftSome (by decide) (by rw [base, limit]; omega)]
  refine congrArg some (List.map_congr_left fun i inPage => ?_)
  have low : i < 2 ^ 8 := List.mem_range.mp inPage
  rw [← Nat.shiftLeft_add_eq_or_of_lt low, base, word, UInt8.toNat_ofNat', Nat.mod_eq_of_lt low]

theorem readPageChecked (page : UInt8) : bus.readPage? page = some (bus.readPage page) := by
  unfold readPage? readPage
  split
  · rw [WorkRam.pageChecked]
    rfl
  · rw [pageAddressesChecked]
    generalize pageAddresses page = addrs
    simp only [Option.bind_eq_bind, Option.bind_some, readIntoChecked]
    rfl

end Bus

structure FlatBus where
  bus : Bus
  canvas : Canvas

def Bus.flat (bus : Bus) : FlatBus :=
  ⟨bus, bus.video.ppu.canvas⟩

namespace FlatBus

def new (apu : Apu) : FlatBus :=
  ⟨{ apu }, .blank⟩

section
variable (s : FlatBus)

def video : FlatVideo :=
  ⟨s.bus.video, s.canvas⟩

def withVideo (video : FlatVideo) : FlatBus :=
  ⟨{ s.bus with video := video.video }, video.canvas⟩

def written (done : Option BoardFault × FlatVideo) : FlatBus :=
  ⟨(s.withVideo done.2).bus.record done.1, done.2.canvas⟩

def withApu (apu : Apu) : FlatBus :=
  ⟨{ s.bus with apu }, s.canvas⟩

def copyPageToOam? (page : UInt8) : Option FlatBus := do
  let done ← s.bus.readPage? page
  let copied ← FlatVideo.copyToOam? ⟨done.2.video, s.canvas⟩ done.1
  return withVideo ⟨done.2, s.canvas⟩ copied

def deliver? (addr : UInt16) (value : UInt8) : Option FlatBus :=
  if addr < 0x2000 then
    (s.bus.ram.write? (addr.toNat % 0x800) value).map fun ram => ⟨{ s.bus with ram }, s.canvas⟩
  else if addr < 0x4000 then (s.video.writeRegister? addr value).map s.written
  else if addr < 0x4020 then
    match addr.toNat with
    | 0x4014 => s.copyPageToOam? value
    | 0x4016 =>
      some ⟨{ s.bus with controller := s.bus.controller.write value }, s.canvas⟩
    | _ => (s.bus.apu.write? addr value).map s.withApu
  else some ⟨s.bus.record (s.bus.video.cart.map (·.cpuWrite addr value)), s.canvas⟩

def access? : Access → Option FlatBus
  | .read addr _ => (s.bus.read? addr).map fun done => ⟨done.2, s.canvas⟩
  | .write addr value => deliver? ⟨{ s.bus with openBus := value }, s.canvas⟩ addr value

def receive? : Signal → Option FlatBus
  | .access access => s.access? access
  | .tick cycles => (s.bus.apu.tick? cycles).map s.withApu
  | .takeFault => some ⟨s.bus.takeFault.2, s.canvas⟩
  | .beginVblank => s.video.beginVblank?.map s.withVideo
  | .endVblank => some (s.withVideo ⟨s.bus.video.update Ppu.endVblank, s.canvas⟩)
  | .render => s.video.render?.map s.withVideo
  | .insert cart => (FlatVideo.powerOn? cart).map (withVideo ⟨s.bus.powerOn cart, s.canvas⟩)
  | .ppuWrite addr value => (s.video.writeVram? addr value).map s.written
  | .hold buttons => some ⟨{ s.bus with controller := s.bus.controller.hold buttons }, s.canvas⟩
  | .drain => some (s.withApu s.bus.apu.drain.2)

def play? (signals : List Signal) : Option FlatBus :=
  signals.foldlM receive? s

end
end FlatBus

namespace Video

def Safe (video : Video) : Prop :=
  video.Coherent ∧ ∃ f : ScrollFields, f.OfVideo video

theorem keptSafe : Kept Safe :=
  Coherent.kept.and ScrollFields.OfVideo.kept

theorem blankSafe : Safe {} :=
  ⟨Coherent.blank, {}, ScrollFields.powerOn rfl rfl⟩

theorem Safe.drawable {video : Video} (safe : video.Safe) : video.ppu.Drawable := by
  obtain ⟨coherent, f, fields⟩ := safe
  obtain ⟨-, -, -, x, y⟩ := fields.bounds
  exact ⟨coherent.twoBits, x, y⟩

end Video

namespace Bus
variable {bus : Bus}

def Safe (bus : Bus) : Prop :=
  Holds Video.Safe Apu.Within bus

theorem copyPageChecked (bus : Bus) (page : UInt8) :
    bus.flat.copyPageToOam? page = some (bus.copyPageToOam page).flat := by
  have canvas := bus.readPageKeepsView (fun bus => bus.video.ppu.canvas) (fun _ => rfl) page
  unfold FlatBus.copyPageToOam? copyPageToOam flat
  simp only [readPageChecked, Option.bind_eq_bind, Option.bind_some]
  generalize bus.readPage page = done at canvas
  have copied := done.2.video.copyToOamChecked done.1
  rw [← canvas]
  exact Option.bind_eq_some_iff.mpr ⟨_, copied, rfl⟩

theorem deliverChecked (safe : bus.Safe) (addr : UInt16) (value : UInt8) :
    bus.flat.deliver? addr value = some (bus.deliver addr value).flat := by
  obtain ⟨-, f, fields⟩ := safe.video
  obtain ⟨-, -, fine, -, -⟩ := fields.bounds
  unfold FlatBus.deliver?
  by_cases ram : addr < 0x2000
  · rw [if_pos ram, Ram.writeSome _ (Nat.mod_lt _ (by decide)), Ram.writeMod, deliver, if_pos ram]
    rfl
  by_cases video : addr < 0x4000
  · rw [if_neg ram, if_pos video, deliver, if_neg ram, if_pos video]
    exact congrArg (Option.map bus.flat.written) (bus.video.writeRegisterChecked fine addr value)
  by_cases ports : addr < 0x4020
  · have sound := congrArg (Option.map bus.flat.withApu) (safe.apu.writeChecked addr value)
    rw [if_neg ram, if_neg video, if_pos ports]
    split
    case h_1 copy =>
      simp only [deliver, if_neg ram, if_neg video, if_pos ports, copy]
      exact bus.copyPageChecked value
    case h_2 pad =>
      simp only [deliver, if_neg ram, if_neg video, if_pos ports, pad]
      rfl
    case h_3 =>
      simp only [deliver, if_neg ram, if_neg video, if_pos ports]
      exact sound
  · rw [if_neg ram, if_neg video, if_neg ports, deliver, if_neg ram, if_neg video, if_neg ports]
    rfl

theorem accessChecked (safe : bus.Safe) (access : Access) :
    bus.flat.access? access = some (access.perform bus).flat := by
  cases access with
  | read addr value =>
    have canvas := bus.readKeepsView (fun bus => bus.video.ppu.canvas) (fun _ => rfl) addr
    have read := congrArg (Option.map fun done => FlatBus.mk done.2 bus.video.ppu.canvas)
      (bus.readChecked addr)
    refine read.trans (congrArg some ?_)
    rw [← canvas]
    rfl
  | write addr value =>
    have driven : Safe { bus with openBus := value } := ⟨safe.video, safe.apu⟩
    exact deliverChecked driven addr value

theorem receiveChecked (safe : bus.Safe) (signal : Signal) :
    bus.flat.receive? signal = some (bus.receive signal).flat := by
  cases signal with
  | access access => exact accessChecked safe access
  | tick cycles =>
    exact congrArg (Option.map bus.flat.withApu) (safe.apu.tickChecked cycles)
  | takeFault => rfl
  | beginVblank =>
    exact congrArg (Option.map bus.flat.withVideo)
      (bus.video.beginVblankChecked safe.video.drawable)
  | endVblank => rfl
  | render =>
    exact congrArg (Option.map bus.flat.withVideo) (bus.video.renderChecked safe.video.drawable)
  | insert cart =>
    unfold FlatBus.receive? receive powerOn
    simp only [Video.powerOnChecked]
    generalize Video.powerOn cart = video
    rfl
  | ppuWrite addr value =>
    exact congrArg (Option.map bus.flat.written) (bus.video.writeVramChecked addr value)
  | hold buttons => rfl
  | drain => rfl

/-- Whatever happens on the bus from a new one on, nothing overflows, goes below zero, is shifted
too far or is looked up beyond the end of a table: the checked history runs to its end, and is the
history. Each register is in its range, and each table of the canvas has the size that it began
with. -/
theorem busNeverFails (clockHz : Float) (sampleRate : Nat) (signals : List Signal) :
    let bus := Bus.play { apu := .new clockHz sampleRate } signals
    let ppu := bus.video.ppu
    (FlatBus.new (.new clockHz sampleRate)).play? signals = some ⟨bus, ppu.canvas⟩ ∧
      (∀ addr, bus.ppuRead? addr = some (bus.ppuRead addr)) ∧
      (ppu.scroll.v.toNat < 0x8000 ∧ ppu.scroll.t.toNat < 0x8000 ∧ ppu.scroll.fineX < 8 ∧
        ppu.scroll.x ≤ 255 ∧ ppu.scroll.y ≤ 255) ∧
      (∀ cell, (ppu.palette.read cell).toNat < 64) ∧
      (∀ number, ppu.backgroundTile number < 512) ∧
      (∀ i, ∀ row < ppu.spriteMode.height,
        (ppu.oam.sprite i).tileOfRow ppu.spriteMode row < 512) ∧
      ppu.canvas.tiles.size = 32768 ∧ ppu.canvas.background.size = 983040 ∧
      ppu.canvas.sprites.size = 245760 ∧ ppu.canvas.frame.size = 61440 := by
  intro bus ppu
  have start : Safe { apu := .new clockHz sampleRate } :=
    ⟨Video.blankSafe, Apu.performAllWithin clockHz sampleRate []⟩
  have safe : bus.Safe := playHolds Video.keptSafe Apu.keptWithin start signals
  have new : FlatBus.new (.new clockHz sampleRate) = flat { apu := .new clockHz sampleRate } := by
    rw [FlatBus.new, flat, Ppu.canvasNew]
  have followed := followAll flat (fun bus signal safe => receiveChecked safe signal)
    (fun bus signal safe => receiveHolds Video.keptSafe Apu.keptWithin safe signal) start signals
  obtain ⟨coherent, f, fields⟩ := safe.video
  obtain ⟨t, v, fine, x, y⟩ := fields.bounds
  refine ⟨?_, bus.video.readVramChecked, ⟨v, t, fine, Nat.le_of_lt_succ x, Nat.le_of_lt_succ y⟩,
    coherent.palette, fun number => (ppu.backgroundTileBound number).2,
    fun i row inSprite => Sprite.tileOfRowBound _ _ inSprite, ppu.canvasSizes⟩
  rw [new]
  exact followed

end Bus
end Nes
