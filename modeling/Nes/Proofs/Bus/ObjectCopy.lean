import Nes.Proofs.Bus.History
import Nes.Proofs.Memory

/-! The copy of a page into object memory. It comes to reads of the page in their order, followed
by writes of the bytes to the data register of object memory. Work RAM, which is not read but
taken as a whole, gives the same bytes. -/
namespace Nes

namespace Bus

def readEach (bus : Bus) : List UInt16 → List UInt8 × Bus
  | [] => ([], bus)
  | addr :: rest =>
    let (value, bus) := bus.read addr
    let (values, bus) := bus.readEach rest
    (value :: values, bus)

theorem readIntoEach (bus : Bus) (bytes : List UInt8) (addrs : List UInt16) :
    bus.readInto bytes addrs =
      ((bus.readEach addrs).1.reverse ++ bytes, (bus.readEach addrs).2) := by
  induction addrs generalizing bus bytes with
  | nil => rfl
  | cons addr rest ih =>
    simp only [readInto, readEach, ih, List.reverse_cons, List.append_assoc,
      List.singleton_append]

theorem readEachLength (bus : Bus) (addrs : List UInt16) :
    (bus.readEach addrs).1.length = addrs.length := by
  induction addrs generalizing bus with
  | nil => rfl
  | cons addr rest ih => exact congrArg (· + 1) (ih _)

theorem readEachObjects (bus : Bus) (addrs : List UInt16) :
    (bus.readEach addrs).2.video.ppu.oam = bus.video.ppu.oam ∧
      (bus.readEach addrs).2.video.ppu.oamAddr = bus.video.ppu.oamAddr := by
  induction addrs generalizing bus with
  | nil => exact ⟨rfl, rfl⟩
  | cons addr rest ih =>
    have first := bus.readKeepsView (·.video.ppu.oam) (fun _ => rfl) addr
    have firstAddr := bus.readKeepsView (·.video.ppu.oamAddr) (fun _ => rfl) addr
    obtain ⟨others, othersAddr⟩ := ih (bus.read addr).2
    exact ⟨others.trans first, othersAddr.trans firstAddr⟩

theorem readEachRam (bus : Bus) {addrs : List UInt16} (low : ∀ addr ∈ addrs, addr < 0x2000) :
    (bus.readEach addrs).1 = addrs.map fun addr => bus.ram.read addr.toNat := by
  induction addrs generalizing bus with
  | nil => rfl
  | cons addr rest ih =>
    obtain ⟨here, others⟩ := List.forall_mem_cons.mp low
    have answered : bus.answer addr = (bus.ram.read addr.toNat, bus) := if_pos here
    rw [readEach, read, answered, List.map_cons]
    exact congrArg (_ :: ·) (ih { bus with openBus := bus.ram.read addr.toNat } others)

theorem toNatPageAddress (page : UInt8) {i : Nat} (inside : i < 0x100) :
    (word (UInt8.ofNat i) page).toNat = 0x100 * page.toNat + i := by
  rw [toNatWord, UInt8.toNat_ofNat', Nat.mod_eq_of_lt inside]

theorem pageAddressesNat (page : UInt8) :
    pageAddresses page =
      (List.range 0x100).map fun i => UInt16.ofNat (0x100 * page.toNat + i) := by
  refine List.map_congr_left fun i inside => ?_
  rw [← toNatPageAddress page (List.mem_range.mp inside), UInt16.ofNat_toNat]

theorem pageAddressesLength (page : UInt8) : (pageAddresses page).length = 0x100 := by
  rw [pageAddresses, List.length_map, List.length_range]

theorem readEachPage (bus : Bus) {page : UInt8} (low : page < 0x20) :
    (bus.readEach (pageAddresses page)).1 = bus.ram.page page := by
  have inRam : ∀ addr ∈ pageAddresses page, addr < 0x2000 := by
    intro addr member
    obtain ⟨i, inside, rfl⟩ := List.mem_map.mp member
    have below : page.toNat < 0x20 := low
    have position := toNatPageAddress page (List.mem_range.mp inside)
    have within := List.mem_range.mp inside
    exact UInt16.lt_iff_toNat_lt.mpr (by rw [position]; change _ < 0x2000; omega)
  rw [readEachRam bus inRam, pageAddresses, List.map_map, WorkRam.page, Ram.slice]
  refine List.map_congr_left fun i inside => ?_
  exact congrArg bus.ram.read (toNatPageAddress page (List.mem_range.mp inside))

theorem readPageEach (bus : Bus) (page : UInt8) :
    bus.readPage page =
      ((bus.readEach (pageAddresses page)).1,
        if page < 0x20 then bus else (bus.readEach (pageAddresses page)).2) := by
  unfold readPage
  by_cases low : page < 0x20
  · rw [if_pos low, if_pos low, readEachPage bus low]
  · simp only [if_neg low, readIntoEach, List.append_nil, List.reverse_reverse]

def writeObjects (bus : Bus) (bytes : List UInt8) : Bus :=
  bytes.foldl (fun bus value => bus.write 0x2004 value) bus

theorem writeObject (bus : Bus) (value : UInt8) :
    (bus.write 0x2004 value).video.ppu.oam =
        bus.video.ppu.oam.write bus.video.ppu.oamAddr.toNat value ∧
      (bus.write 0x2004 value).video.ppu.oamAddr = bus.video.ppu.oamAddr + 1 :=
  ⟨rfl, rfl⟩

theorem writeObjectsAll (bus : Bus) (bytes : List UInt8) :
    (bus.writeObjects bytes).video.ppu.oam =
        bus.video.ppu.oam.writeAll bus.video.ppu.oamAddr.toNat bytes ∧
      (bus.writeObjects bytes).video.ppu.oamAddr =
        bus.video.ppu.oamAddr + UInt8.ofNat bytes.length := by
  induction bytes generalizing bus with
  | nil => exact ⟨rfl, (UInt8.add_zero _).symm⟩
  | cons value rest ih =>
    obtain ⟨oam, addr⟩ := bus.writeObject value
    obtain ⟨others, last⟩ := ih (bus.write 0x2004 value)
    rw [oam, addr] at others
    rw [addr] at last
    refine ⟨others.trans (Ram.writeAllMod _ ?_ rest), last.trans ?_⟩
    · rw [UInt8.toNat_add]
      exact Nat.mod_mod _ _
    · rw [UInt8.add_assoc, List.length_cons, Nat.add_comm, UInt8.ofNat_add]
      rfl

def withObjects (bus : Bus) (oam : ObjectMemory) : Bus :=
  { bus with video := bus.video.update fun ppu => { ppu with oam } }

theorem copyPageEach (bus : Bus) (page : UInt8) :
    bus.copyPageToOam page =
      (if page < 0x20 then bus else (bus.readEach (pageAddresses page)).2).withObjects
        (bus.video.ppu.oam.writeAll bus.video.ppu.oamAddr.toNat
          (bus.readEach (pageAddresses page)).1) := by
  obtain ⟨oam, addr⟩ := bus.readEachObjects (pageAddresses page)
  have length := bus.readEachLength (pageAddresses page)
  rw [pageAddressesLength] at length
  rw [copyPageToOam, readPageEach]
  -- Without names for the reads and the addresses, the kernel unfolds all 256 of them.
  generalize bus.readEach (pageAddresses page) = reads at oam addr length ⊢
  obtain ⟨bytes, after⟩ := reads
  have whole : bytes.take 0x100 = bytes := List.take_of_length_le (Nat.le_of_eq length)
  simp only [Ppu.copyToOam, whole]
  split
  · rfl
  · rw [← oam, ← addr]
    rfl

theorem writeCopy (bus : Bus) (page : UInt8) :
    bus.write 0x4014 page = { bus with openBus := page }.copyPageToOam page :=
  rfl

/-- The copy fills object memory with the bytes that reads of the page give in order, from the
address on, and leaves the address as it was. Writes of these bytes to the data register come to
the same. Apart from that the reads are all that happens to the bus, and for a page of work RAM
not even they. -/
theorem objectCopy (bus : Bus) (page : UInt8) :
    let latched := { bus with openBus := page }
    let reads := latched.readEach
      ((List.range 0x100).map fun i => UInt16.ofNat (0x100 * page.toNat + i))
    let source := if page < 0x20 then latched else reads.2
    let addr := bus.video.ppu.oamAddr
    let copied := bus.write 0x4014 page
    (List.range 0x100).map (fun i => copied.video.ppu.oam.read ((addr.toNat + i) % 0x100)) =
        reads.1 ∧
      copied.video.ppu.oamAddr = addr ∧
      (bus.writeObjects reads.1).video.ppu.oam = copied.video.ppu.oam ∧
      (bus.writeObjects reads.1).video.ppu.oamAddr = addr ∧
      copied = source.withObjects copied.video.ppu.oam := by
  rw [← pageAddressesNat]
  have copy := (bus.writeCopy page).trans (copyPageEach _ page)
  have count := pageAddressesLength page
  generalize pageAddresses page = addrs at copy count ⊢
  intro latched reads source addr copied
  have length : reads.1.length = 0x100 := (latched.readEachLength addrs).trans count
  have filled : copied.video.ppu.oam = bus.video.ppu.oam.writeAll addr.toNat reads.1 :=
    congrArg (·.video.ppu.oam) copy
  have kept : source.video.ppu.oamAddr = addr := by
    unfold source
    split
    · rfl
    · exact (latched.readEachObjects addrs).2
  obtain ⟨written, last⟩ := bus.writeObjectsAll reads.1
  refine ⟨?_, ?_, written.trans filled.symm, ?_, filled ▸ copy⟩
  · rw [filled]
    have cells := Ram.sliceWriteAll bus.video.ppu.oam addr.toNat (Nat.le_of_eq length)
    rw [length] at cells
    exact (List.map_congr_left fun i _ => Ram.readMod _ _).trans cells
  · exact (congrArg (·.video.ppu.oamAddr) copy).trans kept
  · rw [last, length]
    exact UInt8.add_zero addr

end Bus
end Nes
