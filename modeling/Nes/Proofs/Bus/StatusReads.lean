import Nes.Proofs.Bus.ObjectCopy
import Nes.Proofs.Ppu.Composition

/-! What programs see of vertical blank. A read of the status register ends the blank for the
reads after it, and nothing else that a processor does on the bus changes what the register
tells. Reads for a copy into object memory count as any others. -/
namespace Nes

theorem testBitAnd (v w : UInt8) (i : Nat) :
    testBit (v &&& w) i = (testBit v i && testBit w i) := by
  unfold testBit
  rw [UInt8.toNat_and, Nat.testBit_and]

theorem testBitOr (v w : UInt8) (i : Nat) :
    testBit (v ||| w) i = (testBit v i || testBit w i) := by
  unfold testBit
  rw [UInt8.toNat_or, Nat.testBit_or]

structure Marks where
  blank : Bool
  hit : Bool
  deriving DecidableEq, Repr

inductive Marks.Gives : Marks → List UInt8 → Marks → Prop where
  | nothing (m : Marks) : Gives m [] m
  | byte {m final : Marks} {value : UInt8} {rest : List UInt8}
      (blank : testBit value 7 = m.blank) (hit : testBit value 6 = m.hit)
      (later : Gives { m with blank := false } rest final) : Gives m (value :: rest) final

namespace Marks.Gives
variable {m middle final : Marks} {bytes bytes' : List UInt8}

theorem append (one : Gives m bytes middle) (other : Gives middle bytes' final) :
    Gives m (bytes ++ bytes') final := by
  induction one with
  | nothing m => exact other
  | byte blank hit later ih => exact .byte blank hit (ih other)

theorem marks (gives : Gives m bytes final) :
    final = { m with blank := m.blank && bytes.isEmpty } := by
  induction gives with
  | nothing m => rw [List.isEmpty_nil, Bool.and_true]
  | byte blank hit later ih => rw [ih, Bool.false_and, List.isEmpty_cons, Bool.and_false]

theorem hits (gives : Gives m bytes final) : ∀ byte ∈ bytes, testBit byte 6 = m.hit := by
  induction gives with
  | nothing m => simp
  | byte blank hit later ih => exact List.forall_mem_cons.mpr ⟨hit, ih⟩

theorem dark (gives : Gives m bytes final) (dark : m.blank = false) :
    ∀ byte ∈ bytes, testBit byte 7 = false := by
  induction gives with
  | nothing m => simp
  | byte blank hit later ih => exact List.forall_mem_cons.mpr ⟨blank.trans dark, ih rfl⟩

theorem first (gives : Gives m bytes final) : ∀ byte ∈ bytes.head?, testBit byte 7 = m.blank := by
  cases gives with
  | nothing => simp
  | byte blank => simpa using blank

theorem later (gives : Gives m bytes final) : ∀ byte ∈ bytes.tail, testBit byte 7 = false := by
  cases gives with
  | nothing => simp
  | byte blank hit later => exact later.dark rfl

theorem count (gives : Gives m bytes final) :
    bytes.countP (testBit · 7) ≤ m.blank.toNat := by
  cases bytes with
  | nil => exact Nat.zero_le _
  | cons value rest =>
    have head : testBit value 7 = m.blank := gives.first value rfl
    have others : rest.countP (testBit · 7) = 0 :=
      List.countP_eq_zero.mpr fun byte inside => by simp [gives.later byte inside]
    rw [List.countP_cons, others, Nat.zero_add, head]
    cases m.blank <;> exact Nat.le_refl _

end Marks.Gives

namespace Ppu

def marks (ppu : Ppu) : Marks where
  blank := ppu.inVblank
  hit := testBit ppu.status 6

theorem clearMarks {ppu : Ppu} (clear : ppu.status = 0) : ppu.marks = ⟨false, false⟩ := by
  unfold marks inVblank
  rw [clear]
  rfl

theorem readStatusGives (ppu : Ppu) :
    ppu.marks.Gives [ppu.readStatus.1] ppu.readStatus.2.marks := by
  have bit (i : Nat) (above : testBit 0xE0 i = true) (outside : testBit 0x1F i = false) :
      testBit ppu.readStatus.1 i = testBit ppu.status i := by
    unfold readStatus
    rw [testBitOr, testBitAnd, testBitAnd, above, outside, Bool.and_true, Bool.and_false,
      Bool.or_false]
  have after : ppu.readStatus.2.marks = { ppu.marks with blank := false } := by
    unfold marks inVblank readStatus
    simp only [testBitAnd]
    congr 1
    · exact Bool.and_false _
    · exact Bool.and_true _
  rw [after]
  exact .byte (bit 7 rfl rfl) (bit 6 rfl rfl) (.nothing _)

end Ppu

namespace Video
variable (video : Video)

theorem readDataMarks : video.readData.2.ppu.marks = video.ppu.marks := by
  unfold readData
  simp only
  split <;> rfl

theorem readRegisterMarks {addr : UInt16} (other : addr.toNat % 8 ≠ 2) :
    (video.readRegister addr).2.ppu.marks = video.ppu.marks := by
  unfold readRegister
  split
  case h_1 same => exact absurd same other
  case h_3 => exact video.readDataMarks
  all_goals rfl

theorem readRegisterStatus {addr : UInt16} (status : addr.toNat % 8 = 2) :
    video.ppu.marks.Gives [(video.readRegister addr).1] (video.readRegister addr).2.ppu.marks := by
  unfold readRegister
  rw [status]
  exact video.ppu.readStatusGives

theorem writeVramMarks (addr : UInt16) (value : UInt8) :
    (video.writeVram addr value).2.ppu.marks = video.ppu.marks := by
  obtain ⟨nametables, palette, tiles, cart, same, -⟩ := video.writeVramParts addr value
  rw [same]
  rfl

theorem writeRegisterMarks (addr : UInt16) (value : UInt8) :
    (video.writeRegister addr value).2.ppu.marks = video.ppu.marks := by
  unfold writeRegister
  split
  case h_7 => exact writeVramMarks _ video.ppu.scroll.v value
  all_goals rfl

end Video

def Signal.plain : Signal → Bool
  | access _ | tick _ | takeFault => true
  | _ => false

def StatusAddress (addr : UInt16) : Prop :=
  0x2000 ≤ addr ∧ addr < 0x4000 ∧ addr.toNat % 8 = 2

instance (addr : UInt16) : Decidable (StatusAddress addr) := by
  unfold StatusAddress
  infer_instance

namespace Bus

def marks (bus : Bus) : Marks :=
  bus.video.ppu.marks

def statusEach (bus : Bus) : List UInt16 → List UInt8
  | [] => []
  | addr :: rest =>
    let (value, after) := bus.read addr
    if StatusAddress addr then value :: after.statusEach rest else after.statusEach rest

def statusCopied (bus : Bus) (page : UInt8) : List UInt8 :=
  if page < 0x20 then [] else bus.statusEach (pageAddresses page)

def statusRead (bus : Bus) : Signal → List UInt8
  | .access (.read addr _) => bus.statusEach [addr]
  | .access (.write addr value) =>
    if addr = 0x4014 then { bus with openBus := value }.statusCopied value else []
  | _ => []

def statusBytes (bus : Bus) : List Signal → List UInt8
  | [] => []
  | signal :: rest => bus.statusRead signal ++ (bus.receive signal).statusBytes rest

theorem statusBytesAppend (bus : Bus) (xs ys : List Signal) :
    bus.statusBytes (xs ++ ys) = bus.statusBytes xs ++ (bus.play xs).statusBytes ys := by
  induction xs generalizing bus with
  | nil => rfl
  | cons signal rest ih =>
    rw [List.cons_append, statusBytes, ih, statusBytes, List.append_assoc]
    rfl

theorem readMarks (bus : Bus) {addr : UInt16} (other : ¬StatusAddress addr) :
    (bus.read addr).2.marks = bus.marks := by
  change (bus.answer addr).2.video.ppu.marks = _
  unfold answer
  split
  · rfl
  rename_i above
  split
  · rename_i below
    refine bus.video.readRegisterMarks fun status => other ⟨?_, below, status⟩
    exact UInt16.not_lt.mp above
  split
  · split <;> rfl
  · rfl

theorem readStatus (bus : Bus) {addr : UInt16} (status : StatusAddress addr) :
    bus.marks.Gives [(bus.read addr).1] (bus.read addr).2.marks := by
  obtain ⟨above, below, register⟩ := status
  have answered : bus.answer addr =
      ((bus.video.readRegister addr).1,
        { bus with video := (bus.video.readRegister addr).2 }) := by
    unfold answer
    rw [if_neg (UInt16.not_lt.mpr above), if_pos below]
  unfold read
  rw [answered]
  exact bus.video.readRegisterStatus register

theorem statusEachGives (bus : Bus) (addrs : List UInt16) :
    bus.marks.Gives (bus.statusEach addrs) (bus.readEach addrs).2.marks := by
  induction addrs generalizing bus with
  | nil => exact .nothing _
  | cons addr rest ih =>
    have later := ih (bus.read addr).2
    unfold statusEach readEach
    simp only
    by_cases status : StatusAddress addr
    · rw [if_pos status]
      exact (bus.readStatus status).append later
    · rw [if_neg status, ← bus.readMarks status]
      exact later

theorem writeMarks (bus : Bus) {addr : UInt16} (other : addr ≠ 0x4014) (value : UInt8) :
    (bus.write addr value).marks = bus.marks := by
  unfold write deliver
  split
  · rfl
  split
  · exact bus.video.writeRegisterMarks addr value
  split
  · split
    · rename_i same
      exact absurd (UInt16.toNat_inj.mp same) other
    · rfl
    · rfl
  · rfl

theorem copyGives (bus : Bus) (page : UInt8) :
    bus.marks.Gives (bus.statusCopied page) (bus.copyPageToOam page).marks := by
  rw [copyPageEach, statusCopied]
  generalize pageAddresses page = addrs
  split
  · exact .nothing _
  · exact bus.statusEachGives addrs

theorem writeGives (bus : Bus) (addr : UInt16) (value : UInt8) :
    bus.marks.Gives (bus.statusRead (.access (.write addr value))) (bus.write addr value).marks := by
  rw [statusRead]
  by_cases copies : addr = 0x4014
  · rw [if_pos copies, copies, writeCopy]
    exact copyGives { bus with openBus := value } value
  · rw [if_neg copies, bus.writeMarks copies]
    exact .nothing _

theorem renderMarks (bus : Bus) : (bus.receive .render).marks = bus.marks := by
  change bus.video.ppu.render.marks = bus.video.ppu.marks
  rw [Ppu.renderParts]
  rfl

theorem receiveGives (bus : Bus) {signal : Signal}
    (calm : signal.plain = true ∨ signal = .render) :
    bus.marks.Gives (bus.statusRead signal) (bus.receive signal).marks := by
  rcases calm with plain | rfl
  · cases signal with
    | access access =>
      cases access with
      | read addr value => exact bus.statusEachGives [addr]
      | write addr value => exact bus.writeGives addr value
    | tick | takeFault => exact .nothing _
    | _ => cases plain
  · rw [renderMarks]
    exact .nothing _

theorem calm {signals : List Signal} (plain : ∀ signal ∈ signals, signal.plain = true) :
    ∀ signal ∈ signals, signal.plain = true ∨ signal = .render :=
  fun signal inside => .inl (plain signal inside)

theorem playGives (bus : Bus) {signals : List Signal}
    (calm : ∀ signal ∈ signals, signal.plain = true ∨ signal = .render) :
    bus.marks.Gives (bus.statusBytes signals) (bus.play signals).marks := by
  induction signals generalizing bus with
  | nil => exact .nothing _
  | cons signal rest ih =>
    obtain ⟨here, others⟩ := List.forall_mem_cons.mp calm
    exact (bus.receiveGives here).append (ih _ others)

-- Over a stretch of signals the blank lasts until the status register is read first, and the
-- register tells the same about the hit all the time.
structure Shows (bus : Bus) (signals : List Signal) (blank hit : Bool) : Prop where
  flag : ∀ before, before <+: signals →
    (bus.play before).video.ppu.inVblank = (blank && (bus.statusBytes before).isEmpty)
  first : ∀ byte ∈ (bus.statusBytes signals).head?, testBit byte 7 = blank
  later : ∀ byte ∈ (bus.statusBytes signals).tail, testBit byte 7 = false
  hits : ∀ byte ∈ bus.statusBytes signals, testBit byte 6 = hit

theorem shows (bus : Bus) {signals : List Signal}
    (calm : ∀ signal ∈ signals, signal.plain = true ∨ signal = .render) :
    bus.Shows signals bus.marks.blank bus.marks.hit where
  flag before starts := by
    have gives : bus.marks.Gives (bus.statusBytes before) (bus.play before).marks :=
      bus.playGives fun signal inside => calm signal (starts.subset inside)
    exact congrArg Marks.blank gives.marks
  first := (bus.playGives calm).first
  later := (bus.playGives calm).later
  hits := (bus.playGives calm).hits

end Bus
end Nes
