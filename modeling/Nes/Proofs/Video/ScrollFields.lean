import Nes.Proofs.Bus.History

/-! The scroll latch as separate numbers. The registers work on packed addresses; what they do to
the numbers in them is written down here field by field, and every sequence of accesses to the
registers agrees with it. -/
namespace Nes

structure ScrollFields where
  coarseX : Nat := 0
  coarseY : Nat := 0
  nametable : Nat := 0
  fineY : Nat := 0
  fineX : Nat := 0
  second : Bool := false
  x : Nat := 0
  y : Nat := 0
  v : Nat := 0
  step : Nat := 1
  deriving DecidableEq, Repr

namespace ScrollFields

def t (f : ScrollFields) : Nat :=
  f.coarseX + 0x20 * f.coarseY + 0x400 * f.nametable + 0x1000 * f.fineY

def advance (f : ScrollFields) : ScrollFields :=
  { f with v := (f.v + f.step) % 0x8000 }

def writeCtrl (f : ScrollFields) (d : Nat) : ScrollFields :=
  { f with nametable := d % 4, step := if d / 4 % 2 = 1 then 32 else 1 }

def writeScroll (f : ScrollFields) (d : Nat) : ScrollFields :=
  if f.second then
    { f with
      coarseY := d / 8
      fineY := d % 8
      second := false
      x := 8 * f.coarseX + f.fineX
      y := 8 * (d / 8) + d % 8 }
  else { f with coarseX := d / 8, fineX := d % 8, second := true }

def writeAddress (f : ScrollFields) (d : Nat) : ScrollFields :=
  if f.second then
    let f := { f with coarseY := 8 * (f.coarseY / 8) + d / 32, coarseX := d % 32, second := false }
    { f with v := f.t }
  else
    { f with
      fineY := d / 16 % 4
      nametable := d / 4 % 4
      coarseY := 8 * (d % 4) + f.coarseY % 8
      second := true }

def clearToggle (f : ScrollFields) : ScrollFields :=
  { f with second := false }

def read (f : ScrollFields) (addr : UInt16) : ScrollFields :=
  match addr.toNat % 8 with
  | 2 => f.clearToggle
  | 7 => f.advance
  | _ => f

def write (f : ScrollFields) (addr : UInt16) (value : UInt8) : ScrollFields :=
  match addr.toNat % 8 with
  | 0 => f.writeCtrl value.toNat
  | 5 => f.writeScroll value.toNat
  | 6 => f.writeAddress value.toNat
  | 7 => f.advance
  | _ => f

def access (f : ScrollFields) : Access → ScrollFields
  | .read addr _ => f.read addr
  | .write addr value => f.write addr value

structure In (f : ScrollFields) (s : ScrollLatch) (step : UInt16) : Prop where
  t : s.t.toNat = f.t
  bits : f.coarseX < 32 ∧ f.coarseY < 32 ∧ f.nametable < 4 ∧ f.fineY < 8
  fineX : s.fineX = f.fineX ∧ f.fineX < 8
  second : s.second = f.second
  x : s.x = f.x ∧ f.x < 0x100
  y : s.y = f.y ∧ f.y < 0x100
  v : s.v.toNat = f.v ∧ f.v < 0x8000
  step : step.toNat = f.step

end ScrollFields

instance : Device Video where
  read addr video := video.readRegister addr
  write addr value video := (video.writeRegister addr value).2

def Access.touchesToggle : Access → Bool
  | .read addr _ => addr.toNat % 8 == 2
  | .write addr _ => addr.toNat % 8 == 5 || addr.toNat % 8 == 6

namespace ScrollFields.In
variable {f : ScrollFields} {s : ScrollLatch} {step : UInt16}

theorem bound (now : f.In s step) : f.t < 0x8000 := by
  have bits := now.bits
  unfold ScrollFields.t
  omega

theorem advance (now : f.In s step) : f.advance.In (s.advance step) step := by
  have moved : ((s.v + step) % 0x8000).toNat = (f.v + f.step) % 0x8000 := by
    rw [UInt16.toNat_mod, UInt16.toNat_add, now.v.1, now.step]
    exact Nat.mod_mod_of_dvd _ (by decide)
  exact { now with v := ⟨moved, Nat.mod_lt _ (by decide)⟩ }

theorem selectNametable (now : f.In s step) (value : UInt8) {step' : UInt16}
    (steps : step'.toNat = (f.writeCtrl value.toNat).step) :
    (f.writeCtrl value.toNat).In (s.selectNametable value) step' := by
  have t := now.t
  have bits := now.bits
  have selected := toNatWithField s.t (show 10 + 2 ≤ 16 by decide) value.toNat
  simp only [weight, Nat.reduceAdd, Nat.reduceShiftLeft, t, ScrollFields.t] at selected
  refine { now with t := ?_, bits := ?_, step := steps }
  · simp only [ScrollFields.t, writeCtrl, ScrollLatch.selectNametable, selected]
    omega
  · simp only [writeCtrl]
    omega

theorem settle (now : f.In s step) :
    { f with x := 8 * f.coarseX + f.fineX, y := 8 * f.coarseY + f.fineY }.In s.settle step := by
  have t := now.t
  have bits := now.bits
  obtain ⟨fineX, fineXBound⟩ := now.fineX
  have column : field s.t 0 5 = f.coarseX := by
    simp only [field, weight, Nat.reduceShiftLeft, t, ScrollFields.t]
    omega
  have row : field s.t 5 5 = f.coarseY := by
    simp only [field, weight, Nat.reduceShiftLeft, t, ScrollFields.t]
    omega
  have fineRow : field s.t 12 3 = f.fineY := by
    simp only [field, weight, Nat.reduceShiftLeft, t, ScrollFields.t]
    omega
  refine { now with x := ⟨?_, ?_⟩, y := ⟨?_, ?_⟩ }
  · simp only [ScrollLatch.settle, column, fineX]
  · simp only
    omega
  · simp only [ScrollLatch.settle, row, fineRow]
  · simp only
    omega

theorem writeScroll (now : f.In s step) (value : UInt8) :
    (f.writeScroll value.toNat).In (s.writeScroll value) step := by
  have byte := value.toNat_lt
  have t := now.t
  have bits := now.bits
  unfold ScrollFields.writeScroll ScrollLatch.writeScroll
  rw [now.second]
  cases f.second with
  | false =>
    have column := toNatWithField s.t (show 0 + 5 ≤ 16 by decide) (value.toNat / 8)
    simp only [weight, Nat.reduceAdd, Nat.reduceShiftLeft, t, ScrollFields.t] at column
    simp only [Bool.false_eq_true, if_false]
    refine { now with t := ?_, bits := ?_, fineX := ⟨rfl, ?_⟩, second := rfl }
    · simp only [ScrollFields.t, column]
      omega
    · simp only
      omega
    · exact Nat.mod_lt _ (by decide)
  | true =>
    have row := toNatWithField s.t (show 5 + 5 ≤ 16 by decide) (value.toNat / 8)
    have rows := toNatWithField (withField s.t 5 5 (value.toNat / 8)) (show 12 + 3 ≤ 16 by decide)
      value.toNat
    simp only [weight, Nat.reduceAdd, Nat.reduceShiftLeft, t, ScrollFields.t] at row rows
    rw [row] at rows
    have written : { f with
          coarseY := value.toNat / 8, fineY := value.toNat % 8, second := false }.In
        { s with
          t := withField (withField s.t 5 5 (value.toNat / 8)) 12 3 value.toNat
          second := false } step := by
      refine { now with t := ?_, bits := ?_, second := rfl }
      · simp only [ScrollFields.t, rows]
        omega
      · simp only
        omega
    exact written.settle

theorem writeAddress (now : f.In s step) (value : UInt8) :
    (f.writeAddress value.toNat).In (s.writeAddress value) step := by
  have byte := value.toNat_lt
  have t := now.t
  have bits := now.bits
  unfold ScrollFields.writeAddress ScrollLatch.writeAddress
  rw [now.second]
  cases f.second with
  | false =>
    have high := toNatWithField s.t (show 8 + 8 ≤ 16 by decide) (value.toNat % 64)
    simp only [weight, Nat.reduceAdd, Nat.reduceShiftLeft, t, ScrollFields.t] at high
    simp only [Bool.false_eq_true, if_false]
    refine { now with t := ?_, bits := ?_, second := rfl }
    · simp only [ScrollFields.t, high]
      omega
    · simp only
      omega
  | true =>
    have low := toNatWithField s.t (show 0 + 8 ≤ 16 by decide) value.toNat
    simp only [weight, Nat.reduceAdd, Nat.reduceShiftLeft, t, ScrollFields.t] at low
    have written : { f with
          coarseY := 8 * (f.coarseY / 8) + value.toNat / 32
          coarseX := value.toNat % 32
          second := false }.In
        { s with t := withField s.t 0 8 value.toNat, second := false } step := by
      refine { now with t := ?_, bits := ?_, second := rfl }
      · simp only [ScrollFields.t, low]
        omega
      · simp only
        omega
    exact { written with v := ⟨written.t, written.bound⟩ }

theorem clearToggle (now : f.In s step) : f.clearToggle.In s.clearToggle step :=
  { now with second := rfl }

end ScrollFields.In

theorem Ppu.stepWriteCtrl (ppu : Ppu) (value : UInt8) (f : ScrollFields) :
    (ppu.writeCtrl value).step.toNat = (f.writeCtrl value.toNat).step := by
  have bit : testBit value 2 = decide (value.toNat / 4 % 2 = 1) :=
    Nat.testBit_eq_decide_div_mod_eq
  simp only [step, writeCtrl, ScrollFields.writeCtrl, bit, decide_eq_true_eq]
  split <;> rfl

namespace Video

theorem writeVramScroll (video : Video) (addr : UInt16) (value : UInt8) :
    (video.writeVram addr value).2.ppu.scroll = video.ppu.scroll ∧
      (video.writeVram addr value).2.ppu.ctrl = video.ppu.ctrl := by
  obtain ⟨nametables, palette, tiles, cart, same, -⟩ := video.writeVramParts addr value
  rw [same]
  exact ⟨rfl, rfl⟩

end Video

namespace ScrollFields

def OfVideo (f : ScrollFields) (video : Video) : Prop :=
  f.In video.ppu.scroll video.ppu.step

theorem powerOn {video : Video} (latch : video.ppu.scroll = {})
    (ctrl : video.ppu.ctrl = 0) : OfVideo {} video := by
  have step : video.ppu.step = 1 := by
    rw [Ppu.step, ctrl]
    rfl
  unfold OfVideo
  rw [latch, step]
  exact ⟨rfl, by decide, by decide, rfl, by decide, by decide, by decide, rfl⟩

namespace OfVideo
variable {video : Video} {f : ScrollFields}

theorem readData (now : f.OfVideo video) : f.advance.OfVideo video.readData.2 := by
  unfold Video.readData
  simp only
  split <;> exact In.advance now

theorem writeData (now : f.OfVideo video) (value : UInt8) :
    f.advance.OfVideo (video.writeData value).2 := by
  obtain ⟨scroll, ctrl⟩ :=
    Video.writeVramScroll ⟨video.ppu.advance, video.cart⟩ video.ppu.scroll.v value
  unfold OfVideo Ppu.step
  rw [Video.writeData, scroll, ctrl]
  exact In.advance now

theorem readRegister (now : f.OfVideo video) (addr : UInt16) :
    (f.read addr).OfVideo (video.readRegister addr).2 := by
  unfold ScrollFields.read
  split
  case h_1 status =>
    simp only [Video.readRegister, status]
    exact In.clearToggle now
  case h_2 data =>
    simp only [Video.readRegister, data]
    exact now.readData
  case h_3 =>
    unfold Video.readRegister
    split
    all_goals first | contradiction | exact now

theorem writeRegister (now : f.OfVideo video) (addr : UInt16) (value : UInt8) :
    (f.write addr value).OfVideo (video.writeRegister addr value).2 := by
  have latched : f.OfVideo (video.update fun ppu => { ppu with latch := value }) := now
  unfold ScrollFields.write
  split
  case h_1 ctrl =>
    simp only [Video.writeRegister, ctrl]
    exact In.selectNametable now value (Ppu.stepWriteCtrl _ value f)
  case h_2 scroll =>
    simp only [Video.writeRegister, scroll]
    exact In.writeScroll now value
  case h_3 address =>
    simp only [Video.writeRegister, address]
    exact In.writeAddress now value
  case h_4 data =>
    simp only [Video.writeRegister, data]
    exact latched.writeData value
  case h_5 =>
    unfold Video.writeRegister
    simp only
    split
    all_goals first | contradiction | exact now

theorem perform (now : f.OfVideo video) (access : Access) :
    (f.access access).OfVideo (access.perform video) := by
  cases access with
  | read addr value => exact now.readRegister addr
  | write addr value => exact now.writeRegister addr value

theorem performAll (now : f.OfVideo video) (accesses : List Access) :
    (accesses.foldl access f).OfVideo (accesses.foldl Access.perform video) := by
  induction accesses generalizing f video with
  | nil => exact now
  | cons access rest ih => exact ih (now.perform access)

theorem bounds (now : f.OfVideo video) :
    video.ppu.scroll.t.toNat < 0x8000 ∧ video.ppu.scroll.v.toNat < 0x8000 ∧
      video.ppu.scroll.fineX < 8 ∧ video.ppu.scroll.x < 0x100 ∧ video.ppu.scroll.y < 0x100 := by
  refine ⟨?_, ?_, ?_, ?_, ?_⟩
  · exact now.t ▸ now.bound
  · exact now.v.1 ▸ now.v.2
  · exact now.fineX.1 ▸ now.fineX.2
  · exact now.x.1 ▸ now.x.2
  · exact now.y.1 ▸ now.y.2

theorem render (now : f.OfVideo video) : f.OfVideo (video.update Ppu.render) := by
  unfold Video.update Ppu.render Ppu.renderSprites
  simp only
  split <;> exact now

theorem kept : Video.Kept fun video => ∃ f : ScrollFields, f.OfVideo video where
  powerOn _ := ⟨{}, ScrollFields.powerOn rfl rfl⟩
  readRegister _ addr := fun ⟨_, now⟩ => ⟨_, now.readRegister addr⟩
  writeRegister _ addr value := fun ⟨_, now⟩ => ⟨_, now.writeRegister addr value⟩
  writeVram video addr value := fun ⟨f, now⟩ => by
    obtain ⟨scroll, ctrl⟩ := video.writeVramScroll addr value
    refine ⟨f, ?_⟩
    unfold OfVideo Ppu.step
    rw [scroll, ctrl]
    exact now
  copyToOam _ _ now := now
  beginVblank video := fun ⟨f, now⟩ => by
    have entered : f.OfVideo (video.update fun ppu =>
        { ppu with status := (ppu.status ||| 0x80) &&& 0xBF }) := now
    exact ⟨f, entered.render⟩
  endVblank _ now := now
  render _ := fun ⟨f, now⟩ => ⟨f, now.render⟩

end OfVideo

structure Halfway (column : Nat) (f : ScrollFields) : Prop where
  coarseX : f.coarseX = column / 8
  fineX : f.fineX = column % 8
  second : f.second = true

namespace Halfway
variable {column : Nat} {f : ScrollFields}

theorem access (now : Halfway column f) {access : Access} (quiet : access.touchesToggle = false) :
    Halfway column (f.access access) := by
  cases access with
  | read addr value =>
    unfold ScrollFields.access ScrollFields.read
    simp only
    split
    case h_1 status => simp [Access.touchesToggle, status] at quiet
    all_goals exact ⟨now.coarseX, now.fineX, now.second⟩
  | write addr value =>
    unfold ScrollFields.access ScrollFields.write
    simp only
    split
    case h_2 scroll => simp [Access.touchesToggle, scroll] at quiet
    case h_3 address => simp [Access.touchesToggle, address] at quiet
    all_goals exact ⟨now.coarseX, now.fineX, now.second⟩

theorem accesses (now : Halfway column f) {accesses : List Access}
    (quiet : ∀ access ∈ accesses, access.touchesToggle = false) :
    Halfway column (accesses.foldl ScrollFields.access f) := by
  induction accesses generalizing f with
  | nil => exact now
  | cons access rest ih =>
    obtain ⟨here, later⟩ := List.forall_mem_cons.mp quiet
    exact ih (now.access here) later

theorem finish (now : Halfway column f) (row : Nat) :
    (f.writeScroll row).x = column ∧ (f.writeScroll row).y = row := by
  unfold ScrollFields.writeScroll
  rw [if_pos now.second]
  simp only [now.coarseX, now.fineX]
  omega

end Halfway

theorem writeScrollTwice {f : ScrollFields} (first : f.second = false) {addr addr' : UInt16}
    (scroll : addr.toNat % 8 = 5) (scroll' : addr'.toNat % 8 = 5) (column row : UInt8)
    {between : List Access} (quiet : ∀ access ∈ between, access.touchesToggle = false) :
    let scrolled := (Access.write addr column :: (between ++ [.write addr' row])).foldl access f
    scrolled.x = column.toNat ∧ scrolled.y = row.toNat := by
  intro scrolled
  have started : Halfway column.toNat (f.access (.write addr column)) := by
    simp only [access, write, scroll, writeScroll, first]
    exact ⟨rfl, rfl, rfl⟩
  have ended : scrolled = (between.foldl access (f.access (.write addr column))).writeScroll
      row.toNat := by
    simp only [scrolled, List.foldl_cons, List.foldl_append, List.foldl_nil]
    generalize between.foldl access (f.access (.write addr column)) = half
    simp only [access, write, scroll']
  rw [ended]
  exact (started.accesses quiet).finish row.toNat

end ScrollFields

/-- After any accesses to the registers, from power on, the latch is what the same accesses make of
its fields one by one. -/
theorem Video.latchFollowsFields {start : Video} (latch : start.ppu.scroll = {})
    (ctrl : start.ppu.ctrl = 0) (accesses : List Access) :
    let video := accesses.foldl Access.perform start
    let scroll := video.ppu.scroll
    (accesses.foldl ScrollFields.access {}).OfVideo video ∧
      (scroll.t.toNat < 0x8000 ∧ scroll.v.toNat < 0x8000 ∧ scroll.fineX < 8 ∧
        scroll.x < 0x100 ∧ scroll.y < 0x100) ∧
      ∀ (addr addr' : UInt16) (column row : UInt8) (between : List Access),
        scroll.second = false → addr.toNat % 8 = 5 → addr'.toNat % 8 = 5 →
        (∀ access ∈ between, access.touchesToggle = false) →
        let scrolled := (Access.write addr column :: (between ++ [.write addr' row])).foldl
          Access.perform video
        scrolled.ppu.scroll.x = column.toNat ∧ scrolled.ppu.scroll.y = row.toNat := by
  intro video scroll
  have now := (ScrollFields.powerOn latch ctrl).performAll accesses
  refine ⟨now, now.bounds, ?_⟩
  intro addr addr' column row between first register register' quiet scrolled
  have first' := now.second.symm.trans first
  obtain ⟨x, y⟩ := ScrollFields.writeScrollTwice first' register register' column row quiet
  have after := now.performAll (Access.write addr column :: (between ++ [.write addr' row]))
  exact ⟨after.x.1.trans x, after.y.1.trans y⟩

theorem Video.latchFollowsFieldsAgain :
    let accesses := [Access.write 0x2000 0x87, .write 0x2006 0x2D, .write 0x3FFE 0xB4,
      .write 0x2007 0x11, .write 0x2006 0x3F, .read 0x2002 0]
    let video := accesses.foldl Access.perform (powerOn {
      prg := #[], chr := .ram (.filled 0x2000 0), prgBanks := 1, chrBanks := 0, mapper := 0
      mirroring := .vertical })
    let scrolled := [Access.write 0x2005 0x7D, .write 0x2008 0x02, .write 0x200D 0xE6].foldl
      Access.perform video
    (video.ppu.scroll.t.toNat = 0x3FB4 ∧ video.ppu.scroll.v.toNat = 0x2DD4) ∧
      scrolled.ppu.scroll.x = 0x7D ∧ scrolled.ppu.scroll.y = 0xE6 := by
  intro accesses video scrolled
  have fields : accesses.foldl ScrollFields.access {} = {
      coarseX := 0x14, coarseY := 0x1D, nametable := 3, fineY := 3, v := 0x2DD4, step := 32 } := by
    decide
  obtain ⟨now, -, twice⟩ := @latchFollowsFields (powerOn _) rfl rfl accesses
  rw [fields] at now
  refine ⟨⟨now.t, now.v.1⟩, ?_⟩
  exact twice 0x2005 0x200D 0x7D 0xE6 [.write 0x2008 0x02] now.second (by decide) (by decide)
    (by decide)

end Nes
