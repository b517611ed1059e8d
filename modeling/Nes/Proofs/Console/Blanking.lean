import Nes.Proofs.Bus.Pictures
import Nes.Proofs.Bus.StatusReads
import Nes.Proofs.Console.Faults
import Nes.Proofs.Console.Moments
import Nes.Proofs.Ppu.SpriteOverlap

/-! The life of vertical blank over sessions: when the status register tells of it, when the
processor enters its handler, and from which picture the hit in the register comes. -/
namespace Nes

namespace Bus

theorem receivePictures (bus : Bus) {signal : Signal} (plain : signal.plain = true) :
    (bus.receive signal).video.ppu.pictures = bus.video.ppu.pictures := by
  cases signal with
  | access access =>
    cases access with
    | read addr value =>
      exact congrArg (·.2.video.ppu.pictures)
        ((mapPictures bus.video.ppu.pictures).read addr bus)
    | write addr value =>
      exact congrArg (·.video.ppu.pictures)
        ((mapPictures bus.video.ppu.pictures).write addr value bus)
  | tick | takeFault => rfl
  | _ => cases plain

theorem playPictures (bus : Bus) {signals : List Signal}
    (plain : ∀ signal ∈ signals, signal.plain = true) :
    (bus.play signals).video.ppu.pictures = bus.video.ppu.pictures := by
  induction signals generalizing bus with
  | nil => rfl
  | cons signal rest ih =>
    obtain ⟨here, others⟩ := List.forall_mem_cons.mp plain
    exact (ih _ others).trans (bus.receivePictures here)

theorem playOverlap (bus : Bus) {signals : List Signal}
    (plain : ∀ signal ∈ signals, signal.plain = true) :
    (bus.play signals).video.ppu.overlap = bus.video.ppu.overlap :=
  congrArg Pictures.overlap (bus.playPictures plain)

theorem beginVblankMarks (bus : Bus) : (bus.receive .beginVblank).marks = ⟨true, false⟩ := by
  have set : bus.video.ppu.beginVblank.inVblank = true := by
    unfold Ppu.beginVblank
    rw [Ppu.renderParts]
    change testBit ((bus.video.ppu.status ||| 0x80) &&& 0xBF) 7 = true
    rw [testBitAnd, testBitOr]
    exact (Bool.and_true _).trans (Bool.or_true _)
  exact congr (congrArg Marks.mk set) bus.video.ppu.beginVblankOverlap.1

theorem endVblankMarks (bus : Bus) :
    (bus.receive .endVblank).marks = ⟨false, bus.marks.hit || bus.video.ppu.overlap⟩ := by
  have clear : bus.video.ppu.endVblank.inVblank = false := by
    unfold Ppu.endVblank Ppu.inVblank
    cases bus.video.ppu.overlap with
    | true =>
      change testBit ((bus.video.ppu.status &&& 0x7F) ||| 0x40) 7 = false
      rw [testBitOr, testBitAnd]
      exact (Bool.or_false _).trans (Bool.and_false _)
    | false =>
      change testBit (bus.video.ppu.status &&& 0x7F) 7 = false
      rw [testBitAnd]
      exact Bool.and_false _
  exact congr (congrArg Marks.mk clear) bus.video.ppu.endVblankOverlap

end Bus

namespace Console

theorem plainAccesses (accesses : List Access) :
    ∀ signal ∈ accesses.map Signal.access, signal.plain = true := by
  intro signal inside
  obtain ⟨access, -, rfl⟩ := List.mem_map.mp inside
  rfl

theorem advancePlain (console : Console) :
    ∀ signal ∈ console.advanceSignals, signal.plain = true := by
  refine List.forall_mem_append.mpr ⟨plainAccesses _, ?_⟩
  simp [Signal.plain]

theorem signalsPlain (console : Console) (n : Nat) :
    ∀ signal ∈ console.signals n, signal.plain = true := by
  induction n generalizing console with
  | zero => nofun
  | succ n ih => exact List.forall_mem_append.mpr ⟨console.advancePlain, ih _⟩

theorem entryPlain (console : Console) :
    ∀ signal ∈ console.blankSignals.tail, signal.plain = true := by
  unfold blankSignals
  simp only [List.tail_cons]
  split
  · refine List.forall_mem_append.mpr ⟨plainAccesses _, ?_⟩
    simp [Signal.plain]
  · nofun

def boundary (console : Console) (elapsed : Duration) : Console :=
  let budget := console.budget elapsed
  console.sliceEnd (budget - console.blankShare budget)

def reachesBlank (console : Console) (elapsed : Duration) : Bool :=
  console.fault.isNone && console.bus.video.cart.isSome && !console.paused &&
    (console.boundary elapsed).fault.isNone

def preSignals (console : Console) (elapsed : Duration) : List Signal :=
  let budget := console.budget elapsed
  console.sliceSignals (budget - console.blankShare budget)

def postSignals (console : Console) (elapsed : Duration) : List Signal :=
  let boundary := console.boundary elapsed
  boundary.blankSignals.tail ++
    boundary.blanked.sliceSignals (console.blankShare (console.budget elapsed))

theorem prePlain (console : Console) (elapsed : Duration) :
    ∀ signal ∈ console.preSignals elapsed, signal.plain = true :=
  console.signalsPlain _

theorem postPlain (console : Console) (elapsed : Duration) :
    ∀ signal ∈ console.postSignals elapsed, signal.plain = true :=
  List.forall_mem_append.mpr ⟨entryPlain _, signalsPlain _ _⟩

theorem reachesParts {console : Console} {elapsed : Duration} :
    console.reachesBlank elapsed = true ↔
      console.fault = none ∧ console.bus.video.cart.isSome = true ∧ console.paused = false ∧
        (console.boundary elapsed).fault = none := by
  unfold reachesBlank
  rw [Bool.and_eq_true, Bool.and_eq_true, Bool.and_eq_true, Option.isNone_iff_eq_none,
    Option.isNone_iff_eq_none, Bool.not_eq_true', and_assoc, and_assoc]

theorem runningFrame {console : Console} (running : console.fault = none)
    (inserted : console.bus.video.cart.isSome = true) (free : console.paused = false)
    (elapsed : Duration) :
    console.frameSignals elapsed = console.budgetSignals (console.budget elapsed) ∧
      console.frameMoments elapsed = console.budgetMoments (console.budget elapsed) ∧
      console.runFrame elapsed = console.runBudget (console.budget elapsed) := by
  obtain ⟨cart, present⟩ := Option.isSome_iff_exists.mp inserted
  simp [frameSignals, frameMoments, runFrame, running, present, free]

theorem blankedFrame {console : Console} {elapsed : Duration}
    (reaches : console.reachesBlank elapsed = true) :
    console.frameSignals elapsed =
        console.preSignals elapsed ++ .beginVblank :: (console.postSignals elapsed ++
          if (console.runFrame elapsed).2.fault.isSome then [] else [.endVblank]) ∧
      (console.frameMoments elapsed).count .nmi =
        ((console.boundary elapsed).bus.video.ppu.wantsNmi &&
          !(console.boundary elapsed).cpu.registers.halted).toNat := by
  obtain ⟨running, inserted, free, passed⟩ := reachesParts.mp reaches
  obtain ⟨signals, moments, ran⟩ := runningFrame running inserted free elapsed
  have begun : ¬(console.boundary elapsed).fault.isSome = true := by simp [passed]
  unfold boundary at begun
  have ending (c : Bool) :
      (if c then [] else [Moment.signal .endVblank]).count .nmi = 0 := by cases c <;> rfl
  rw [signals, moments, ran, runBudgetParts]
  unfold budgetSignals budgetMoments
  simp only [if_neg begun, reportConsole, finishFault, List.count_append, sliceNmi, blankNmi,
    ending, Nat.zero_add, Nat.add_zero]
  exact ⟨rfl, rfl⟩

theorem plainFrame {console : Console} {elapsed : Duration}
    (misses : console.reachesBlank elapsed = false) :
    (∀ signal ∈ console.frameSignals elapsed, signal.plain = true ∨ signal = .render) ∧
      (console.frameMoments elapsed).count .nmi = 0 := by
  by_cases idle : console.fault.isSome ∨ console.bus.video.cart.isNone
  · unfold frameSignals frameMoments
    rw [if_pos idle, if_pos idle]
    exact ⟨nofun, rfl⟩
  obtain ⟨running, inserted⟩ := not_or.mp idle
  cases held : console.paused with
  | true =>
    unfold frameSignals frameMoments
    rw [if_neg idle, if_neg idle, if_pos held, if_pos held]
    refine ⟨List.forall_mem_append.mpr ⟨Bus.calm (signalsPlain _ _), ?_⟩, ?_⟩
    · split <;> simp
    · rw [pausedMoments, List.count_append, sliceNmi]
      split <;> rfl
  | false =>
    have clear : console.fault = none := by simpa using running
    have present : console.bus.video.cart.isSome = true := by
      rw [Option.isSome_iff_ne_none]
      simpa using inserted
    obtain ⟨signals, moments, -⟩ := runningFrame clear present held elapsed
    have stopped : (console.boundary elapsed).fault.isSome = true := by
      cases passed : (console.boundary elapsed).fault with
      | some cause => rfl
      | none =>
        rw [reachesParts.mpr ⟨clear, present, held, passed⟩] at misses
        cases misses
    unfold boundary at stopped
    rw [signals, moments, budgetSignals, budgetMoments]
    simp only [if_pos stopped, List.append_nil, sliceNmi, and_true]
    exact Bus.calm (signalsPlain _ _)

def drawnOverlap (console : Console) (elapsed : Duration) : Bool :=
  ((console.boundary elapsed).bus.receive .beginVblank).video.ppu.overlap

theorem blankedMarks {console : Console} {elapsed : Duration}
    (reaches : console.reachesBlank elapsed = true)
    (clear : (console.runFrame elapsed).2.fault = none) :
    (console.runFrame elapsed).2.bus.marks = ⟨false, console.drawnOverlap elapsed⟩ := by
  have before : console.bus.play (console.preSignals elapsed) = (console.boundary elapsed).bus :=
    console.replaySlice _
  have begun := (console.boundary elapsed).bus.beginVblankMarks
  rw [← replayFrame, (blankedFrame reaches).1, clear, Bus.playAppend, before, Bus.playCons,
    Bus.playAppend, drawnOverlap]
  -- From here to the end of the blank nothing draws, and so the hit comes from this picture.
  generalize (console.boundary elapsed).bus.receive .beginVblank = bus at begun ⊢
  have drawn := bus.playOverlap (console.postPlain elapsed)
  have gives := bus.playGives (Bus.calm (console.postPlain elapsed))
  change (Bus.receive _ .endVblank).marks = _
  rw [Bus.endVblankMarks, gives.marks, begun, drawn, Bool.false_or]

theorem plainMarks {console : Console} {elapsed : Duration}
    (misses : console.reachesBlank elapsed = false) (dark : console.bus.marks.blank = false) :
    (console.runFrame elapsed).2.bus.marks = console.bus.marks := by
  have gives := console.bus.playGives (plainFrame misses).1
  rw [← replayFrame, gives.marks, dark, Bool.false_and, ← dark]

def loadedOverlap (last : Bool) : Except LoadError Cartridge → Bool
  | .error _ => last
  | .ok _ => false

-- The overlap that a frame of a running console drew last, if there was one since the cartridge was
-- loaded.
def overlapAfter (console : Console) (last : Bool) : Operation → Bool
  | .loadBytes data => loadedOverlap last (Cartridge.ofBytes data)
  | .loadFile contents => loadedOverlap last (Cartridge.ofFile contents)
  | .insert _ => false
  | .runFrame elapsed =>
    if console.reachesBlank elapsed then console.drawnOverlap elapsed else last
  | _ => last

def remember (now : Console × Bool) (operation : Operation) : Console × Bool :=
  (now.1.perform operation, now.1.overlapAfter now.2 operation)

def lastOverlap (config : Config) (operations : List Operation) : Bool :=
  (operations.foldl remember (new config, false)).2

def Settled (console : Console) (last : Bool) : Prop :=
  console.fault = none → console.bus.marks = ⟨false, last⟩

theorem insertMarks (console : Console) (cart : Cartridge) :
    (console.insert cart).bus.marks = ⟨false, false⟩ := by
  have low := (console.bus.powerOn cart).readMarks (by decide : ¬StatusAddress 0xFFFC)
  have high := ((console.bus.powerOn cart).read 0xFFFC).2.readMarks
    (by decide : ¬StatusAddress 0xFFFD)
  have fresh : (console.bus.powerOn cart).marks = ⟨false, false⟩ := Ppu.clearMarks rfl
  exact (high.trans low).trans fresh

namespace Settled
variable {console : Console} {last : Bool} (now : console.Settled last)
include now

theorem load (cart : Except LoadError Cartridge) :
    (console.load cart).2.Settled (loadedOverlap last cart) := by
  cases cart with
  | error e => exact now
  | ok cart => exact fun _ => console.insertMarks cart

theorem runFrame (elapsed : Duration) :
    (console.runFrame elapsed).2.Settled (console.overlapAfter last (.runFrame elapsed)) := by
  intro clear
  rw [overlapAfter]
  cases reaches : console.reachesBlank elapsed with
  | true => exact blankedMarks reaches clear
  | false =>
    have running : console.fault = none := by
      cases failed : console.fault with
      | none => rfl
      | some e => rwa [faultyFrame failed, failed] at clear
    have settled := now running
    exact (plainMarks reaches (congrArg Marks.blank settled)).trans settled

theorem perform (operation : Operation) :
    (console.perform operation).Settled (console.overlapAfter last operation) := by
  cases operation with
  | loadBytes data => exact now.load (Cartridge.ofBytes data)
  | loadFile contents => exact now.load (Cartridge.ofFile contents)
  | insert cart => exact fun _ => console.insertMarks cart
  | runFrame elapsed => exact now.runFrame elapsed
  | setPaused | requestStep | hold | drainSamples => exact now

end Settled

theorem sessionSettled (config : Config) (operations : List Operation) :
    (session config operations).Settled (lastOverlap config operations) := by
  have remembered : (operations.foldl remember (new config, false)).1 = session config operations :=
    (List.foldl_hom Prod.fst fun _ _ => rfl).symm
  have fresh : (new config).Settled false := fun _ => Ppu.clearMarks rfl
  rw [← remembered]
  refine List.foldlRecOn operations remember (motive := fun now => now.1.Settled now.2) ?_
    fun now settled operation _ => settled.perform operation
  exact fresh

theorem frameNmi (console : Console) (elapsed : Duration) :
    (console.frameMoments elapsed).count .nmi =
      (console.reachesBlank elapsed && (console.boundary elapsed).bus.video.ppu.wantsNmi &&
        !(console.boundary elapsed).cpu.registers.halted).toNat := by
  cases reaches : console.reachesBlank elapsed with
  | true =>
    rw [(blankedFrame reaches).2, Bool.true_and]
  | false =>
    rw [(plainFrame reaches).2, Bool.false_and]
    rfl

theorem frameCount {console : Console} (dark : console.bus.marks.blank = false)
    (elapsed : Duration) :
    (console.bus.statusBytes (console.frameSignals elapsed)).countP (testBit · 7) ≤ 1 := by
  cases reaches : console.reachesBlank elapsed with
  | true =>
    have before := (console.bus.playGives (Bus.calm (console.prePlain elapsed))).count
    have after := (((console.bus.play (console.preSignals elapsed)).receive .beginVblank).playGives
      (Bus.calm (console.postPlain elapsed))).count
    have began (bus : Bus) (rest : List Signal) :
        bus.statusBytes (.beginVblank :: rest) =
          (bus.receive .beginVblank).statusBytes rest := rfl
    have ended (bus : Bus) (c : Bool) :
        bus.statusBytes (if c then [] else [.endVblank]) = [] := by cases c <;> rfl
    rw [dark] at before
    rw [(blankedFrame reaches).1, Bus.statusBytesAppend, began, Bus.statusBytesAppend, ended,
      List.append_nil, List.countP_append]
    exact Nat.add_le_add before (Nat.le_trans after (Bool.toNat_le _))
  | false =>
    have none := (console.bus.playGives (plainFrame reaches).1).count
    rw [dark] at none
    exact Nat.le_succ_of_le none

/-- Between frames there is no blank. In a frame of a running console the status register tells of
none before the blank begins, and then until it is read first. The hit that it tells comes from the
last such frame, and is cleared as the blank begins. The processor enters the handler of the blank
once if it was asked to and is not halted. All other frames tell of no blank and enter no
handler. -/
theorem blankLifecycle (config : Config) (operations : List Operation)
    (clear : (session config operations).fault = none) :
    let console := session config operations
    let last := lastOverlap config operations
    console.bus.video.ppu.inVblank = false ∧
      ∀ elapsed,
        let frame := console.frameSignals elapsed
        let boundary := console.boundary elapsed
        console.machine.Leads (console.frameMoments elapsed) frame
            (console.runFrame elapsed).2.machine ∧
          (console.frameMoments elapsed).count .nmi =
            (console.reachesBlank elapsed && testBit boundary.bus.video.ppu.ctrl 7 &&
              !boundary.cpu.registers.halted).toNat ∧
          (console.bus.statusBytes frame).countP (testBit · 7) ≤ 1 ∧
          (console.reachesBlank elapsed = false → console.bus.Shows frame false last) ∧
          (console.reachesBlank elapsed = true →
            frame = console.preSignals elapsed ++ .beginVblank :: (console.postSignals elapsed ++
              if (console.runFrame elapsed).2.fault.isSome then [] else [.endVblank]) ∧
            console.bus.Shows (console.preSignals elapsed) false last ∧
            (boundary.bus.receive .beginVblank).Shows (console.postSignals elapsed) true false) := by
  intro console last
  have marks : console.bus.marks = ⟨false, last⟩ := sessionSettled config operations clear
  have dark : console.bus.marks.blank = false := congrArg Marks.blank marks
  refine ⟨dark, fun elapsed => ⟨console.frameLeads elapsed, console.frameNmi elapsed,
    frameCount dark elapsed, fun misses => ?_, fun reaches => ⟨(blankedFrame reaches).1, ?_, ?_⟩⟩⟩
  · have shows := console.bus.shows (plainFrame misses).1
    rwa [marks] at shows
  · have shows := console.bus.shows (Bus.calm (console.prePlain elapsed))
    rwa [marks] at shows
  · have shows := ((console.boundary elapsed).bus.receive .beginVblank).shows
      (Bus.calm (console.postPlain elapsed))
    rwa [Bus.beginVblankMarks] at shows

def blankingCartridge : Cartridge where
  -- A list, because an array appended to an array is evaluated push by push.
  prg := ⟨[0xA9, 0x80, 0x8D, 0x00, 0x20, 0xAD, 0x02, 0x20] ++ List.replicate 0x3FF2 0xEA ++
    [0x05, 0x80, 0x00, 0x80, 0x00, 0x80]⟩
  chr := .rom #[]
  prgBanks := 1
  chrBanks := 1
  mapper := 0
  mirroring := .vertical

def blankingConfig : Config where
  maxCyclesPerStep := 12
  vblankFraction := .ofFloat 0.5

theorem blankLifecycleEntering :
    let console := session blankingConfig [.insert blankingCartridge]
    let idle := session blankingConfig [.insert blankingCartridge, .setPaused true]
    console.fault = none ∧ console.reachesBlank ⟨1, 0⟩ = true ∧
      (console.frameMoments ⟨1, 0⟩).count .nmi = 1 ∧
      console.bus.Shows (console.preSignals ⟨1, 0⟩) false false ∧
      ((console.boundary ⟨1, 0⟩).bus.receive .beginVblank).Shows
        (console.postSignals ⟨1, 0⟩) true false ∧
      idle.bus.Shows (idle.frameSignals ⟨1, 0⟩) false false := by
  intro console idle
  have entered : (console.reachesBlank ⟨1, 0⟩ &&
      testBit (console.boundary ⟨1, 0⟩).bus.video.ppu.ctrl 7 &&
      !(console.boundary ⟨1, 0⟩).cpu.registers.halted) = true := by
    decide +kernel
  have reaches : console.reachesBlank ⟨1, 0⟩ = true := by
    rw [Bool.and_assoc, Bool.and_eq_true] at entered
    exact entered.1
  have misses : idle.reachesBlank ⟨1, 0⟩ = false := by rfl
  have running : console.fault = none := rfl
  obtain ⟨-, frames⟩ := blankLifecycle blankingConfig [.insert blankingCartridge] running
  obtain ⟨-, idles⟩ :=
    blankLifecycle blankingConfig [.insert blankingCartridge, .setPaused true] rfl
  obtain ⟨-, count, -, -, reached⟩ := frames ⟨1, 0⟩
  obtain ⟨-, -, -, missed, -⟩ := idles ⟨1, 0⟩
  obtain ⟨-, pre, post⟩ := reached reaches
  refine ⟨running, reaches, ?_, pre, post, missed misses⟩
  rw [count, entered]
  rfl

end Console
end Nes
