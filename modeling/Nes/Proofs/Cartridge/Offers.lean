import Nes.Proofs.Video.Aliasing

/-! What is offered to the board of the cartridge. All that a board keeps of what happens on the
bus, to the memory of the picture unit or to the board itself are the bytes for its character memory
that it takes, and of these it shows the last. -/
namespace Nes

namespace Cartridge

def offer (cart : Cartridge) (write : UInt16 × UInt8) : Cartridge :=
  (cart.ppuWrite write.1 write.2).toOption.getD cart

def offerAll (cart : Cartridge) (writes : List (UInt16 × UInt8)) : Cartridge :=
  writes.foldl offer cart

def taken (cart : Cartridge) : List (UInt16 × UInt8) → List (UInt16 × UInt8)
  | [] => []
  | write :: rest =>
    (if (cart.ppuWrite write.1 write.2).isOk then [write] else []) ++ (cart.offer write).taken rest

def lastTaken (cart : Cartridge) (writes : List (UInt16 × UInt8)) (addr : UInt16) : Option UInt8 :=
  (cart.taken writes).reverse.lookup addr

end Cartridge

inductive BoardAccess where
  | cpuRead (addr : UInt16)
  | cpuWrite (addr : UInt16) (value : UInt8)
  | ppuRead (addr : UInt16)
  | ppuWrite (addr : UInt16) (value : UInt8)
  deriving DecidableEq, Repr

namespace BoardAccess

def perform (cart : Cartridge) : BoardAccess → Cartridge
  | ppuWrite addr value => cart.offer (addr, value)
  | cpuRead _ | cpuWrite .. | ppuRead _ => cart

def offers : BoardAccess → List (UInt16 × UInt8)
  | ppuWrite addr value => [(addr, value)]
  | cpuRead _ | cpuWrite .. | ppuRead _ => []

end BoardAccess

inductive BoardEvent where
  | signal (signal : Signal) (stays : ∀ cart, signal ≠ .insert cart)
  | vramRead (addr : UInt16)
  | board (access : BoardAccess)

def Video.offers (addr : UInt16) (value : UInt8) : List (UInt16 × UInt8) :=
  if addr.toNat % 0x4000 < 0x2000 then [(addr % 0x4000, value)] else []

namespace Bus

def undergo (bus : Bus) : BoardEvent → Bus
  | .signal signal _ => bus.receive signal
  | .vramRead _ => bus
  | .board access =>
    { bus with video := { bus.video with cart := bus.video.cart.map access.perform } }

def undergoAll (bus : Bus) (events : List BoardEvent) : Bus :=
  events.foldl undergo bus

def offers (bus : Bus) : BoardEvent → List (UInt16 × UInt8)
  | .signal (.access (.write addr value)) _ =>
    if 0x2000 ≤ addr.toNat ∧ addr.toNat < 0x4000 ∧ addr.toNat % 8 = 7 then
      Video.offers bus.video.ppu.scroll.v value
    else []
  | .signal (.ppuWrite addr value) _ => Video.offers addr value
  | .board access => access.offers
  | .signal .. | .vramRead _ => []

def allOffers (bus : Bus) : List BoardEvent → List (UInt16 × UInt8)
  | [] => []
  | event :: rest => bus.offers event ++ (bus.undergo event).allOffers rest

end Bus

theorem Cartridge.offerNone (cart : Option Cartridge) : cart.map (·.offerAll []) = cart := by
  cases cart <;> rfl

namespace Cartridge
variable (cart : Cartridge)

theorem offerCases (write : UInt16 × UInt8) :
    ((cart.ppuWrite write.1 write.2).isOk = false ∧ cart.offer write = cart) ∨
      ∃ cells : Ram 0x2000, cart.chr = .ram cells ∧ write.1.toNat < 0x2000 ∧
        cart.ppuWrite write.1 write.2 = .ok (cart.offer write) ∧
        cart.offer write = { cart with chr := .ram (cells.write write.1.toNat write.2) } := by
  unfold offer ppuWrite
  cases memory : cart.chr with
  | rom bytes => exact .inl ⟨rfl, rfl⟩
  | ram cells =>
    by_cases low : write.1 < 0x2000
    · simp only [if_pos low]
      exact .inr ⟨cells, rfl, UInt16.lt_iff_toNat_lt.mp low, rfl, rfl⟩
    · simp only [if_neg low]
      exact .inl ⟨rfl, rfl⟩

theorem ppuReadOffer (write : UInt16 × UInt8) (addr : UInt16) :
    (cart.offer write).ppuRead addr =
      if (cart.ppuWrite write.1 write.2).isOk ∧ addr = write.1 then write.2
      else cart.ppuRead addr := by
  obtain ⟨lost, same⟩ | ⟨cells, -, -, made, -⟩ := cart.offerCases write
  · rw [same, lost, if_neg fun both => Bool.false_ne_true both.1]
  · by_cases here : addr = write.1
    · rw [if_pos ⟨by rw [made]; rfl, here⟩, here]
      exact (ppuReadWrite made).2.2
    · rw [if_neg fun both => here both.2]
      exact (ppuWriteOk made).2 addr here

theorem lastTakenCons (write : UInt16 × UInt8) (rest : List (UInt16 × UInt8)) (addr : UInt16) :
    cart.lastTaken (write :: rest) addr =
      ((cart.offer write).lastTaken rest addr).or
        (if (cart.ppuWrite write.1 write.2).isOk ∧ addr = write.1 then some write.2 else none) := by
  obtain ⟨place, value⟩ := write
  rw [lastTaken, taken, List.reverse_append, List.lookup_append]
  congr 1
  by_cases made : (cart.ppuWrite place value).isOk
  · by_cases here : addr = place
    · simp [made, here]
    · have apart : (addr == place) = false := beq_false_of_ne here
      simp [made, here, apart, List.lookup_cons]
  · simp [made]

theorem ppuReadOfferAll (writes : List (UInt16 × UInt8)) (addr : UInt16) :
    (cart.offerAll writes).ppuRead addr =
      (cart.lastTaken writes addr).getD (cart.ppuRead addr) := by
  induction writes generalizing cart with
  | nil => rfl
  | cons write rest ih =>
    rw [offerAll, List.foldl_cons, ← offerAll, ih, lastTakenCons, ppuReadOffer]
    cases (cart.offer write).lastTaken rest addr with
    | some value => rfl
    | none =>
      rw [Option.none_or]
      split <;> rfl

end Cartridge

namespace Video
variable (video : Video)

theorem writeVramOffers (addr : UInt16) (value : UInt8) :
    (video.writeVram addr value).2.cart = video.cart.map (·.offerAll (offers addr value)) := by
  obtain ⟨ppu, cart⟩ := video
  unfold writeVram offers
  rw [VideoCell.ofAddressRegions]
  split
  · cases cart with
    | none => rfl
    | some cart =>
      have made : (writePattern ⟨ppu, some cart⟩ (addr % 0x4000) value).2.cart =
          some (cart.offer (addr % 0x4000, value)) := by
        unfold writePattern Cartridge.offer
        simp only
        cases cart.ppuWrite (addr % 0x4000) value <;> rfl
      exact made
  · split
    all_goals exact (Cartridge.offerNone cart).symm

theorem writeRegisterOffers (addr : UInt16) (value : UInt8) :
    (video.writeRegister addr value).2.cart =
      video.cart.map (·.offerAll
        (if addr.toNat % 8 = 7 then offers video.ppu.scroll.v value else [])) := by
  split
  · rename_i data
    rw [video.writeRegisterData data]
    exact writeVramOffers _ video.ppu.scroll.v value
  · rename_i other
    rw [Cartridge.offerNone]
    unfold writeRegister
    simp only
    split
    case h_7 data => exact absurd data other
    all_goals rfl

end Video

namespace Bus
variable (bus : Bus)

theorem readCart (addr : UInt16) : (bus.read addr).2.video.cart = bus.video.cart :=
  bus.readKeepsView (·.video.cart) (fun _ => rfl) addr

theorem readPageCart (page : UInt8) : (bus.readPage page).2.video.cart = bus.video.cart :=
  bus.readPageKeepsView (·.video.cart) (fun _ => rfl) page

theorem writeOffers (addr : UInt16) (value : UInt8) :
    (bus.write addr value).video.cart =
      bus.video.cart.map (·.offerAll
        (if 0x2000 ≤ addr.toNat ∧ addr.toNat < 0x4000 ∧ addr.toNat % 8 = 7 then
          Video.offers bus.video.ppu.scroll.v value
        else [])) := by
  unfold write deliver
  simp only [UInt16.lt_iff_toNat_lt, UInt16.reduceToNat]
  split
  · rw [if_neg (by omega), Cartridge.offerNone]
  split
  · have sent := bus.video.writeRegisterOffers addr value
    have there : 0x2000 ≤ addr.toNat ∧ addr.toNat < 0x4000 ∧ addr.toNat % 8 = 7 ↔
        addr.toNat % 8 = 7 := by omega
    simp only [there]
    exact sent
  -- Beyond the registers nothing is offered: a copy to object memory only reads.
  have beyond : ¬(0x2000 ≤ addr.toNat ∧ addr.toNat < 0x4000 ∧ addr.toNat % 8 = 7) := by omega
  rw [if_neg beyond, Cartridge.offerNone]
  split
  · split
    · exact readPageCart { bus with openBus := value } value
    · rfl
    · rfl
  · rfl

theorem undergoOffers (event : BoardEvent) :
    (bus.undergo event).video.cart = bus.video.cart.map (·.offerAll (bus.offers event)) := by
  have silent := (Cartridge.offerNone bus.video.cart).symm
  cases event with
  | vramRead addr => exact silent
  | board access => cases access <;> first | exact silent | rfl
  | signal signal stays =>
    cases signal with
    | access access =>
      cases access with
      | read addr value => exact (bus.readCart addr).trans silent
      | write addr value => exact bus.writeOffers addr value
    | ppuWrite addr value => exact bus.video.writeVramOffers addr value
    | insert cart => exact absurd rfl (stays cart)
    | tick | takeFault | beginVblank | endVblank | render | hold | drain => exact silent

theorem undergoAllOffers (events : List BoardEvent) :
    (bus.undergoAll events).video.cart =
      bus.video.cart.map (·.offerAll (bus.allOffers events)) := by
  induction events generalizing bus with
  | nil => exact (Cartridge.offerNone bus.video.cart).symm
  | cons event rest ih =>
    rw [undergoAll, List.foldl_cons, ← undergoAll, ih, undergoOffers, Option.map_map, allOffers]
    congr 1
    funext cart
    exact List.foldl_append.symm

end Bus

end Nes
