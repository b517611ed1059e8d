import Nes.Bus
import Nes.Trace

/-! Signals: what can happen to the devices of the bus. Playing a list of signals is a history of
the bus. -/
namespace Nes

inductive Signal where
  | access (access : Access)
  | tick (cycles : Nat)
  | takeFault
  | beginVblank
  | endVblank
  | render
  | insert (cart : Cartridge)
  | ppuWrite (addr : UInt16) (value : UInt8)
  | hold (buttons : UInt8)
  | drain
  deriving DecidableEq, Repr

def Signal.cycles : Signal → Nat
  | tick cycles => cycles
  | _ => 0

def ticked : List Signal → Nat
  | [] => 0
  | signal :: rest => signal.cycles + ticked rest

def Access.perform {σ : Type} [Device σ] (s : σ) : Access → σ
  | read addr _ => (Device.read addr s).2
  | write addr value => Device.write addr value s

namespace Bus

def receive (bus : Bus) : Signal → Bus
  | .access access => access.perform bus
  | .tick cycles => bus.tick cycles
  | .takeFault => bus.takeFault.2
  | .beginVblank => { bus with video := bus.video.update Ppu.beginVblank }
  | .endVblank => { bus with video := bus.video.update Ppu.endVblank }
  | .render => { bus with video := bus.video.update Ppu.render }
  | .insert cart => bus.powerOn cart
  | .ppuWrite addr value => bus.ppuWrite addr value
  | .hold buttons => { bus with controller := bus.controller.hold buttons }
  | .drain => { bus with apu := bus.apu.drain.2 }

def play (bus : Bus) (signals : List Signal) : Bus :=
  signals.foldl receive bus

theorem playCons (bus : Bus) (signal : Signal) (rest : List Signal) :
    bus.play (signal :: rest) = (bus.receive signal).play rest :=
  rfl

theorem playAppend (bus : Bus) (xs ys : List Signal) :
    bus.play (xs ++ ys) = (bus.play xs).play ys :=
  List.foldl_append

theorem playAccesses (bus : Bus) (accesses : List Access) :
    bus.play (accesses.map .access) = accesses.foldl Access.perform bus :=
  List.foldl_map

theorem readPageKeeps {holds : Bus → Prop} (kept : ∀ bus addr, holds bus → holds (bus.read addr).2)
    {bus : Bus} (now : holds bus) (page : UInt8) : holds (bus.readPage page).2 := by
  have readAll (addrs : List UInt16) :
      ∀ (bus : Bus) (bytes : List UInt8), holds bus → holds (bus.readInto bytes addrs).2 := by
    induction addrs with
    | nil => exact fun _ _ now => now
    | cons addr rest ih => exact fun bus bytes now => ih _ _ (kept bus addr now)
  unfold readPage
  split
  · exact now
  · generalize pageAddresses page = addrs
    exact readAll addrs bus [] now

end Bus

theorem tickedAppend (xs ys : List Signal) : ticked (xs ++ ys) = ticked xs + ticked ys := by
  induction xs with
  | nil => exact (Nat.zero_add _).symm
  | cons signal rest ih => rw [List.cons_append, ticked, ih, ticked, Nat.add_assoc]

theorem tickedAccesses (accesses : List Access) : ticked (accesses.map .access) = 0 := by
  induction accesses with
  | nil => rfl
  | cons access rest ih => simpa [ticked, Signal.cycles] using ih

theorem Transaction.replay {α σ : Type} [Device σ] (t : Transaction α) (s : σ) :
    (t.trace s).foldl Access.perform s = (t.run s).device := by
  induction t generalizing s with
  | done result => rfl
  | idle next ih => exact ih s
  | read addr next ih => exact ih (Device.read addr s).1 (Device.read addr s).2
  | write addr value next ih => exact ih (Device.write addr value s)

end Nes
