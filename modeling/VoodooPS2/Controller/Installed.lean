import VoodooPS2.Controller.Converse

/-! # A driver on its device

A driver and the device it has been installed on, with the line between them.  `exchange` runs a program
of the driver on the line, `replug` puts another device there, or the same in another state.  Both leave
the line idle when the program does, and every byte of the other stream is handed to its driver.

A byte of the device that the program does not want comes to the driver as an interrupt, for which `take`
stands.

While the controller is asleep no request is processed: `Powered` is a driver on its device with that state of
the controller.  `Attention` is what has been asked of a driver, from its start on. -/

namespace VoodooPS2.Controller

open Dialogue

/-- A driver on its device, with the bytes that were handed to the drivers of both streams. -/
structure Installed (σ S : Type) where
  driver : S
  line : Line σ
  dispatched : List TaggedByte

namespace Installed

variable {σ S : Type}

/-- A driver that has exchanged nothing with its device. -/
def created (s : S) (d : σ) : Installed σ S := ⟨s, .idle d 0, []⟩

section

variable (t : PS2DeviceType) (D : Device σ UInt8) (traffic : ℕ → List Poll) (take : S → UInt8 → S)

def exchange (x : Installed σ S) (p : Prog S) : Installed σ S :=
  let r := live t D traffic p x.line
  ⟨(onStream t r.dispatched).foldl take r.value, r.line, x.dispatched ++ r.dispatched⟩

def replug (x : Installed σ S) (d : σ) : Installed σ S := { x with line := .idle d x.line.sent }

/-- Nothing is under way, the bytes of the other stream have been handed on, once and in order, and these
of the device. -/
structure Handed (strays : List UInt8) (x : Installed σ S) : Prop where
  idle : x.line = .idle x.line.device x.line.sent
  own : onStream t x.dispatched = strays
  other : onStream t.other x.dispatched = onStream t.other (passed traffic 0 x.line.sent)

end

variable {t : PS2DeviceType} {D : Device σ UInt8} {traffic : ℕ → List Poll} {take : S → UInt8 → S}
  {x : Installed σ S} {strays : List UInt8}

theorem handed_created (s : S) (d : σ) : Handed t traffic [] (created s d) := ⟨rfl, rfl, rfl⟩

theorem Handed.replug (hx : Handed t traffic strays x) (d : σ) : Handed t traffic strays (x.replug d) :=
  ⟨rfl, hx.own, hx.other⟩

theorem Handed.update (hx : Handed t traffic strays x) (s : S) :
    Handed t traffic strays { x with driver := s } := ⟨hx.idle, hx.own, hx.other⟩

variable (take) in
/-- A program that ends with nothing under way. -/
theorem exchange_spec (ht : Harmless t traffic) (hx : Handed t traffic strays x) {p : Prog S}
    (hp : p.OnStream t) {s : S} {d : σ} {bs : List UInt8}
    (hc : converse t D p (.idle x.line.device) = ⟨s, .idle d, bs⟩) :
    let y := exchange t D traffic take x p
    y.driver = bs.foldl take s ∧ y.line.device = d ∧ Handed t traffic (strays ++ bs) y := by
  intro y
  obtain ⟨hvalue, hline, hle, hown, hother⟩ := live_idle D ht hp hc x.line.sent
  rw [← hx.idle] at hvalue hline hle hown hother
  let r := live t D traffic p x.line
  change r.value = s at hvalue
  change r.line = _ at hline
  change onStream t r.dispatched = bs at hown
  change onStream t.other r.dispatched = onStream t.other (passed traffic x.line.sent (r.line.sent - _))
    at hother
  have hdevice : r.line.device = d := congrArg Line.device hline
  have hpassed := passed_append traffic 0 x.line.sent (r.line.sent - x.line.sent)
  rw [Nat.zero_add, Nat.add_sub_cancel' hle] at hpassed
  refine ⟨?_, hdevice, ?_, ?_, ?_⟩
  · change (onStream t r.dispatched).foldl take r.value = _
    rw [hvalue, hown]
  · change r.line = .idle r.line.device r.line.sent
    rw [hdevice]
    exact hline
  · change onStream t (x.dispatched ++ r.dispatched) = _
    rw [onStream_append, hx.own, hown]
  · change onStream t.other (x.dispatched ++ r.dispatched) = _
    rw [onStream_append, hx.other, hother, ← onStream_append, hpassed]
    rfl

variable (t D traffic take) in
/-- A program that does nothing tells the driver something, but not the device. -/
theorem exchange_idle (x : Installed σ S) {p : Prog S} {s : S} (hp : p.Idles s) :
    exchange t D traffic take x p = { x with driver := s } := by
  rw [exchange, hp.live]
  change Installed.mk s x.line (x.dispatched ++ []) = _
  rw [List.append_nil]

end Installed

/-! ### The power state of the controller -/

/-- A driver on its device, with the state of the controller. -/
structure Powered (σ S : Type) extends Installed σ S where
  hardwareOffline : Bool

namespace Powered

variable {σ S : Type}

/-- A driver that has exchanged nothing with its device, while the controller works. -/
def created (s : S) (d : σ) : Powered σ S := ⟨.created s d, false⟩

section

variable (t : PS2DeviceType) (D : Device σ UInt8) (traffic : ℕ → List Poll) (take : S → UInt8 → S)

/-- A program, which goes by whether requests are processed. -/
def exchange (x : Powered σ S) (p : Bool → Prog S) : Powered σ S :=
  { x with toInstalled := x.toInstalled.exchange t D traffic take (p x.hardwareOffline) }

def replug (x : Powered σ S) (d : σ) : Powered σ S := { x with toInstalled := x.toInstalled.replug d }

end

variable {t : PS2DeviceType} {D : Device σ UInt8} {traffic : ℕ → List Poll} {take : S → UInt8 → S}
  {x : Powered σ S}

/-- While the controller is asleep the device is told nothing. -/
theorem exchange_idle {p : Bool → Prog S} {s : S} (hp : (p x.hardwareOffline).Idles s) :
    x.exchange t D traffic take p = { x with driver := s } := by
  rw [exchange, Installed.exchange_idle t D traffic take x.toInstalled hp]

end Powered

/-! ### What is asked of a driver -/

/-- What has happened to a driver: it has been started, the controller is asleep, and its device has been cut
off since the last start or wake. -/
structure Attention where
  started : Bool
  asleep : Bool
  cutOff : Bool
deriving DecidableEq, Repr

namespace Attention

def initial : Attention := ⟨false, false, false⟩

variable (a : Attention)

def start : Attention := { a with started := true, cutOff := false }

def stop : Attention := { a with started := false }

def sleep : Attention := { a with asleep := true }

/-- A wake is none if the controller is not asleep. -/
def wake : Attention := if a.asleep then { a with asleep := false, cutOff := false } else a

def losePower : Attention := { a with cutOff := true }

/-- The driver is expected to have its device in order. -/
def attended : Bool := a.started && !a.asleep && !a.cutOff

theorem attended_iff : a.attended = true ↔ a.started = true ∧ a.asleep = false ∧ a.cutOff = false := by
  simp [attended, and_assoc]

theorem attended_of_asleep (h : a.asleep = true) : a.attended = false := by simp [attended, h]

theorem attended_of_not_started (h : a.started = false) : a.attended = false := by simp [attended, h]

@[simp] theorem attended_stop : a.stop.attended = false := by simp [attended, stop]

@[simp] theorem attended_sleep : a.sleep.attended = false := by simp [attended, sleep]

@[simp] theorem attended_losePower : a.losePower.attended = false := by simp [attended, losePower]

end Attention

end VoodooPS2.Controller
