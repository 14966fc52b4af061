import Apq8084.Lib.Machine
import Mathlib.Data.List.Chain

/-! The wake lock that the legacy GPS and batching HALs share, as the clients of `gnss/Gnss.cpp`
see it. -/
namespace Apq8084.Gnss

/-- `gnssAcquireWakelockCb` and `gnssReleaseWakelockCb`. -/
inductive WakelockCb where
  | acquire
  | release
deriving DecidableEq

/-- Which HAL calls: `gps.h`, or `fused_location.h` by way of `GnssBatching`. -/
inductive Holder where
  | gnss
  | fused
deriving DecidableEq

/-- A registered client and what it was told since its registration. -/
structure Client where
  received : List WakelockCb
  /-- Whether an acquire or release was processed since the registration. -/
  updated : Bool
deriving DecidableEq

structure State where
  sWakelockHeldGnss : Bool
  sWakelockHeldFused : Bool
  /-- The static variable of `updateWakelock`. -/
  sWakelockHeld : Bool
  sGnssCbIface : Option Client
deriving DecidableEq

def initial : State :=
  { sWakelockHeldGnss := false, sWakelockHeldFused := false, sWakelockHeld := false
    sGnssCbIface := none }

def State.held (s : State) : Bool := s.sWakelockHeldGnss || s.sWakelockHeldFused

def Client.send (c : Client) (cb : WakelockCb) : Client :=
  { c with received := c.received ++ [cb] }

/-- The client is told of an acquisition only if the last request was not one. -/
def updateWakelock (s : State) : State :=
  match s.sGnssCbIface with
  | none => s
  | some client =>
    let client := { client with updated := true }
    if s.held then
      if s.sWakelockHeld then { s with sGnssCbIface := some client }
      else { s with sWakelockHeld := true, sGnssCbIface := some (client.send .acquire) }
    else { s with sWakelockHeld := false, sGnssCbIface := some (client.send .release) }

def acquireWakelockGnss (s : State) : State :=
  updateWakelock { s with sWakelockHeldGnss := true }

def releaseWakelockGnss (s : State) : State :=
  updateWakelock { s with sWakelockHeldGnss := false }

def acquireWakelockFused (s : State) : State :=
  updateWakelock { s with sWakelockHeldFused := true }

def releaseWakelockFused (s : State) : State :=
  updateWakelock { s with sWakelockHeldFused := false }

/-- `Gnss::acquireWakelockCb` and its three siblings, two of them in `GnssBatching`. -/
def wakelockCb (s : State) : Holder → WakelockCb → State
  | .gnss, .acquire => acquireWakelockGnss s
  | .gnss, .release => releaseWakelockGnss s
  | .fused, .acquire => acquireWakelockFused s
  | .fused, .release => releaseWakelockFused s

/-- `mGnssIface` with the value its `init` returns, and whether `callback` is not `nullptr`. What
is sent to the new client here is not about the wake lock. -/
def setCallback (s : State) (mGnssIface : Option Int) (callback : Bool) : Bool × State :=
  match mGnssIface with
  | none => (false, s)
  | some init =>
    if callback then
      (init == 0, { s with sGnssCbIface := some { received := [], updated := false } })
    else (false, s)

def handleHidlDeath (s : State) : State := { s with sGnssCbIface := none }

inductive Action where
  | wakelockCb (holder : Holder) (cb : WakelockCb)
  | setCallback (mGnssIface : Option Int) (callback : Bool)
  | handleHidlDeath

def step (s : State) : Action → Option State
  | .wakelockCb holder cb => some (wakelockCb s holder cb)
  | .setCallback mGnssIface callback => some (setCallback s mGnssIface callback).2
  | .handleHidlDeath => some (handleHidlDeath s)

/-- The flag of the calling HAL as its callback leaves it. -/
def State.note (s : State) : Holder → WakelockCb → State
  | .gnss, cb => { s with sWakelockHeldGnss := cb == .acquire }
  | .fused, cb => { s with sWakelockHeldFused := cb == .acquire }

/-- What a client may expect once an acquire or release was processed since its registration. -/
def Client.Informed (c : Client) (held : Bool) : Prop :=
  (c.updated = true → (c.received.getLast? = some .acquire ↔ held = true)) ∧
  c.received.IsChain fun a b => ¬(a = .acquire ∧ b = .acquire)

def ClientInformed (s : State) : Prop :=
  ∀ c, s.sGnssCbIface = some c → c.Informed s.held

/-- An update that leaves a holder while the last request was an acquisition finds a client that
has been told something, hence of that acquisition. -/
def Told (s : State) : Action → Prop
  | .wakelockCb holder cb =>
    ∀ c, s.sGnssCbIface = some c → (s.note holder cb).held = true → s.sWakelockHeld = true →
      c.received ≠ []
  | _ => True

/-- Whoever was told something was told of the last request. -/
structure Inv (s : State) : Prop where
  informed : ClientInformed s
  last : ∀ c, s.sGnssCbIface = some c → ∀ cb, c.received.getLast? = some cb →
    (cb = .acquire ↔ s.sWakelockHeld = true)

variable {s t : State} {a : Action} {as : List Action} {c : Client} {holder : Holder}
  {cb : WakelockCb}

theorem wakelockCb_eq : wakelockCb s holder cb = updateWakelock (s.note holder cb) := by
  cases holder <;> cases cb <;> rfl

@[simp] theorem note_iface : (s.note holder cb).sGnssCbIface = s.sGnssCbIface := by
  cases holder <;> rfl

@[simp] theorem note_sWakelockHeld : (s.note holder cb).sWakelockHeld = s.sWakelockHeld := by
  cases holder <;> rfl

theorem updateWakelock_none (h : s.sGnssCbIface = none) : updateWakelock s = s := by
  unfold updateWakelock
  rw [h]

theorem updateWakelock_some (h : s.sGnssCbIface = some c) :
    updateWakelock s =
      if s.held = true ∧ s.sWakelockHeld = true then
        { s with sGnssCbIface := some { c with updated := true } }
      else
        { s with
          sWakelockHeld := s.held
          sGnssCbIface := some { c with
            received := c.received ++ [if s.held then .acquire else .release]
            updated := true } } := by
  unfold updateWakelock
  rw [h]
  cases hheld : s.held <;> cases hlast : s.sWakelockHeld <;> simp [Client.send]

theorem inv_initial : Inv initial := by
  constructor
  · intro c h
    cases h
  · intro c h
    cases h

theorem inv_updateWakelock_none (h : s.sGnssCbIface = none) : Inv s := by
  constructor
  · intro c hc
    rw [h] at hc
    cases hc
  · intro c hc
    rw [h] at hc
    cases hc

/-- Whatever the flags say now, the update tells the truth to a client that was told of the last
request, if any request was made. -/
theorem inv_updateWakelock (hiface : s.sGnssCbIface = some c)
    (hchain : c.received.IsChain fun a b => ¬(a = .acquire ∧ b = .acquire))
    (hlast : ∀ cb, c.received.getLast? = some cb → (cb = .acquire ↔ s.sWakelockHeld = true))
    (htold : s.held = true → s.sWakelockHeld = true → c.received ≠ []) :
    Inv (updateWakelock s) := by
  rw [updateWakelock_some hiface]
  split
  case isTrue hkept =>
    obtain ⟨hheld, hsheld⟩ := hkept
    obtain ⟨cb, hcb⟩ := Option.isSome_iff_exists.mp
      (List.getLast?_isSome.mpr (htold hheld hsheld))
    have hacquire : cb = .acquire := (hlast cb hcb).mpr hsheld
    constructor
    · intro d hd
      cases hd
      refine ⟨fun _ => ?_, hchain⟩
      rw [hcb, hacquire]
      exact iff_of_true rfl hheld
    · intro d hd cb hcb
      cases hd
      exact hlast cb hcb
  case isFalse hsent =>
    have hnew : ∀ cb, some (if s.held then WakelockCb.acquire else .release) = some cb →
        (cb = .acquire ↔ s.held = true) := by
      intro cb hcb
      cases hcb
      cases s.held <;> simp
    constructor
    · intro d hd
      cases hd
      refine ⟨fun _ => ?_, ?_⟩
      · simp only [List.getLast?_concat]
        show _ ↔ s.held = true
        cases s.held <;> simp
      · apply hchain.append (List.isChain_singleton _)
        rintro x hx y hy ⟨rfl, rfl⟩
        have hheld : s.held = true := by
          by_contra hheld
          simp [hheld] at hy
        exact hsent ⟨hheld, (hlast _ hx).mp rfl⟩
    · intro d hd cb hcb
      cases hd
      simp only [List.getLast?_concat] at hcb
      exact hnew cb hcb

/-- An acquisition that a client new to a held lock does not get to know of. -/
theorem not_informed_updateWakelock (hiface : s.sGnssCbIface = some c) (hheld : s.held = true)
    (hsheld : s.sWakelockHeld = true) (hnone : c.received = []) :
    ¬ClientInformed (updateWakelock s) := by
  rw [updateWakelock_some hiface, if_pos ⟨hheld, hsheld⟩]
  intro h
  have := ((h _ rfl).1 rfl).mpr hheld
  simp [hnone] at this

theorem inv_step (hs : Inv s) (hok : Told s a) (h : step s a = some t) : Inv t := by
  cases a with
  | wakelockCb holder cb =>
    cases h
    rw [wakelockCb_eq]
    cases hiface : s.sGnssCbIface with
    | none =>
      rw [updateWakelock_none (note_iface.trans hiface)]
      exact inv_updateWakelock_none (note_iface.trans hiface)
    | some c =>
      apply inv_updateWakelock (note_iface.trans hiface) (hs.informed c hiface).2
      · intro cb hcb
        rw [note_sWakelockHeld]
        exact hs.last c hiface cb hcb
      · intro hheld hsheld
        rw [note_sWakelockHeld] at hsheld
        exact hok c hiface hheld hsheld
  | setCallback mGnssIface callback =>
    cases h
    cases mGnssIface with
    | none => exact hs
    | some init =>
      cases callback with
      | false => exact hs
      | true =>
        constructor
        · intro c hc
          cases hc
          exact ⟨fun h => absurd h (by decide), List.isChain_nil⟩
        · intro c hc cb hcb
          cases hc
          cases hcb
  | handleHidlDeath =>
    cases h
    exact inv_updateWakelock_none rfl

theorem not_informed_step (hok : ¬Told s a) (h : step s a = some t) : ¬ClientInformed t := by
  cases a with
  | wakelockCb holder cb =>
    cases h
    rw [wakelockCb_eq]
    simp only [Told, not_forall, not_not] at hok
    obtain ⟨c, hiface, hheld, hsheld, hnone⟩ := hok
    apply not_informed_updateWakelock (note_iface.trans hiface) hheld _ hnone
    rwa [note_sWakelockHeld]
  | setCallback mGnssIface callback => exact absurd trivial hok
  | handleHidlDeath => exact absurd trivial hok

/-- A client always knows of the holders, and of no acquisition twice, if and only if no update
passes over a client that registered while the last request was an acquisition. -/
theorem client_informed_iff (h : Machine.run step initial as = some t) :
    Machine.Along step Told initial as ↔
      ∀ bs u, bs <+: as → Machine.run step initial bs = some u → ClientInformed u := by
  apply Machine.along_iff_forall_prefix (P := Inv) _ _ _ h inv_initial
  · intro s a t hs hok ht
    exact inv_step hs hok ht
  · intro s hs
    exact hs.informed
  · intro s a t _ hok ht
    exact not_informed_step hok ht

/-- Both HALs acquire and release with one client, and one of them with the next. -/
def twoClients : List Action :=
  [.setCallback (some 0) true, .wakelockCb .gnss .acquire, .wakelockCb .fused .acquire,
    .wakelockCb .gnss .release, .wakelockCb .fused .release, .handleHidlDeath,
    .setCallback (some 0) true, .wakelockCb .fused .acquire]

theorem client_informed_iff_two_clients :
    ∃ t, Machine.run step initial twoClients = some t ∧ ClientInformed t := by
  refine ⟨_, rfl, ?_⟩
  apply (client_informed_iff rfl).mp _ twoClients _ List.prefix_rfl rfl
  simp [Machine.Along, Told, step, initial, wakelockCb_eq, updateWakelock, setCallback,
    handleHidlDeath, State.note, State.held, Client.send, twoClients]

/-- The client that registers after the death of one that held the lock is not told of it. -/
theorem client_not_informed_after_death :
    ¬∀ as t, Machine.run step initial as = some t → ClientInformed t := by
  intro h
  have := h [.setCallback (some 0) true, .wakelockCb .gnss .acquire, .handleHidlDeath,
    .setCallback (some 0) true, .wakelockCb .gnss .acquire] _ rfl _ rfl
  have := (this.1 rfl).mpr rfl
  cases this

end Apq8084.Gnss
