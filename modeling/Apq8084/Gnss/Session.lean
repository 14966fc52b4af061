import Apq8084.Lib.Machine

/-! The session of a client of `gnss/Gnss.cpp`: what it is told, what the legacy HALs are started
for, and what is left of both when it dies. -/
namespace Apq8084.Gnss.Session

/-- The parts of the legacy HALs that run until they are stopped. -/
inductive Engine where
  | gps
  | measurement
  | navigationMessage
  | batching
deriving DecidableEq

/-- Calls of the legacy HALs; `init` of the measurement and the navigation message interface starts
their updates. -/
inductive HalCall where
  | init
  | start
  | stop
  | cleanup
  | measurementInit
  | measurementClose
  | navigationMessageInit
  | navigationMessageClose
  | flpInit
  | start_batching
  | stop_batching
  | flpCleanup
deriving DecidableEq

/-- Callbacks that only pass on what the HAL reports. -/
inductive Report where
  | location
  | status
  | svStatus
  | nmea
  | requestTime
deriving DecidableEq

inductive Callback where
  | capabilities (capabilities : UInt32)
  | systemInfo (yearOfHw : UInt16)
  | report (r : Report)
deriving DecidableEq

/-- A registered client, and what it was told since its registration. -/
structure Client where
  id : Nat
  received : List Callback

structure State where
  mGnssIface : Bool
  sGnssCbIface : Option Client
  sCapabilitiesCached : UInt32
  sYearOfHwCached : UInt16
  mGnssMeasurement : Bool
  mGnssNavigationMessage : Bool
  mGnssBatching : Bool
  sFlpSupportsBatching : Bool
  /-- The clients that `mDeathRecipient` is linked to. -/
  links : List Nat
  /-- The clients whose death was noticed, but not yet handled. -/
  obituaries : List Nat
  /-- `handleHidlDeath` has called the HALs, and has not yet dropped the client. -/
  dying : Bool
  calls : List HalCall
  told : List (Nat × Callback)

def initial (mGnssIface : Bool) : State :=
  { mGnssIface, sGnssCbIface := none, sCapabilitiesCached := 0, sYearOfHwCached := 0
    mGnssMeasurement := false, mGnssNavigationMessage := false, mGnssBatching := false
    sFlpSupportsBatching := false, links := [], obituaries := [], dying := false
    calls := [], told := [] }

def State.call (s : State) (c : HalCall) : State := { s with calls := s.calls ++ [c] }

/-- Call the client back; what it returns does not matter. -/
def State.tell (s : State) (cb : Callback) : State :=
  match s.sGnssCbIface with
  | none => s
  | some client =>
    { s with
      sGnssCbIface := some { client with received := client.received ++ [cb] }
      told := s.told ++ [(client.id, cb)] }

/-! ### Callbacks of the legacy HALs -/

def setCapabilitiesCb (s : State) (capabilities : UInt32) : State :=
  if s.sGnssCbIface.isNone then s
  else { s.tell (.capabilities capabilities) with sCapabilitiesCached := capabilities }

/-- The year of `info`, if it is not null. -/
def setSystemInfoCb (s : State) (info : Option UInt16) : State :=
  if s.sGnssCbIface.isNone then s
  else
    match info with
    | none => s
    | some year_of_hw => { s.tell (.systemInfo year_of_hw) with sYearOfHwCached := year_of_hw }

/-- `locationCb`, `statusCb`, `gnssSvStatusCb`, `gpsSvStatusCb`, `nmeaCb` and `requestUtcTimeCb`;
`given` tells whether the pointer that the first four of them test is not null. -/
def reportCb (s : State) (r : Report) (given : Bool) : State :=
  if s.sGnssCbIface.isNone then s
  else if given then s.tell (.report r) else s

/-- Whether the bit `CAPABILITY_GNSS` is set. -/
def flpCapabilitiesCb (s : State) (gnss : Bool) : State :=
  if gnss then { s with sFlpSupportsBatching := true } else s

/-! ### Methods for the clients -/

/-- A method that only calls the HAL: whether it returned 0, if there is an interface. -/
def forward (s : State) (iface : Bool) (c : HalCall) (ret : Int) : Bool × State :=
  if iface then (ret == 0, s.call c) else (false, s)

def start (s : State) (ret : Int) : Bool × State := forward s s.mGnssIface .start ret

def stop (s : State) (ret : Int) : Bool × State := forward s s.mGnssIface .stop ret

def cleanup (s : State) : State := (forward s s.mGnssIface .cleanup 0).2

def unlinkToDeath (s : State) : State :=
  match s.sGnssCbIface with
  | none => s
  | some client => { s with links := s.links.erase client.id }

/-- Send what was received in the past. -/
def refresh (s : State) : State :=
  let s := if s.sCapabilitiesCached ≠ 0 then setCapabilitiesCb s s.sCapabilitiesCached else s
  if s.sYearOfHwCached ≠ 0 then setSystemInfoCb s (some s.sYearOfHwCached) else s

def setCallback (s : State) (callback : Option Nat) (ret : Int) : Bool × State :=
  if s.mGnssIface = false then (false, s)
  else
    match callback with
    | none => (false, s)
    | some id =>
      let s := unlinkToDeath s
      let s := { s with sGnssCbIface := some ⟨id, []⟩, links := s.links ++ [id] }
      (ret == 0, (refresh s).call .init)

/-- The three extensions that have something to stop. -/
inductive Extension where
  | measurement
  | navigationMessage
  | batching

/-- `getExtensionGnssMeasurement` and its siblings; `found` tells whether the HAL has the interface.
Batching has a HAL of its own. -/
def getExtension (s : State) (x : Extension) (found : Bool) : State :=
  if s.mGnssIface = false then s
  else
    match x with
    | .measurement => { s with mGnssMeasurement := s.mGnssMeasurement || found }
    | .navigationMessage => { s with mGnssNavigationMessage := s.mGnssNavigationMessage || found }
    | .batching => { s with mGnssBatching := s.mGnssBatching || found }

def State.extension (s : State) : Extension → Bool
  | .measurement => s.mGnssMeasurement
  | .navigationMessage => s.mGnssNavigationMessage
  | .batching => s.mGnssBatching

/-- `setCallback` of the first two, `init` of the third. -/
def setExtensionCallback (s : State) : Extension → State
  | .measurement => s.call .measurementInit
  | .navigationMessage => s.call .navigationMessageInit
  | .batching => s.call .flpInit

/-- `close` of the first two, `cleanup` of the third. -/
def closeExtension (s : State) : Extension → State
  | .measurement => s.call .measurementClose
  | .navigationMessage => s.call .navigationMessageClose
  | .batching => s.call .flpCleanup

def startBatching (s : State) (ret : Int) : Bool × State :=
  forward s s.sFlpSupportsBatching .start_batching ret

def stopBatching (s : State) (ret : Int) : Bool × State := forward s true .stop_batching ret

/-- `handleHidlDeath` up to the assignment of `sGnssCbIface`. -/
def stopAll (s : State) : State :=
  let s := (stop s 0).2
  let s := if s.mGnssMeasurement then closeExtension s .measurement else s
  let s := if s.mGnssNavigationMessage then closeExtension s .navigationMessage else s
  let s := if s.mGnssBatching then closeExtension (stopBatching s 0).2 .batching else s
  cleanup s

/-! ### Runs -/

inductive Action where
  | setCapabilitiesCb (capabilities : UInt32)
  | setSystemInfoCb (info : Option UInt16)
  | reportCb (r : Report) (given : Bool)
  | flpCapabilitiesCb (gnss : Bool)
  | setCallback (callback : Option Nat) (ret : Int)
  | start (ret : Int)
  | stop (ret : Int)
  | cleanup
  | getExtension (x : Extension) (found : Bool)
  | setExtensionCallback (x : Extension)
  | closeExtension (x : Extension)
  | startBatching (ret : Int)
  | stopBatching (ret : Int)
  /-- A client dies while the recipient is linked to it. -/
  | clientDies (id : Nat)
  /-- `serviceDied` calls `handleHidlDeath`. -/
  | serviceDied (id : Nat)
  /-- The last line of `handleHidlDeath`. -/
  | dropClient

/-- The methods of an extension are only called when there is one. -/
def step (s : State) : Action → Option State
  | .setCapabilitiesCb capabilities => some (setCapabilitiesCb s capabilities)
  | .setSystemInfoCb info => some (setSystemInfoCb s info)
  | .reportCb r given => some (reportCb s r given)
  | .flpCapabilitiesCb gnss => some (flpCapabilitiesCb s gnss)
  | .setCallback callback ret => some (setCallback s callback ret).2
  | .start ret => some (start s ret).2
  | .stop ret => some (stop s ret).2
  | .cleanup => some (cleanup s)
  | .getExtension x found => some (getExtension s x found)
  | .setExtensionCallback x => if s.extension x then some (setExtensionCallback s x) else none
  | .closeExtension x => if s.extension x then some (closeExtension s x) else none
  | .startBatching ret => if s.mGnssBatching then some (startBatching s ret).2 else none
  | .stopBatching ret => if s.mGnssBatching then some (stopBatching s ret).2 else none
  | .clientDies id =>
    if id ∈ s.links then
      some { s with links := s.links.erase id, obituaries := s.obituaries ++ [id] }
    else none
  | .serviceDied id =>
    if id ∈ s.obituaries ∧ s.dying = false then
      some { stopAll s with obituaries := s.obituaries.erase id, dying := true }
    else none
  | .dropClient =>
    if s.dying then some { s with sGnssCbIface := none, dying := false } else none

/-- What a call does to an engine. -/
def HalCall.sets : HalCall → Option (Engine × Bool)
  | .start => some (.gps, true)
  | .stop | .cleanup => some (.gps, false)
  | .measurementInit => some (.measurement, true)
  | .measurementClose => some (.measurement, false)
  | .navigationMessageInit => some (.navigationMessage, true)
  | .navigationMessageClose => some (.navigationMessage, false)
  | .start_batching => some (.batching, true)
  | .stop_batching | .flpCleanup => some (.batching, false)
  | .init | .flpInit => none

def HalCall.apply (e : Engine) (on : Bool) (c : HalCall) : Bool :=
  match c.sets with
  | some (e', b) => if e' = e then b else on
  | none => on

/-- Whether an engine runs behind these calls. -/
def running (e : Engine) (calls : List HalCall) : Bool := calls.foldl (HalCall.apply e) false

variable {s t u v w : State} {a : Action} {as bs cs : List Action} {e : Engine} {c : HalCall}
  {earlier later : List HalCall} {id : Nat} {cb : Callback}

/-! ### The calls of the HALs -/

def State.has (s : State) : Engine → Bool
  | .gps => s.mGnssIface
  | .measurement => s.mGnssMeasurement
  | .navigationMessage => s.mGnssNavigationMessage
  | .batching => s.mGnssBatching

def Extension.engine : Extension → Engine
  | .measurement => .measurement
  | .navigationMessage => .navigationMessage
  | .batching => .batching

def stopCalls (s : State) : List HalCall :=
  (if s.mGnssIface then [.stop] else []) ++
    (if s.mGnssMeasurement then [.measurementClose] else []) ++
    (if s.mGnssNavigationMessage then [.navigationMessageClose] else []) ++
    (if s.mGnssBatching then [.stop_batching, .flpCleanup] else []) ++
    (if s.mGnssIface then [.cleanup] else [])

/-- What an action calls. -/
def Action.calls (s : State) : Action → List HalCall
  | .setCallback (some _) _ => if s.mGnssIface then [.init] else []
  | .start _ => if s.mGnssIface then [.start] else []
  | .stop _ => if s.mGnssIface then [.stop] else []
  | .cleanup => if s.mGnssIface then [.cleanup] else []
  | .setExtensionCallback .measurement => [.measurementInit]
  | .setExtensionCallback .navigationMessage => [.navigationMessageInit]
  | .setExtensionCallback .batching => [.flpInit]
  | .closeExtension .measurement => [.measurementClose]
  | .closeExtension .navigationMessage => [.navigationMessageClose]
  | .closeExtension .batching => [.flpCleanup]
  | .startBatching _ => if s.sFlpSupportsBatching then [.start_batching] else []
  | .stopBatching _ => [.stop_batching]
  | .serviceDied _ => stopCalls s
  | _ => []

/-- Who is registered and linked. -/
def State.session (s : State) : List Nat × List Nat × Bool × Option Nat :=
  (s.links, s.obituaries, s.dying, s.sGnssCbIface.map Client.id)

/-- What callbacks leave as it is. -/
structure Tells (s t : State) : Prop where
  calls : t.calls = s.calls
  has : t.has = s.has
  session : t.session = s.session

theorem Tells.refl (s : State) : Tells s s := ⟨rfl, rfl, rfl⟩

theorem Tells.trans (hs : Tells s t) (ht : Tells t u) : Tells s u :=
  ⟨ht.calls.trans hs.calls, ht.has.trans hs.has, ht.session.trans hs.session⟩

theorem tells_tell (s : State) (cb : Callback) : Tells s (s.tell cb) := by
  unfold State.tell
  split
  · exact .refl s
  · rename_i client hclient
    exact ⟨rfl, rfl, by simp [State.session, hclient]⟩

theorem tells_setCapabilitiesCb (s : State) (capabilities : UInt32) :
    Tells s (setCapabilitiesCb s capabilities) := by
  unfold setCapabilitiesCb
  split
  · exact .refl s
  · exact ⟨(tells_tell s _).calls, (tells_tell s _).has, (tells_tell s _).session⟩

theorem tells_setSystemInfoCb (s : State) (info : Option UInt16) :
    Tells s (setSystemInfoCb s info) := by
  unfold setSystemInfoCb
  split
  · exact .refl s
  · cases info with
    | none => exact .refl s
    | some year => exact ⟨(tells_tell s _).calls, (tells_tell s _).has, (tells_tell s _).session⟩

theorem tells_reportCb (s : State) (r : Report) (given : Bool) :
    Tells s (reportCb s r given) := by
  unfold reportCb
  split
  · exact .refl s
  · split
    · exact tells_tell s _
    · exact .refl s

theorem tells_refresh (s : State) : Tells s (refresh s) := by
  unfold refresh
  dsimp only
  split
  · split
    · exact (tells_setCapabilitiesCb s _).trans (tells_setSystemInfoCb _ _)
    · exact tells_setCapabilitiesCb s _
  · split
    · exact tells_setSystemInfoCb s _
    · exact .refl s

theorem unlinkToDeath_calls : (unlinkToDeath s).calls = s.calls := by
  unfold unlinkToDeath
  split <;> rfl

theorem unlinkToDeath_has : (unlinkToDeath s).has = s.has := by
  unfold unlinkToDeath
  split <;> rfl

theorem forward_calls {iface : Bool} {ret : Int} :
    (forward s iface c ret).2.calls = s.calls ++ if iface then [c] else [] := by
  unfold forward
  cases iface with
  | true => rfl
  | false => exact (List.append_nil _).symm

theorem forward_has {iface : Bool} {ret : Int} : (forward s iface c ret).2.has = s.has := by
  unfold forward
  split <;> rfl

theorem stopAll_calls : (stopAll s).calls = s.calls ++ stopCalls s := by
  obtain ⟨mGnssIface, _, _, _, mGnssMeasurement, mGnssNavigationMessage, mGnssBatching⟩ := s
  cases mGnssIface <;> cases mGnssMeasurement <;> cases mGnssNavigationMessage <;>
    cases mGnssBatching <;>
    simp [stopAll, stopCalls, stop, cleanup, forward, closeExtension, stopBatching, State.call]

theorem stopAll_has : (stopAll s).has = s.has := by
  obtain ⟨mGnssIface, _, _, _, mGnssMeasurement, mGnssNavigationMessage, mGnssBatching⟩ := s
  cases mGnssIface <;> cases mGnssMeasurement <;> cases mGnssNavigationMessage <;>
    cases mGnssBatching <;> rfl

theorem setCallback_calls {callback : Option Nat} {ret : Int} :
    (setCallback s callback ret).2.calls =
      s.calls ++ Action.calls s (.setCallback callback ret) := by
  unfold setCallback Action.calls
  cases hiface : s.mGnssIface with
  | false => cases callback <;> exact (List.append_nil _).symm
  | true =>
    cases callback with
    | none => exact (List.append_nil _).symm
    | some id =>
      simp only [Bool.true_eq_false, if_false, if_true, State.call, (tells_refresh _).calls,
        unlinkToDeath_calls]

theorem setCallback_has {callback : Option Nat} {ret : Int} :
    (setCallback s callback ret).2.has = s.has := by
  unfold setCallback
  split
  · rfl
  · cases callback with
    | none => rfl
    | some id => exact (tells_refresh _).has.trans unlinkToDeath_has

theorem step_calls (h : step s a = some t) : t.calls = s.calls ++ a.calls s := by
  cases a with
  | setCapabilitiesCb capabilities =>
    cases h
    exact (tells_setCapabilitiesCb s capabilities).calls.trans (List.append_nil _).symm
  | setSystemInfoCb info =>
    cases h
    exact (tells_setSystemInfoCb s info).calls.trans (List.append_nil _).symm
  | reportCb r given =>
    cases h
    exact (tells_reportCb s r given).calls.trans (List.append_nil _).symm
  | flpCapabilitiesCb gnss =>
    cases h
    cases gnss <;> exact (List.append_nil _).symm
  | setCallback callback ret =>
    cases h
    exact setCallback_calls
  | start ret =>
    cases h
    exact forward_calls
  | stop ret =>
    cases h
    exact forward_calls
  | cleanup =>
    cases h
    exact forward_calls
  | getExtension x found =>
    cases h
    unfold getExtension
    split
    · exact (List.append_nil _).symm
    · cases x <;> exact (List.append_nil _).symm
  | setExtensionCallback x =>
    obtain ⟨-, ⟨⟩⟩ := Option.ite_none_right_eq_some.mp h
    cases x <;> rfl
  | closeExtension x =>
    obtain ⟨-, ⟨⟩⟩ := Option.ite_none_right_eq_some.mp h
    cases x <;> rfl
  | startBatching ret =>
    obtain ⟨-, ⟨⟩⟩ := Option.ite_none_right_eq_some.mp h
    exact forward_calls
  | stopBatching ret =>
    obtain ⟨-, ⟨⟩⟩ := Option.ite_none_right_eq_some.mp h
    rfl
  | clientDies id =>
    obtain ⟨-, ⟨⟩⟩ := Option.ite_none_right_eq_some.mp h
    exact (List.append_nil _).symm
  | serviceDied id =>
    obtain ⟨-, ⟨⟩⟩ := Option.ite_none_right_eq_some.mp h
    exact stopAll_calls
  | dropClient =>
    obtain ⟨-, ⟨⟩⟩ := Option.ite_none_right_eq_some.mp h
    exact (List.append_nil _).symm

theorem step_has (h : step s a = some t) (he : s.has e = true) : t.has e = true := by
  cases a with
  | setCapabilitiesCb capabilities =>
    cases h
    rwa [(tells_setCapabilitiesCb s capabilities).has]
  | setSystemInfoCb info =>
    cases h
    rwa [(tells_setSystemInfoCb s info).has]
  | reportCb r given =>
    cases h
    rwa [(tells_reportCb s r given).has]
  | flpCapabilitiesCb gnss =>
    cases h
    cases gnss <;> exact he
  | setCallback callback ret =>
    cases h
    rwa [setCallback_has]
  | start ret =>
    cases h
    exact (congrFun forward_has e).trans he
  | stop ret =>
    cases h
    exact (congrFun forward_has e).trans he
  | cleanup =>
    cases h
    exact (congrFun forward_has e).trans he
  | getExtension x found =>
    cases h
    unfold getExtension
    split
    · exact he
    · cases x <;> cases e <;> simp_all [State.has]
  | setExtensionCallback x =>
    obtain ⟨-, ⟨⟩⟩ := Option.ite_none_right_eq_some.mp h
    cases x <;> exact he
  | closeExtension x =>
    obtain ⟨-, ⟨⟩⟩ := Option.ite_none_right_eq_some.mp h
    cases x <;> exact he
  | startBatching ret =>
    obtain ⟨-, ⟨⟩⟩ := Option.ite_none_right_eq_some.mp h
    exact (congrFun forward_has e).trans he
  | stopBatching ret =>
    obtain ⟨-, ⟨⟩⟩ := Option.ite_none_right_eq_some.mp h
    exact he
  | clientDies id =>
    obtain ⟨-, ⟨⟩⟩ := Option.ite_none_right_eq_some.mp h
    exact he
  | serviceDied id =>
    obtain ⟨-, ⟨⟩⟩ := Option.ite_none_right_eq_some.mp h
    exact (congrFun stopAll_has e).trans he
  | dropClient =>
    obtain ⟨-, ⟨⟩⟩ := Option.ite_none_right_eq_some.mp h
    exact he

/-! ### Engines -/

/-- Actions that may set an engine going. -/
def Action.starts : Action → Bool
  | .start _ | .setExtensionCallback _ | .startBatching _ => true
  | _ => false

theorem running_append : running e (earlier ++ later) =
    later.foldl (HalCall.apply e) (running e earlier) := List.foldl_append

/-- An engine that runs ran before or was started. -/
theorem foldl_apply {on : Bool} (h : later.foldl (HalCall.apply e) on = true) :
    on = true ∨ ∃ c ∈ later, c.sets = some (e, true) := by
  induction later generalizing on with
  | nil => exact .inl h
  | cons c later ih =>
    rcases ih h with hc | ⟨d, hd, hsets⟩
    · unfold HalCall.apply at hc
      split at hc
      · rename_i e' b hsets
        split at hc
        · rename_i he
          subst he
          subst hc
          exact .inr ⟨c, List.mem_cons_self, hsets⟩
        · exact .inl hc
      · exact .inl hc
    · exact .inr ⟨d, List.mem_cons_of_mem c hd, hsets⟩

theorem mem_ite {b : Bool} (hc : c ∈ if b then later else []) : b = true ∧ c ∈ later := by
  cases b with
  | true => exact ⟨rfl, hc⟩
  | false => cases hc

theorem stopCalls_sets (hc : c ∈ stopCalls s) : c.sets ≠ some (e, true) := by
  unfold stopCalls at hc
  simp only [List.mem_append] at hc
  rintro hsets
  rcases hc with (((hc | hc) | hc) | hc) | hc <;> have hc := (mem_ite hc).2 <;>
    simp only [List.mem_cons, List.not_mem_nil, or_false] at hc
  · subst hc
    cases hsets
  · subst hc
    cases hsets
  · subst hc
    cases hsets
  · rcases hc with rfl | rfl <;> cases hsets
  · subst hc
    cases hsets

/-- Only what is there is started, and only by the methods that start it. -/
theorem calls_start (h : step s a = some t) (hc : c ∈ a.calls s)
    (hsets : c.sets = some (e, true)) : a.starts = true ∧ s.has e = true := by
  cases a with
  | start ret =>
    obtain ⟨hiface, hc⟩ := mem_ite hc
    obtain rfl := List.mem_singleton.mp hc
    cases hsets
    exact ⟨rfl, hiface⟩
  | setExtensionCallback x =>
    obtain ⟨hx, -⟩ := Option.ite_none_right_eq_some.mp h
    refine ⟨rfl, ?_⟩
    cases x with
    | measurement =>
      obtain rfl := List.mem_singleton.mp hc
      cases hsets
      exact hx
    | navigationMessage =>
      obtain rfl := List.mem_singleton.mp hc
      cases hsets
      exact hx
    | batching =>
      obtain rfl := List.mem_singleton.mp hc
      cases hsets
  | startBatching ret =>
    obtain ⟨hbatching, -⟩ := Option.ite_none_right_eq_some.mp h
    obtain ⟨-, hc⟩ := mem_ite hc
    obtain rfl := List.mem_singleton.mp hc
    cases hsets
    exact ⟨rfl, hbatching⟩
  | setCallback callback ret =>
    cases callback with
    | none => cases hc
    | some id =>
      obtain rfl := List.mem_singleton.mp (mem_ite hc).2
      cases hsets
  | stop ret =>
    obtain rfl := List.mem_singleton.mp (mem_ite hc).2
    cases hsets
  | cleanup =>
    obtain rfl := List.mem_singleton.mp (mem_ite hc).2
    cases hsets
  | closeExtension x =>
    cases x <;> obtain rfl := List.mem_singleton.mp hc <;> cases hsets
  | stopBatching ret =>
    obtain rfl := List.mem_singleton.mp hc
    cases hsets
  | serviceDied id => exact absurd hsets (stopCalls_sets hc)
  | _ => cases hc

/-- What runs is there to be stopped. -/
def Backed (s : State) : Prop := ∀ e, running e s.calls = true → s.has e = true

theorem backed_step (h : step s a = some t) (hs : Backed s) : Backed t := by
  intro e hrun
  rw [step_calls h, running_append] at hrun
  apply step_has h
  rcases foldl_apply hrun with hbefore | ⟨c, hc, hsets⟩
  · exact hs e hbefore
  · exact (calls_start h hc hsets).2

theorem running_step (h : step s a = some t) (ha : a.starts = false)
    (hrun : running e t.calls = true) : running e s.calls = true := by
  rw [step_calls h, running_append] at hrun
  rcases foldl_apply hrun with hbefore | ⟨c, hc, hsets⟩
  · exact hbefore
  · rw [(calls_start h hc hsets).1] at ha
    cases ha

/-- A call that stops the engine, with none behind it that starts it. -/
theorem running_stopCalls {on : Bool} (he : s.has e = true) :
    (stopCalls s).foldl (HalCall.apply e) on = false := by
  obtain ⟨mGnssIface, _, _, _, mGnssMeasurement, mGnssNavigationMessage, mGnssBatching⟩ := s
  cases e with
  | gps =>
    obtain rfl : mGnssIface = true := he
    cases mGnssMeasurement <;> cases mGnssNavigationMessage <;> cases mGnssBatching <;> rfl
  | measurement =>
    obtain rfl : mGnssMeasurement = true := he
    cases mGnssIface <;> cases mGnssNavigationMessage <;> cases mGnssBatching <;> rfl
  | navigationMessage =>
    obtain rfl : mGnssNavigationMessage = true := he
    cases mGnssIface <;> cases mGnssMeasurement <;> cases mGnssBatching <;> rfl
  | batching =>
    obtain rfl : mGnssBatching = true := he
    cases mGnssIface <;> cases mGnssMeasurement <;> cases mGnssNavigationMessage <;> rfl

theorem serviceDied_stops (hs : Backed s) (h : step s (.serviceDied id) = some t) :
    running e t.calls = false := by
  rw [step_calls h, running_append]
  by_cases he : s.has e = true
  · exact running_stopCalls he
  · apply Bool.eq_false_iff.mpr
    intro hrun
    rcases foldl_apply hrun with hbefore | ⟨c, hc, hsets⟩
    · exact he (hs e hbefore)
    · exact absurd hsets (stopCalls_sets hc)

/-! ### Silence -/

def Action.registers : Action → Bool
  | .setCallback .. => true
  | _ => false

/-- Actions that tell the client nothing and leave it registered. -/
def Action.quiet : Action → Bool
  | .setCallback .. | .setCapabilitiesCb _ | .setSystemInfoCb _ | .reportCb .. => false
  | .dropClient => false
  | _ => true

structure SameClient (s t : State) : Prop where
  told : t.told = s.told
  iface : t.sGnssCbIface = s.sGnssCbIface
  capabilities : t.sCapabilitiesCached = s.sCapabilitiesCached
  yearOfHw : t.sYearOfHwCached = s.sYearOfHwCached

theorem sameClient_forward {iface : Bool} {ret : Int} : SameClient s (forward s iface c ret).2 := by
  unfold forward
  split <;> exact ⟨rfl, rfl, rfl, rfl⟩

theorem sameClient_stopAll : SameClient s (stopAll s) := by
  obtain ⟨mGnssIface, _, _, _, mGnssMeasurement, mGnssNavigationMessage, mGnssBatching⟩ := s
  cases mGnssIface <;> cases mGnssMeasurement <;> cases mGnssNavigationMessage <;>
    cases mGnssBatching <;> exact ⟨rfl, rfl, rfl, rfl⟩

theorem sameClient_step (h : step s a = some t) (ha : a.quiet = true) : SameClient s t := by
  cases a with
  | flpCapabilitiesCb gnss =>
    cases h
    cases gnss <;> exact ⟨rfl, rfl, rfl, rfl⟩
  | start ret =>
    cases h
    exact sameClient_forward
  | stop ret =>
    cases h
    exact sameClient_forward
  | cleanup =>
    cases h
    exact sameClient_forward
  | getExtension x found =>
    cases h
    unfold getExtension
    split
    · exact ⟨rfl, rfl, rfl, rfl⟩
    · cases x <;> exact ⟨rfl, rfl, rfl, rfl⟩
  | setExtensionCallback x =>
    obtain ⟨-, ⟨⟩⟩ := Option.ite_none_right_eq_some.mp h
    cases x <;> exact ⟨rfl, rfl, rfl, rfl⟩
  | closeExtension x =>
    obtain ⟨-, ⟨⟩⟩ := Option.ite_none_right_eq_some.mp h
    cases x <;> exact ⟨rfl, rfl, rfl, rfl⟩
  | startBatching ret =>
    obtain ⟨-, ⟨⟩⟩ := Option.ite_none_right_eq_some.mp h
    exact sameClient_forward
  | stopBatching ret =>
    obtain ⟨-, ⟨⟩⟩ := Option.ite_none_right_eq_some.mp h
    exact ⟨rfl, rfl, rfl, rfl⟩
  | clientDies id =>
    obtain ⟨-, ⟨⟩⟩ := Option.ite_none_right_eq_some.mp h
    exact ⟨rfl, rfl, rfl, rfl⟩
  | serviceDied id =>
    obtain ⟨-, ⟨⟩⟩ := Option.ite_none_right_eq_some.mp h
    exact ⟨sameClient_stopAll.told, sameClient_stopAll.iface, sameClient_stopAll.capabilities,
      sameClient_stopAll.yearOfHw⟩
  | _ => cases ha

/-- Nobody is told anything while nobody is registered. -/
theorem silent_step (h : step s a = some t) (ha : a.registers = false)
    (hs : s.sGnssCbIface = none) : t.told = s.told ∧ t.sGnssCbIface = none := by
  cases hquiet : a.quiet with
  | true =>
    have hsame := sameClient_step h hquiet
    exact ⟨hsame.told, hsame.iface.trans hs⟩
  | false =>
    cases a with
    | setCapabilitiesCb capabilities =>
      cases h
      simp [setCapabilitiesCb, hs]
    | setSystemInfoCb info =>
      cases h
      simp [setSystemInfoCb, hs]
    | reportCb r given =>
      cases h
      simp [reportCb, hs]
    | dropClient =>
      obtain ⟨-, ⟨⟩⟩ := Option.ite_none_right_eq_some.mp h
      exact ⟨rfl, rfl⟩
    | setCallback callback ret => cases ha
    | _ => cases hquiet

theorem silent_run (h : Machine.run step s as = some t) (ha : ∀ a ∈ as, a.registers = false)
    (hs : s.sGnssCbIface = none) : t.told = s.told ∧ t.sGnssCbIface = none := by
  induction as generalizing s with
  | nil =>
    cases h
    exact ⟨rfl, hs⟩
  | cons a as ih =>
    obtain ⟨u, hu, h⟩ := Option.bind_eq_some_iff.mp h
    obtain ⟨htold, hnone⟩ := silent_step hu (ha a List.mem_cons_self) hs
    obtain ⟨htold', hnone'⟩ := ih h (fun b hb => ha b (List.mem_cons_of_mem a hb)) hnone
    exact ⟨htold'.trans htold, hnone'⟩

theorem stopped_run (h : Machine.run step s as = some t) (ha : ∀ a ∈ as, a.starts = false)
    (hrun : running e t.calls = true) : running e s.calls = true := by
  induction as generalizing s with
  | nil =>
    cases h
    exact hrun
  | cons a as ih =>
    obtain ⟨u, hu, h⟩ := Option.bind_eq_some_iff.mp h
    apply running_step hu (ha a List.mem_cons_self)
    exact ih h fun b hb => ha b (List.mem_cons_of_mem a hb)

theorem backed_initial {mGnssIface : Bool} : Backed (initial mGnssIface) := by
  intro e hrun
  cases hrun

theorem backed_run {mGnssIface : Bool} (h : Machine.run step (initial mGnssIface) as = some s) :
    Backed s :=
  Machine.run_invariant (fun _ _ _ hs h => backed_step h hs) h backed_initial

/-- The client has started the receiver and the measurements, and has died. -/
def measured : State :=
  { initial true with
    sGnssCbIface := some ⟨1, []⟩, mGnssMeasurement := true, obituaries := [1]
    calls := [.init, .measurementInit, .start] }

def Callback.capabilities? : Callback → Option UInt32
  | .capabilities mask => some mask
  | _ => none

def Callback.yearOfHw? : Callback → Option UInt16
  | .systemInfo year => some year
  | _ => none

def lastCapabilities (l : List Callback) : Option UInt32 :=
  (l.filterMap Callback.capabilities?).getLast?

def lastYearOfHw (l : List Callback) : Option UInt16 := (l.filterMap Callback.yearOfHw?).getLast?

/-- The client has been told the values that are kept, or they are not known. -/
structure Client.Current (client : Client) (capabilities : UInt32) (yearOfHw : UInt16) : Prop where
  capabilities : lastCapabilities client.received = some capabilities ∨
    lastCapabilities client.received = none ∧ capabilities = 0
  yearOfHw : lastYearOfHw client.received = some yearOfHw ∨
    lastYearOfHw client.received = none ∧ yearOfHw = 0

def Current (s : State) : Prop :=
  ∀ client, s.sGnssCbIface = some client → client.Current s.sCapabilitiesCached s.sYearOfHwCached

variable {l : List Callback} {client : Client}

theorem lastCapabilities_append : lastCapabilities (l ++ [cb]) =
    cb.capabilities?.or (lastCapabilities l) := by
  cases cb <;> simp [lastCapabilities, Callback.capabilities?]

theorem lastYearOfHw_append : lastYearOfHw (l ++ [cb]) =
    cb.yearOfHw?.or (lastYearOfHw l) := by
  cases cb <;> simp [lastYearOfHw, Callback.yearOfHw?]

theorem tell_some (hs : s.sGnssCbIface = some client) : s.tell cb =
    { s with
      sGnssCbIface := some { client with received := client.received ++ [cb] }
      told := s.told ++ [(client.id, cb)] } := by
  rw [State.tell, hs]

theorem current_setCapabilitiesCb {capabilities : UInt32} (hs : Current s) :
    Current (setCapabilitiesCb s capabilities) := by
  unfold setCapabilitiesCb
  split
  · exact hs
  · rename_i hsome
    obtain ⟨client, hclient⟩ := Option.ne_none_iff_exists'.mp (by simpa using hsome)
    rw [tell_some hclient]
    rintro _ ⟨⟩
    refine ⟨.inl ?_, ?_⟩
    · rw [lastCapabilities_append]
      rfl
    · rw [lastYearOfHw_append]
      exact (hs client hclient).yearOfHw

theorem current_setSystemInfoCb {info : Option UInt16} (hs : Current s) :
    Current (setSystemInfoCb s info) := by
  unfold setSystemInfoCb
  split
  · exact hs
  · rename_i hsome
    cases info with
    | none => exact hs
    | some year_of_hw =>
      obtain ⟨client, hclient⟩ := Option.ne_none_iff_exists'.mp (by simpa using hsome)
      dsimp only
      rw [tell_some hclient]
      rintro _ ⟨⟩
      refine ⟨?_, .inl ?_⟩
      · rw [lastCapabilities_append]
        exact (hs client hclient).capabilities
      · rw [lastYearOfHw_append]
        rfl

theorem current_reportCb {r : Report} {given : Bool} (hs : Current s) :
    Current (reportCb s r given) := by
  unfold reportCb
  split
  · exact hs
  · rename_i hsome
    split
    · obtain ⟨client, hclient⟩ := Option.ne_none_iff_exists'.mp (by simpa using hsome)
      rw [tell_some hclient]
      rintro _ ⟨⟩
      refine ⟨?_, ?_⟩
      · rw [lastCapabilities_append]
        exact (hs client hclient).capabilities
      · rw [lastYearOfHw_append]
        exact (hs client hclient).yearOfHw
    · exact hs

/-- The resend makes up for what a new client has missed. -/
theorem current_refresh (hs : s.sGnssCbIface = some ⟨id, []⟩) : Current (refresh s) := by
  intro client hclient
  unfold refresh setCapabilitiesCb setSystemInfoCb at hclient ⊢
  by_cases hcapabilities : s.sCapabilitiesCached = 0
  · by_cases hyear : s.sYearOfHwCached = 0
    · simp [hs, hcapabilities, hyear] at hclient ⊢
      subst hclient
      exact ⟨.inr ⟨rfl, rfl⟩, .inr ⟨rfl, rfl⟩⟩
    · simp [hs, hcapabilities, hyear, tell_some hs] at hclient ⊢
      subst hclient
      exact ⟨.inr ⟨rfl, rfl⟩, .inl rfl⟩
  · by_cases hyear : s.sYearOfHwCached = 0
    · simp [hs, hcapabilities, hyear, tell_some hs] at hclient ⊢
      subst hclient
      exact ⟨.inl rfl, .inr ⟨rfl, rfl⟩⟩
    · simp [hs, hcapabilities, hyear, State.tell] at hclient ⊢
      subst hclient
      exact ⟨.inl rfl, .inl rfl⟩

theorem current_step (h : step s a = some t) (hs : Current s) : Current t := by
  cases hquiet : a.quiet with
  | true =>
    have hsame := sameClient_step h hquiet
    intro client hclient
    rw [hsame.capabilities, hsame.yearOfHw]
    exact hs client (hsame.iface.symm.trans hclient)
  | false =>
    cases a with
    | setCapabilitiesCb capabilities =>
      cases h
      exact current_setCapabilitiesCb hs
    | setSystemInfoCb info =>
      cases h
      exact current_setSystemInfoCb hs
    | reportCb r given =>
      cases h
      exact current_reportCb hs
    | dropClient =>
      obtain ⟨-, ⟨⟩⟩ := Option.ite_none_right_eq_some.mp h
      rintro client ⟨⟩
    | setCallback callback ret =>
      cases h
      unfold setCallback
      split
      · exact hs
      · cases callback with
        | none => exact hs
        | some id => exact current_refresh rfl
    | _ => cases hquiet

/-! ### Whose death is noticed -/

/-- No client registers between a death and the end of its handling. -/
def Careful (s : State) : Action → Prop
  | .setCallback (some _) _ => s.obituaries = [] ∧ s.dying = false
  | _ => True

/-- The recipient is linked to the registered client, or has heard of its death. -/
def Linked (s : State) : Prop :=
  s.links ++ s.obituaries = if s.dying then [] else (s.sGnssCbIface.map Client.id).toList

theorem linked_of_session (h : t.session = s.session) (hs : Linked s) : Linked t := by
  unfold State.session at h
  simp only [Prod.mk.injEq] at h
  obtain ⟨hlinks, hobituaries, hdying, hid⟩ := h
  unfold Linked
  rw [hlinks, hobituaries, hdying, hid]
  exact hs

theorem session_forward {iface : Bool} {ret : Int} :
    (forward s iface c ret).2.session = s.session := by
  unfold forward
  split <;> rfl

theorem session_stopAll : (stopAll s).session = s.session := by
  obtain ⟨mGnssIface, _, _, _, mGnssMeasurement, mGnssNavigationMessage, mGnssBatching⟩ := s
  cases mGnssIface <;> cases mGnssMeasurement <;> cases mGnssNavigationMessage <;>
    cases mGnssBatching <;> rfl

theorem linked_of_mem (hs : Linked s) (hmem : id ∈ s.links ++ s.obituaries) :
    s.links ++ s.obituaries = [id] ∧ s.dying = false ∧
      ∃ client, s.sGnssCbIface = some client ∧ client.id = id := by
  unfold Linked at hs
  rw [hs] at hmem ⊢
  cases hdying : s.dying with
  | true =>
    rw [hdying] at hmem
    cases hmem
  | false =>
    rw [hdying] at hmem
    cases hclient : s.sGnssCbIface with
    | none =>
      rw [hclient] at hmem
      cases hmem
    | some client =>
      rw [hclient] at hmem
      obtain rfl := List.mem_singleton.mp hmem
      exact ⟨rfl, rfl, client, rfl, rfl⟩

theorem links_unlinkToDeath (hs : Linked s) (hobituaries : s.obituaries = [])
    (hdying : s.dying = false) : (unlinkToDeath s).links = [] := by
  unfold Linked at hs
  rw [hobituaries, List.append_nil, hdying] at hs
  unfold unlinkToDeath
  cases hclient : s.sGnssCbIface with
  | none =>
    rw [hclient] at hs
    exact hs
  | some client =>
    rw [hclient] at hs
    simp [hs]

theorem linked_setCallback {ret : Int} (hs : Linked s) (hobituaries : s.obituaries = [])
    (hdying : s.dying = false) : Linked (setCallback s (some id) ret).2 := by
  unfold setCallback
  split
  · exact hs
  · have hunlinked : (unlinkToDeath s).obituaries = s.obituaries ∧
        (unlinkToDeath s).dying = s.dying := by
      unfold unlinkToDeath
      split <;> exact ⟨rfl, rfl⟩
    apply linked_of_session (tells_refresh _).session
    unfold Linked
    simp only [links_unlinkToDeath hs hobituaries hdying, hunlinked.1, hunlinked.2, hobituaries,
      hdying]
    rfl

theorem linked_step (h : step s a = some t) (hcareful : Careful s a) (hs : Linked s) :
    Linked t := by
  cases a with
  | setCapabilitiesCb capabilities =>
    cases h
    exact linked_of_session (tells_setCapabilitiesCb s capabilities).session hs
  | setSystemInfoCb info =>
    cases h
    exact linked_of_session (tells_setSystemInfoCb s info).session hs
  | reportCb r given =>
    cases h
    exact linked_of_session (tells_reportCb s r given).session hs
  | flpCapabilitiesCb gnss =>
    cases h
    cases gnss <;> exact hs
  | setCallback callback ret =>
    cases h
    cases callback with
    | none =>
      unfold setCallback
      split <;> exact hs
    | some id => exact linked_setCallback hs hcareful.1 hcareful.2
  | start ret =>
    cases h
    exact linked_of_session session_forward hs
  | stop ret =>
    cases h
    exact linked_of_session session_forward hs
  | cleanup =>
    cases h
    exact linked_of_session session_forward hs
  | getExtension x found =>
    cases h
    unfold getExtension
    split
    · exact hs
    · cases x <;> exact hs
  | setExtensionCallback x =>
    obtain ⟨-, ⟨⟩⟩ := Option.ite_none_right_eq_some.mp h
    cases x <;> exact hs
  | closeExtension x =>
    obtain ⟨-, ⟨⟩⟩ := Option.ite_none_right_eq_some.mp h
    cases x <;> exact hs
  | startBatching ret =>
    obtain ⟨-, ⟨⟩⟩ := Option.ite_none_right_eq_some.mp h
    exact linked_of_session session_forward hs
  | stopBatching ret =>
    obtain ⟨-, ⟨⟩⟩ := Option.ite_none_right_eq_some.mp h
    exact hs
  | clientDies id =>
    obtain ⟨hmem, ⟨⟩⟩ := Option.ite_none_right_eq_some.mp h
    obtain ⟨hone, hdying, client, hclient, rfl⟩ :=
      linked_of_mem hs (List.mem_append_left s.obituaries hmem)
    obtain ⟨rest, hlinks⟩ : ∃ rest, s.links = client.id :: rest := by
      cases hlinks : s.links with
      | nil =>
        rw [hlinks] at hmem
        cases hmem
      | cons first rest =>
        rw [hlinks, List.cons_append, List.cons.injEq] at hone
        exact ⟨rest, by rw [hone.1]⟩
    rw [hlinks, List.cons_append, List.cons.injEq, List.append_eq_nil_iff] at hone
    obtain ⟨-, rfl, hobituaries⟩ := hone
    unfold Linked
    simp [hlinks, hobituaries, hdying, hclient]
  | serviceDied id =>
    obtain ⟨⟨hmem, -⟩, ⟨⟩⟩ := Option.ite_none_right_eq_some.mp h
    obtain ⟨hone, -⟩ := linked_of_mem hs (List.mem_append_right s.links hmem)
    have hlinks : (stopAll s).links = s.links := congrArg Prod.fst session_stopAll
    unfold Linked
    dsimp only
    rw [hlinks]
    cases hl : s.links with
    | nil =>
      rw [hl, List.nil_append] at hone
      simp [hone]
    | cons first rest =>
      rw [hl, List.cons_append, List.cons.injEq, List.append_eq_nil_iff] at hone
      rw [hone.2.2] at hmem
      cases hmem
  | dropClient =>
    obtain ⟨hdying, ⟨⟩⟩ := Option.ite_none_right_eq_some.mp h
    unfold Linked at hs ⊢
    rw [hdying] at hs
    exact hs

theorem linked_run {mGnssIface : Bool} (h : Machine.run step (initial mGnssIface) as = some s)
    (hcareful : Machine.Along step Careful (initial mGnssIface) as) : Linked s :=
  Machine.run_invariant_along (fun _ _ _ hs hok h => linked_step h hok hs) h hcareful rfl

end Apq8084.Gnss.Session
