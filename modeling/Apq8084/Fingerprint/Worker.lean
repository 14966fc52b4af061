import Apq8084.Fingerprint.Templates
import Mathlib.Algebra.Group.Int.Defs

/-! The worker threads `vcs_authenticate` and `vcs_enroll` of `fingerprint/fingerprint_tz.c`. A
step is one access to `tz.state` or `sensor`, one command to the trusted app, one pass over
`tz.finger`, one notice, or one of `sensor_uninit` and `vcs_uninit`. -/
namespace Apq8084.Fingerprint

def SQLITE_DONE : Int := 101

/-- `worker_state_t`. -/
inductive WorkerState where
  | idle | enroll | scan | cancel
deriving DecidableEq

/-- What a command comes back with: the transport code, and the words of the response. -/
structure Reply where
  ret : Int
  result : Int
  data : Nat → Int

namespace Reply

def Ok (r : Reply) : Prop := r.ret = 0 ∧ r.result = 0

instance (r : Reply) : Decidable r.Ok := inferInstanceAs (Decidable (_ ∧ _))

/-- The bytes from `&resp->data[2]` on, in little-endian words. -/
def bytes (r : Reply) (k : Nat) : UInt8 :=
  UInt8.ofNat (r.data (2 + k / 4) / 256 ^ (k % 4) % 256).toNat

def fingerData (r : Reply) : Data := fun k => r.bytes k

def payload (r : Reply) : Payload := fun k => r.bytes k

end Reply

/-- What the threads share. -/
structure Shared where
  /-- `tz.state`. -/
  state : WorkerState
  /-- `sensor.init`. -/
  sensorInit : Bool
  /-- `sensor.signal`. -/
  signal : Bool
  /-- `tz.init`. -/
  tzInit : Bool
  secureUserId : UInt64
  templates : Templates

namespace Shared

/-- After the device was opened for the first time. -/
def opened : Shared :=
  { state := .idle, sensorInit := false, signal := false, tzInit := false, secureUserId := 0
    templates := Templates.fingerprintOpen fun _ => none }

def setState (sh : Shared) (state : WorkerState) : Shared := { sh with state }

def notify (sh : Shared) (msg : Notice) : Shared :=
  { sh with templates := sh.templates.notify msg }

def sensorUninit (sh : Shared) : Shared := { sh with sensorInit := false }

/-- The commands of `vcs_uninit` change nothing else that is kept here. -/
def vcsUninit (sh : Shared) : Shared := { sh with tzInit := false, state := .idle }

/-- Change a slot; without a free slot, `tz.finger[MAX_NUM_FINGERS + 1]` is written. -/
def updateFinger (sh : Shared) (idx : Option Slot) (f : Finger → Finger) : Shared :=
  match idx with
  | none => { sh with templates := { sh.templates with outOfBounds := true } }
  | some i =>
    { sh with
      templates := { sh.templates with
        finger := Function.update sh.templates.finger i (f (sh.templates.finger i)) } }

/-- `db_write_to_db(vdev, false, idx)`; `ret` is what `sqlite3_step` returns. -/
def dbWrite (sh : Shared) (idx : Option Slot) (ret : Int) : Shared :=
  match idx with
  | none => sh
  | some i =>
    if ret = SQLITE_DONE then { sh with templates := sh.templates.dbInsert i } else sh

/-- `send_enroll_notice`, which is silent while there is no secure user. -/
def sendEnrollNotice (sh : Shared) (fid remaining : Int) : Shared :=
  if fid = 0 then sh
  else if sh.secureUserId = 0 then sh
  else sh.notify (.enrolling fid remaining)

/-- The slots that exist, in the order of the loops over `tz.finger`. -/
def enrolled (sh : Shared) : List Slot := slots.filter fun i => (sh.templates.finger i).exist

/-! Small facts about the pieces. -/

variable (sh : Shared)

@[simp] theorem setState_state (state : WorkerState) : (sh.setState state).state = state := rfl

@[simp] theorem notify_state (msg : Notice) : (sh.notify msg).state = sh.state := rfl

@[simp] theorem sensorUninit_state : sh.sensorUninit.state = sh.state := rfl

@[simp] theorem vcsUninit_state : sh.vcsUninit.state = .idle := rfl

@[simp] theorem updateFinger_state (idx : Option Slot) (f : Finger → Finger) :
    (sh.updateFinger idx f).state = sh.state := by
  cases idx <;> rfl

@[simp] theorem dbWrite_state (idx : Option Slot) (ret : Int) :
    (sh.dbWrite idx ret).state = sh.state := by
  cases idx with
  | none => rfl
  | some i =>
    simp only [dbWrite]
    split <;> rfl

theorem sendEnrollNotice_eq (fid remaining : Int) :
    sh.sendEnrollNotice fid remaining = sh ∨
      sh.sendEnrollNotice fid remaining = sh.notify (.enrolling fid remaining) := by
  unfold sendEnrollNotice
  split_ifs <;> simp

@[simp] theorem sendEnrollNotice_state (fid remaining : Int) :
    (sh.sendEnrollNotice fid remaining).state = sh.state := by
  rcases sendEnrollNotice_eq sh fid remaining with h | h <;> rw [h]
  rfl

/-- The flags that `sensor_uninit` and `vcs_uninit` clear. -/
def inits (sh : Shared) : Bool × Bool := (sh.sensorInit, sh.tzInit)

@[simp] theorem setState_inits (state : WorkerState) : (sh.setState state).inits = sh.inits := rfl

@[simp] theorem notify_inits (msg : Notice) : (sh.notify msg).inits = sh.inits := rfl

@[simp] theorem updateFinger_inits (idx : Option Slot) (f : Finger → Finger) :
    (sh.updateFinger idx f).inits = sh.inits := by
  cases idx <;> rfl

@[simp] theorem dbWrite_inits (idx : Option Slot) (ret : Int) :
    (sh.dbWrite idx ret).inits = sh.inits := by
  cases idx with
  | none => rfl
  | some i =>
    simp only [dbWrite]
    split <;> rfl

@[simp] theorem sendEnrollNotice_inits (fid remaining : Int) :
    (sh.sendEnrollNotice fid remaining).inits = sh.inits := by
  rcases sendEnrollNotice_eq sh fid remaining with h | h <;> rw [h]
  rfl

/-- Neither the array nor the database differs. -/
def SameTemplates (sh sh' : Shared) : Prop :=
  sh'.templates.finger = sh.templates.finger ∧ sh'.templates.tables = sh.templates.tables

variable {sh}

theorem sameTemplates_refl : SameTemplates sh sh := ⟨rfl, rfl⟩

theorem SameTemplates.trans {sh' sh'' : Shared} (h : SameTemplates sh sh')
    (h' : SameTemplates sh' sh'') : SameTemplates sh sh'' :=
  ⟨h'.1.trans h.1, h'.2.trans h.2⟩

theorem sendEnrollNotice_same (fid remaining : Int) :
    SameTemplates sh (sh.sendEnrollNotice fid remaining) := by
  rcases sendEnrollNotice_eq sh fid remaining with h | h <;> rw [h]
  · exact sameTemplates_refl
  · exact ⟨rfl, rfl⟩

/-- The writes of an enrollment to its slot and to the database, one after the other. -/
theorem dbWrite_updateFinger (sh : Shared) (i : Slot) (data : Data) (payload : Payload) :
    (((sh.updateFinger (some i) fun f => { f with data }).updateFinger (some i)
        fun f => { f with payload }).updateFinger (some i)
        fun f => { f with exist := true }).dbWrite (some i) SQLITE_DONE =
      { sh with templates := sh.templates.register i data payload } := by
  simp [updateFinger, dbWrite, Templates.register]

end Shared

inductive Routine where
  | vcs_authenticate | vcs_enroll
deriving DecidableEq

/-- Where `vcs_start_capture` calls `vcs_check_state`: in the condition of the wait loop, behind
that loop, and in the read loop. -/
inductive CheckSite where
  | waiting | waited | reading
deriving DecidableEq

/-- The accesses of `vcs_check_state`. -/
inductive CheckPoint where
  | readIdle | readCancel | abort | setIdle
deriving DecidableEq

/-- What a worker does next. -/
inductive Pc where
  -- `vcs_authenticate`
  | unknown0 | scanLoop | buildMatch | matchImage | matchError | matchNotice | lookup
  | payloadRelease | acquiredNotice | authenticatedNotice
  -- `vcs_enroll`
  | findSlot | enrollBegin | unknownA | enrollLoop | addImage | addImageNotice | enrollNotice
  | enrollFinish | payloadBind (second : Bool) | store | passwordSet (second : Bool)
  | failSetIdle | failNotice
  -- `vcs_start_capture`
  | captureStart | updateCalData | arm | check (site : CheckSite) (point : CheckPoint)
  | testSignal | wait | clearSignal | readData | processData | processNotice
  -- behind `out:`
  | sensorUninit | vcsUninit | setIdle
  | returned
deriving DecidableEq

/-- A thread with its local variables. -/
structure Worker where
  routine : Routine
  pc : Pc
  /-- The slot to enroll; none if all exist. -/
  idx : Option Slot
  count : Int
  /-- `resp->result` of the notice to come. -/
  result : Int
  /-- The templates copied into the match command. -/
  sent : List (Slot × Data)
  fakeFid : Int
  /-- None for index 0. -/
  fingerindex : Option Slot

namespace Worker

def start (routine : Routine) : Worker :=
  { routine, pc := match routine with
      | .vcs_authenticate => .unknown0
      | .vcs_enroll => .findSlot
    idx := none, count := 8, result := 0, sent := [], fakeFid := 0, fingerindex := none }

def goto (w : Worker) (pc : Pc) : Worker := { w with pc }

/-- The label `out`. -/
def out (w : Worker) : Worker :=
  match w.routine with
  | .vcs_authenticate => w.goto .sensorUninit
  | .vcs_enroll => w.goto .setIdle

/-- Behind `vcs_start_capture`, which returned `ret`. -/
def captured (w : Worker) (ret : Int) : Worker :=
  if ret = -1 then w.out
  else match w.routine with
    | .vcs_authenticate => w.goto .buildMatch
    | .vcs_enroll => w.goto .addImage

/-- Behind `vcs_check_state`. -/
def checked (w : Worker) (ret : Bool) : CheckSite → Worker
  | .waiting => if ret then w.goto (.check .waited .readIdle) else w.goto .testSignal
  | .waited => if ret then w.captured (-1) else w.goto .clearSignal
  | .reading => if ret then w.captured (-1) else w.goto .readData

def countSample (count : Int) (r : Reply) : Int :=
  let count := if r.data 2 = 1 then 0 else count - 1
  if r.data 2 ≠ 1 ∧ count = 0 then 1 else count

/-- The number that stands for the slot in notices and in the database. -/
def fid : Option Slot → Int
  | none => MAX_NUM_FINGERS + 1
  | some i => (i : Nat)

/-- The reply is that of the command, or of the insertion, that the step consists of. -/
def step (sh : Shared) (w : Worker) (r : Reply) : Option (Shared × Worker) :=
  match w.pc with
  | .unknown0 => some (sh, w.goto .scanLoop)
  | .scanLoop => some (sh, if sh.state = .scan then w.goto .captureStart else w.out)
  | .buildMatch =>
    some (sh, { w with
      pc := .matchImage, sent := sh.enrolled.map fun i => (i, (sh.templates.finger i).data) })
  | .matchImage =>
    some (sh,
      if r.ret ≠ 0 then w.goto .matchError
      else if r.result ≠ 0 then { w with pc := .matchNotice, result := r.result }
      else { w with pc := .lookup, fakeFid := r.data 22 + 1 })
  | .matchError => some (sh.notify (.error .unableToProcess), w.out)
  | .matchNotice => some (sh.notify (.acquired w.result), w.goto .scanLoop)
  | .lookup =>
    some (sh, { w with
      pc := .payloadRelease
      fingerindex := if 1 ≤ w.fakeFid then sh.enrolled[(w.fakeFid - 1).toNat]? else none })
  | .payloadRelease => some (sh, w.out)
  | .acquiredNotice => some (sh.notify (.acquired 0), w.goto .authenticatedNotice)
  | .authenticatedNotice =>
    some (sh.notify (.authenticated (fid w.fingerindex)), w.goto .returned)
  | .findSlot => some (sh, { w with pc := .enrollBegin, idx := sh.templates.firstFree })
  | .enrollBegin => some (sh, w.goto (if r.Ok then .unknownA else .failSetIdle))
  | .unknownA => some (sh, w.goto (if r.Ok then .enrollLoop else .failSetIdle))
  | .enrollLoop =>
    some (sh, w.goto (if sh.state = .enroll then .captureStart else .enrollFinish))
  | .addImage =>
    some (sh,
      if r.ret ≠ 0 then w.goto .failSetIdle
      else if r.result ≠ 0 then { w with pc := .addImageNotice, result := r.result }
      else { w with pc := .enrollNotice, count := countSample w.count r })
  | .addImageNotice => some (sh.notify (.acquired w.result), w.goto .enrollLoop)
  | .enrollNotice =>
    some (sh.sendEnrollNotice (fid w.idx) w.count,
      w.goto (if w.count = 0 then .enrollFinish else .enrollLoop))
  -- the results of the next two commands are logged and otherwise ignored
  | .enrollFinish =>
    some (sh.updateFinger w.idx fun f => { f with data := r.fingerData },
      w.goto (.payloadBind false))
  | .payloadBind second =>
    some (if second then sh.updateFinger w.idx fun f => { f with payload := r.payload } else sh,
      w.goto (if second then .store else .payloadBind true))
  | .store =>
    some ((sh.updateFinger w.idx fun f => { f with exist := true }).dbWrite w.idx r.ret,
      w.goto (.passwordSet false))
  | .passwordSet second => some (sh, if second then w.out else w.goto (.passwordSet true))
  | .failSetIdle => some (sh.setState .idle, w.goto .failNotice)
  | .failNotice => some (sh.notify (.error .unableToProcess), w.goto .returned)
  | .captureStart => some (sh, if r.Ok then w.goto .updateCalData else w.captured r.ret)
  | .updateCalData => some (sh, w.goto .arm)
  | .arm => some (sh, w.goto (.check .waiting .readIdle))
  | .check site .readIdle =>
    some (sh, if sh.state = .idle then w.checked true site else w.goto (.check site .readCancel))
  | .check site .readCancel =>
    some (sh, if sh.state = .cancel then w.goto (.check site .abort) else w.checked false site)
  | .check site .abort => some (sh, w.goto (.check site .setIdle))
  | .check site .setIdle => some (sh.setState .idle, w.checked true site)
  | .testSignal => some (sh, w.goto (if sh.signal then .check .waited .readIdle else .wait))
  | .wait => some (sh, w.goto (.check .waiting .readIdle))
  | .clearSignal => some ({ sh with signal := false }, w.goto (.check .reading .readIdle))
  | .readData =>
    some (sh, w.goto (if r.Ok ∧ r.data 2 = 2 then .processData else .check .reading .readIdle))
  | .processData =>
    some (sh,
      if r.ret ≠ 0 then w.captured (-1)
      else if r.result ≠ 0 then { w with pc := .processNotice, result := r.result }
      else w.captured 0)
  | .processNotice => some (sh.notify (.acquired w.result), w.goto .captureStart)
  | .sensorUninit => some (sh.sensorUninit, w.goto .vcsUninit)
  | .vcsUninit =>
    some (sh.vcsUninit, match w.routine with
      | .vcs_authenticate => w.goto .setIdle
      | .vcs_enroll => w.goto .returned)
  | .setIdle =>
    some (sh.setState .idle, match w.routine with
      | .vcs_authenticate => w.goto (if w.fingerindex.isSome then .acquiredNotice else .returned)
      | .vcs_enroll => w.goto .sensorUninit)
  | .returned => none

/-! What a step leaves as it is. -/

variable {sh sh' : Shared} {w w' : Worker} {r : Reply}

@[simp] theorem goto_routine (w : Worker) (pc : Pc) : (w.goto pc).routine = w.routine := rfl

theorem out_pc (w : Worker) : w.out.pc = .sensorUninit ∨ w.out.pc = .setIdle := by
  unfold out
  split
  · exact Or.inl rfl
  · exact Or.inr rfl

theorem captured_pc (w : Worker) (ret : Int) : (w.captured ret).pc = .buildMatch ∨
    (w.captured ret).pc = .addImage ∨ (w.captured ret).pc = w.out.pc := by
  unfold captured
  split
  · exact Or.inr (Or.inr rfl)
  · split
    · exact Or.inl rfl
    · exact Or.inr (Or.inl rfl)

@[simp] theorem out_routine (w : Worker) : w.out.routine = w.routine := by
  unfold out
  split <;> rfl

@[simp] theorem captured_routine (w : Worker) (ret : Int) :
    (w.captured ret).routine = w.routine := by
  unfold captured
  split
  · exact out_routine w
  · split <;> rfl

@[simp] theorem checked_routine (w : Worker) (ret : Bool) (site : CheckSite) :
    (w.checked ret site).routine = w.routine := by
  cases site <;> cases ret <;> simp [checked]

theorem step_routine (h : w.step sh r = some (sh', w')) : w'.routine = w.routine := by
  unfold step at h
  split at h <;> simp only [Option.some.injEq, Prod.mk.injEq, reduceCtorEq] at h <;>
    obtain ⟨-, rfl⟩ := h <;> first | (simp; done) | (split_ifs <;> simp) | (split <;> rfl)

/-- The steps that set `tz.state` to `STATE_IDLE`. -/
def writesIdle : Pc → Bool
  | .check _ .setIdle | .failSetIdle | .vcsUninit | .setIdle => true
  | _ => false

/-- The steps that change the array or the database. -/
def writesTemplates : Pc → Bool
  | .enrollFinish | .payloadBind _ | .store => true
  | _ => false

theorem step_state (h : w.step sh r = some (sh', w')) :
    sh'.state = if writesIdle w.pc then .idle else sh.state := by
  unfold step at h
  split at h <;> simp only [Option.some.injEq, Prod.mk.injEq, reduceCtorEq] at h <;>
    obtain ⟨rfl, -⟩ := h <;> simp only [*, writesIdle] <;> first | (simp; done) | (split <;> simp)

theorem step_templates (h : w.step sh r = some (sh', w')) (hpc : writesTemplates w.pc = false) :
    Shared.SameTemplates sh sh' := by
  unfold step at h
  split at h <;> simp only [Option.some.injEq, Prod.mk.injEq, reduceCtorEq] at h <;>
    obtain ⟨rfl, -⟩ := h <;> first
      | exact ⟨rfl, rfl⟩
      | exact Shared.sendEnrollNotice_same _ _
      | simp [*, writesTemplates] at hpc

/-- The other steps leave the sensor and the trusted app on. -/
theorem step_inits (h : w.step sh r = some (sh', w')) (hs : w.pc ≠ .sensorUninit)
    (ha : w.pc ≠ .vcsUninit) : sh'.inits = sh.inits := by
  unfold step at h
  split at h <;> simp only [Option.some.injEq, Prod.mk.injEq, reduceCtorEq] at h <;>
    obtain ⟨rfl, -⟩ := h <;> first
      | rfl
      | simp
      | (split <;> simp)
      | exact absurd ‹_› hs
      | exact absurd ‹_› ha

end Worker

end Apq8084.Fingerprint
