import Apq8084.Fingerprint.TrustedApp

/-! The calibration data of the sensor: `vcs_update_cal_data` and the end of `vcs_resume` copy it
out of replies of the app into `tz.calibrate_data`, and `vcs_resume` sends it back. -/
namespace Apq8084.Fingerprint.TrustedApp

def BUFFER_LENGTH : Nat := 0x19000

def CALIBRATE_DATA_MAX_LENGTH : Nat := 0x500c

/-- The bytes of a reply from `&resp->data[2]` on. -/
def replyRoom : Nat := 4 * (BUFFER_LENGTH / 4 - 2 - 2)

/-- The bytes of a command from `&send_cmd->data[4]` on. -/
def commandRoom : Nat := BUFFER_LENGTH - 12 - 4

/-- A `memcpy` of `len` bytes, and how many there are on each side. -/
structure Copy where
  src : Nat
  dst : Nat
  len : Int

def Copy.InBounds (c : Copy) : Prop := 0 ≤ c.len ∧ c.len ≤ c.src ∧ c.len ≤ c.dst

/-- Calibration data as a reply carries it: the first `len` of `bytes`. -/
structure Received where
  len : Int
  bytes : Nat → UInt8

def Received.ofReply (r : Reply) : Received := { len := r.data 3 + 0xf, bytes := r.bytes }

/-- The data are the first bytes behind the parameters, and nothing follows them. -/
def Request.Carries (q : Request) (d : Received) : Prop :=
  q.len = (if d.len = 0 then 0x10 else d.len) ∧
    ∀ k : Nat, q.data (4 + k) = if k < d.len.toNat then d.bytes k else 0

/-- `tz`, and what a history of calls did with calibration data. -/
structure Memory where
  tz : State
  /-- The calibration data received last. -/
  received : Received
  copies : List Copy
  /-- The commands `vfmDeviceCalibrate`, each with what had been received before. -/
  sent : List (Request × Received)

namespace State

/-- `vcs_init` up to the command `vfmDeviceCalibrate`; `.error` where it returns before. -/
def upToCalibration (s : State) (o : AppOutcome) : Except State State :=
  if s.init then .error s
  else if o.startApp ≠ 0 then .error s
  else
    let s := s.startApp
    if o.setBandwidth ≠ 0 then .error s
    else
      let s := { s with init := true }.sendCmd
        { cmd := .vfmInitialize, len := 4, data := fun k => if k = 0 then 2 else 0 }
        (o.replies .vfmInitialize)
      if ¬(o.replies .vfmInitialize).Ok then .error s
      else
        let entered : Except State State :=
          if s.authSessionOpend then
            let s := s.sendCmd
              { cmd := .vendorEnterAuthSession, len := 0x70, data := memcpy zeros s.authToken 0x70 }
              (o.replies .vendorEnterAuthSession)
            if ¬(o.replies .vendorEnterAuthSession).Ok then .error s else .ok s
          else .ok s
        match entered with
        | .error s => .error s
        | .ok s =>
          let s := s.sendCmd { cmd := .vfmDeviceInitialize, len := 0, data := zeros }
            (o.replies .vfmDeviceInitialize)
          if ¬(o.replies .vfmDeviceInitialize).Ok then .error s else .ok s

end State

namespace Memory

def withTz (m : Memory) (s : State) : Memory := { m with tz := s }

/-- What memory holds after a copy out of bounds is not modelled. -/
def keep (m : Memory) (r : Reply) : Memory :=
  let len := r.data 3 + 0xf
  { m with
    tz := { m.tz with
      calibrateLen := len, calibrateData := memcpy m.tz.calibrateData r.bytes len.toNat }
    received := .ofReply r
    copies := m.copies ++ [{ src := replyRoom, dst := CALIBRATE_DATA_MAX_LENGTH, len := len }] }

/-- `vfmDeviceCalibrate`, with a copy of the calibration data if there is any. -/
def sendCalibration (m : Memory) (r : Reply) : Memory :=
  { m with
    tz := m.tz.sendCmd m.tz.calibrateRequest r
    copies :=
      if m.tz.calibrateLen ≠ 0 then
        m.copies ++
          [{ src := CALIBRATE_DATA_MAX_LENGTH, dst := commandRoom, len := m.tz.calibrateLen }]
      else m.copies
    sent := m.sent ++ [(m.tz.calibrateRequest, m.received)] }

/-- The end of `vcs_resume`. -/
def deviceCalibrate (m : Memory) (r : Reply) : Memory :=
  let m := m.sendCalibration r
  if ¬r.Ok then m
  else if m.tz.calibrateLen = 0 then m.keep r
  else m

def vcsInit (m : Memory) (o : AppOutcome) : Memory :=
  match m.tz.upToCalibration o with
  | .error s => m.withTz s
  | .ok s => (m.withTz s).deviceCalibrate (o.replies .vfmDeviceCalibrate)

def vcsUpdateCalData (m : Memory) (r : Reply) : Memory := if ¬r.Ok then m else m.keep r

/-- The beginning of `vcs_start_capture`; without a handle there is no buffer. -/
def vcsStartCapture (m : Memory) (start update : Reply) : Option Memory :=
  match m.tz.qhandle with
  | none => none
  | some _ => some (if ¬start.Ok then m else m.vcsUpdateCalData update)

inductive Action where
  | vcsInit (o : AppOutcome)
  | vcsUninit (r1 r2 r : Reply)
  | vcsStartAuthSession (r : Reply)
  | vcsStopAuthSession (r : Reply)
  | capture (start update : Reply)

def step (m : Memory) : Action → Option Memory
  | .vcsInit o => some (m.vcsInit o)
  | .vcsUninit r1 r2 r => (m.tz.vcsUninit r1 r2 r).map fun p => m.withTz p.2
  | .vcsStartAuthSession r => (m.tz.vcsStartAuthSession r).map fun p => m.withTz p.2
  | .vcsStopAuthSession r => (m.tz.vcsStopAuthSession r).map fun p => m.withTz p.2
  | .capture start update => m.vcsStartCapture start update

/-- `tz` as `fingerprint_open` clears it, before any call. -/
def initial : Memory :=
  { tz := .cleared, received := { len := 0, bytes := zeros }, copies := [], sent := [] }

/-- The data fit their buffer, no copy went out of bounds, and what was sent back each time is
what had been received last. -/
structure Safe (m : Memory) : Prop where
  len_nonneg : 0 ≤ m.tz.calibrateLen
  len_le : m.tz.calibrateLen ≤ CALIBRATE_DATA_MAX_LENGTH
  copies : ∀ c ∈ m.copies, c.InBounds
  sent : ∀ e ∈ m.sent, e.1.Carries e.2

/-- The length that the reply states fits `tz.calibrate_data`. -/
def Fits (r : Reply) : Prop := -0xf ≤ r.data 3 ∧ r.data 3 + 0xf ≤ CALIBRATE_DATA_MAX_LENGTH

/-- Each reply that calibration data is taken from states a length that fits. -/
def Meets (m : Memory) : Action → Prop
  | .vcsInit o => ∀ s, m.tz.upToCalibration o = .ok s → m.tz.calibrateLen = 0 →
      (o.replies .vfmDeviceCalibrate).Ok → Fits (o.replies .vfmDeviceCalibrate)
  | .capture start update => start.Ok → update.Ok → Fits update
  | _ => True

/-- `Safe`, and the buffer holds what was received last. -/
structure Invariant (m : Memory) : Prop extends Safe m where
  received_len : m.received.len = m.tz.calibrateLen
  received_bytes : ∀ k < m.tz.calibrateLen.toNat, m.tz.calibrateData k = m.received.bytes k

end Memory

variable {s t : State} {m m' : Memory} {o : AppOutcome} {r : Reply}

/-! ### The calls of the model with memory are those of `tz` -/

/-- What is left of `vcs_init` from `vfmDeviceCalibrate` on. -/
def State.afterCalibration (s : State) (r : Reply) : State :=
  let s := s.sendCmd s.calibrateRequest r
  if ¬r.Ok then s else s.keepCalibration r

theorem vcsInit_eq (s : State) (o : AppOutcome) :
    (s.vcsInit o).2 =
      match s.upToCalibration o with
      | .error t => t
      | .ok t => t.afterCalibration (o.replies .vfmDeviceCalibrate) := by
  unfold State.vcsInit State.upToCalibration
  by_cases hinit : s.init = true
  · simp [hinit]
  by_cases hstart : o.startApp = 0
  swap
  · simp [hinit, hstart]
  by_cases hband : o.setBandwidth = 0
  swap
  · simp [hinit, hstart, hband]
  by_cases hi : (o.replies .vfmInitialize).Ok
  swap
  · simp [hinit, hstart, hband, hi, State.vcsResume]
  by_cases hd : (o.replies .vfmDeviceInitialize).Ok <;>
    by_cases hs : s.authSessionOpend = true <;>
    by_cases he : (o.replies .vendorEnterAuthSession).Ok <;>
    by_cases hc : (o.replies .vfmDeviceCalibrate).Ok <;>
    simp [hinit, hstart, hband, hi, hd, hs, he, hc, State.vcsResume, State.resumeDevice,
      State.afterCalibration, State.startApp]

theorem deviceCalibrate_tz : (m.deviceCalibrate r).tz = m.tz.afterCalibration r := by
  unfold Memory.deviceCalibrate State.afterCalibration State.keepCalibration
  by_cases hlen : m.tz.calibrateLen = 0 <;> by_cases hok : r.Ok <;>
    simp [hlen, hok, Memory.keep, Memory.sendCalibration, State.sendCmd]

theorem vcsInit_tz : (m.vcsInit o).tz = (m.tz.vcsInit o).2 := by
  rw [vcsInit_eq]
  unfold Memory.vcsInit
  split
  · rfl
  · exact deviceCalibrate_tz

/-! ### What the calls leave as it is -/

def State.SameCalibration (s t : State) : Prop :=
  t.calibrateLen = s.calibrateLen ∧ t.calibrateData = s.calibrateData

theorem upToCalibration_same (s : State) (o : AppOutcome) :
    match s.upToCalibration o with
    | .error t => s.SameCalibration t
    | .ok t => s.SameCalibration t := by
  unfold State.upToCalibration
  by_cases hinit : s.init = true
  · simp [hinit, State.SameCalibration]
  by_cases hstart : o.startApp = 0
  swap
  · simp [hinit, hstart, State.SameCalibration]
  by_cases hband : o.setBandwidth = 0
  swap
  · simp [hinit, hstart, hband, State.SameCalibration, State.startApp]
  by_cases hi : (o.replies .vfmInitialize).Ok <;>
    by_cases hd : (o.replies .vfmDeviceInitialize).Ok <;>
    by_cases hs : s.authSessionOpend = true <;>
    by_cases he : (o.replies .vendorEnterAuthSession).Ok <;>
    simp [hinit, hstart, hband, hi, hd, hs, he, State.SameCalibration, State.sendCmd,
      State.startApp]

theorem uninit_same {r1 r2 : Reply} {p : Int × State} (hp : s.vcsUninit r1 r2 r = some p) :
    s.SameCalibration p.2 := by
  obtain ⟨request, heq⟩ := vcsUninit_cases hp
  rw [heq]
  by_cases hs : s.authSessionOpend = true <;> by_cases hr : r2.result = 0 <;>
    simp [State.SameCalibration, State.shutdownApp, State.sendCmd, State.vcsUpdateAuthToken, hs, hr]

theorem session_same {p : Int × State}
    (hp : s.vcsStartAuthSession r = some p ∨ s.vcsStopAuthSession r = some p) :
    s.SameCalibration p.2 := by
  obtain ⟨-, request, token, opend, heq⟩ := session_cases hp
  rw [heq]
  exact ⟨rfl, rfl⟩

namespace Memory

/-! ### One step -/

theorem max_le_replyRoom : CALIBRATE_DATA_MAX_LENGTH ≤ replyRoom := by decide

theorem max_le_commandRoom : CALIBRATE_DATA_MAX_LENGTH ≤ commandRoom := by decide

theorem withTz_invariant (hm : m.Invariant) (hs : m.tz.SameCalibration s) :
    (m.withTz s).Invariant := by
  obtain ⟨hlen, hdata⟩ := hs
  refine ⟨⟨?_, ?_, hm.copies, hm.sent⟩, ?_, ?_⟩
  · exact hlen ▸ hm.len_nonneg
  · exact hlen ▸ hm.len_le
  · exact hm.received_len.trans hlen.symm
  · intro k hk
    change k < s.calibrateLen.toNat at hk
    rw [hlen] at hk
    exact (congrFun hdata k).trans (hm.received_bytes k hk)

theorem keep_invariant (hm : m.Invariant) (hr : Fits r) : (m.keep r).Invariant := by
  have hlo : 0 ≤ r.data 3 + 0xf := by
    have := hr.1
    omega
  refine ⟨⟨hlo, hr.2, ?_, hm.sent⟩, rfl, ?_⟩
  · intro c hc
    rcases List.mem_append.mp hc with hc | hc
    · exact hm.copies c hc
    · rcases List.mem_singleton.mp hc with rfl
      refine ⟨hlo, ?_, hr.2⟩
      exact Int.le_trans hr.2 (Int.ofNat_le.mpr max_le_replyRoom)
  · intro k hk
    exact if_pos hk

theorem keep_not_safe (hr : ¬Fits r) : ¬(m.keep r).Safe := by
  intro hsafe
  refine hr ⟨?_, hsafe.len_le⟩
  have h : 0 ≤ r.data 3 + 0xf := hsafe.len_nonneg
  omega

/-- What is sent back is what had been received last. -/
theorem calibrateRequest_carries (hm : m.Invariant) :
    m.tz.calibrateRequest.Carries m.received := by
  rw [Request.Carries, hm.received_len]
  constructor
  · simp only [State.calibrateRequest, ne_eq, ite_not]
  · intro k
    have hne0 : 4 + k ≠ 0 := by omega
    have hne1 : 4 + k ≠ 1 := by omega
    have hsub : 4 + k - 4 = k := by omega
    simp only [State.calibrateRequest, if_neg hne0, if_neg hne1, hsub, Nat.add_lt_add_iff_left,
      Nat.le_add_right, true_and]
    by_cases hk : k < m.tz.calibrateLen.toNat
    · rw [if_pos hk, if_pos hk, hm.received_bytes k hk]
    · rw [if_neg hk, if_neg hk]

theorem sendCalibration_invariant (hm : m.Invariant) : (m.sendCalibration r).Invariant := by
  refine ⟨⟨hm.len_nonneg, hm.len_le, ?_, ?_⟩, hm.received_len, hm.received_bytes⟩
  · intro c hc
    by_cases hlen : m.tz.calibrateLen = 0
    · simp only [sendCalibration, hlen, ne_eq, not_true_eq_false, if_false] at hc
      exact hm.copies c hc
    · simp only [sendCalibration, ne_eq, hlen, not_false_eq_true, if_true] at hc
      rcases List.mem_append.mp hc with hc | hc
      · exact hm.copies c hc
      · rcases List.mem_singleton.mp hc with rfl
        refine ⟨hm.len_nonneg, hm.len_le, ?_⟩
        exact Int.le_trans hm.len_le (Int.ofNat_le.mpr max_le_commandRoom)
  · intro e he
    rcases List.mem_append.mp he with he | he
    · exact hm.sent e he
    · rcases List.mem_singleton.mp he with rfl
      exact calibrateRequest_carries hm

theorem deviceCalibrate_invariant (hm : m.Invariant)
    (hr : m.tz.calibrateLen = 0 → r.Ok → Fits r) : (m.deviceCalibrate r).Invariant := by
  have hsend : (m.sendCalibration r).Invariant := sendCalibration_invariant hm
  unfold deviceCalibrate
  by_cases hok : r.Ok
  · by_cases hlen : (m.sendCalibration r).tz.calibrateLen = 0
    · simp only [hok, hlen, not_true_eq_false, if_false, if_true]
      exact keep_invariant hsend (hr hlen hok)
    · simpa only [hok, hlen, not_true_eq_false, if_false] using hsend
  · simpa only [hok, not_false_eq_true, if_true] using hsend

theorem deviceCalibrate_not_safe (hlen : m.tz.calibrateLen = 0) (hok : r.Ok) (hr : ¬Fits r) :
    ¬(m.deviceCalibrate r).Safe := by
  have hlen' : (m.sendCalibration r).tz.calibrateLen = 0 := hlen
  unfold deviceCalibrate
  simp only [hok, hlen', not_true_eq_false, if_false, if_true]
  exact keep_not_safe hr

theorem vcsUpdateCalData_invariant (hm : m.Invariant) (hr : r.Ok → Fits r) :
    (m.vcsUpdateCalData r).Invariant := by
  unfold vcsUpdateCalData
  by_cases hok : r.Ok
  · simp only [hok, not_true_eq_false, if_false]
    exact keep_invariant hm (hr hok)
  · simpa only [hok, not_false_eq_true, if_true] using hm

theorem vcsUpdateCalData_not_safe (hok : r.Ok) (hr : ¬Fits r) :
    ¬(m.vcsUpdateCalData r).Safe := by
  simp only [vcsUpdateCalData, hok, not_true_eq_false, if_false]
  exact keep_not_safe hr

variable {a : Action} {as : List Action} {start update : Reply}

theorem vcsStartCapture_some (h : m.vcsStartCapture start update = some m') :
    m' = if ¬start.Ok then m else m.vcsUpdateCalData update := by
  unfold vcsStartCapture at h
  cases happ : m.tz.qhandle with
  | none => simp [happ] at h
  | some app =>
    simp only [happ, Option.some.injEq] at h
    exact h.symm

/-- A step that meets its condition keeps the invariant. -/
theorem step_invariant (hm : m.Invariant) (ha : m.Meets a) (h : step m a = some m') :
    m'.Invariant := by
  cases a with
  | vcsInit o =>
    cases h
    have hsame := upToCalibration_same m.tz o
    unfold vcsInit
    cases hup : m.tz.upToCalibration o with
    | error s =>
      rw [hup] at hsame
      exact withTz_invariant hm hsame
    | ok s =>
      rw [hup] at hsame
      apply deviceCalibrate_invariant (withTz_invariant hm hsame)
      intro hlen
      exact ha s hup (hsame.1.symm.trans hlen)
  | vcsUninit r1 r2 r =>
    obtain ⟨p, hp, rfl⟩ := Option.map_eq_some_iff.mp h
    exact withTz_invariant hm (uninit_same hp)
  | vcsStartAuthSession r =>
    obtain ⟨p, hp, rfl⟩ := Option.map_eq_some_iff.mp h
    exact withTz_invariant hm (session_same (Or.inl hp))
  | vcsStopAuthSession r =>
    obtain ⟨p, hp, rfl⟩ := Option.map_eq_some_iff.mp h
    exact withTz_invariant hm (session_same (Or.inr hp))
  | capture start update =>
    rw [vcsStartCapture_some h]
    split
    · exact hm
    · next hstart => exact vcsUpdateCalData_invariant hm (ha (not_not.mp hstart))

/-- A step that does not ends where something does not fit. -/
theorem step_not_safe (ha : ¬m.Meets a) (h : step m a = some m') : ¬m'.Safe := by
  cases a with
  | vcsInit o =>
    cases h
    have hsame := upToCalibration_same m.tz o
    simp only [Meets, not_forall] at ha
    obtain ⟨s, hup, hlen, hok, hr⟩ := ha
    rw [hup] at hsame
    simp only [vcsInit, hup]
    exact deviceCalibrate_not_safe (m := m.withTz s) (hsame.1.trans hlen) hok hr
  | capture start update =>
    simp only [Meets, not_forall] at ha
    obtain ⟨hstart, hok, hr⟩ := ha
    rw [vcsStartCapture_some h, if_neg (not_not_intro hstart)]
    exact vcsUpdateCalData_not_safe hok hr
  | vcsUninit r1 r2 r => exact absurd trivial ha
  | vcsStartAuthSession r => exact absurd trivial ha
  | vcsStopAuthSession r => exact absurd trivial ha

theorem initial_invariant : initial.Invariant := by
  refine ⟨⟨Int.le_refl 0, by decide, ?_, ?_⟩, rfl, ?_⟩
  · intro c hc
    cases hc
  · intro e he
    cases he
  · intro k hk
    exact absurd hk (Nat.not_lt_zero k)

/-- Over a history the calibration data fit, are copied within bounds and are sent back as they
were received if and only if each length taken from a reply fits. -/
theorem safe_run_iff (hr : Machine.run step initial as = some m') :
    Machine.Along step Meets initial as ↔
      ∀ bs u, bs <+: as → Machine.run step initial bs = some u → u.Safe := by
  apply Machine.along_iff_forall_prefix (P := Invariant) _ _ _ hr initial_invariant
  · intro m a m' hm ha h
    exact step_invariant hm ha h
  · intro m hm
    exact hm.toSafe
  · intro m a m' _ ha h
    exact step_not_safe ha h

/-- An answer without an error that states `len` bytes of calibration data. -/
def stating (len : Int) : Reply :=
  { ret := 0, result := 0, data := fun i => if i = 3 then len - 0xf else 0 }

def starting (len : Int) : AppOutcome :=
  { startApp := 0, setBandwidth := 0, replies := fun _ => stating len }

/-- The app is started without calibration data, used for a capture, and started again. -/
def usual : List Action :=
  [.vcsInit (starting 0x20), .capture (stating 0) (stating 0x500c),
    .vcsUninit (stating 0) (stating 0) (stating 0), .vcsInit (starting 0x20)]

theorem safe_run_iff_usual :
    ∃ m, Machine.run step initial usual = some m ∧ m.Safe ∧ m.tz.calibrateLen = 0x500c := by
  have hsome : (Machine.run step initial usual).isSome := rfl
  obtain ⟨m, hrun⟩ := Option.isSome_iff_exists.mp hsome
  refine ⟨m, hrun, ?_, ?_⟩
  · apply (safe_run_iff hrun).mp _ usual m List.prefix_rfl hrun
    have hinit : ∀ m, Meets m (.vcsInit (starting 0x20)) := by
      intro m s _ _ _
      exact ⟨by decide, by decide⟩
    have hcapture : ∀ m, Meets m (.capture (stating 0) (stating 0x500c)) := by
      intro m _ _
      exact ⟨by decide, by decide⟩
    refine ⟨hinit _, fun _ _ => ⟨hcapture _, fun _ _ => ⟨trivial, fun _ _ => ⟨hinit _, ?_⟩⟩⟩⟩
    exact fun _ _ => trivial
  · have hlen : (Machine.run step initial usual).map (fun m => m.tz.calibrateLen) =
        some 0x500c := rfl
    rw [hrun] at hlen
    exact Option.some.inj hlen

/-- The first reply to `vfmDeviceCalibrate` states one byte more than the buffer has. -/
theorem not_safe_overlong :
    ¬∀ as m, Machine.run step initial as = some m → m.Safe := by
  intro h
  have hle := (h [.vcsInit (starting 0x500d)] _ rfl).len_le
  exact absurd hle (by decide)

end Memory

end Apq8084.Fingerprint.TrustedApp
