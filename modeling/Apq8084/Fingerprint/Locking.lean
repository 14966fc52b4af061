import Apq8084.Fingerprint.EnrollGate
import Apq8084.Lib.Locks

/-! The mutexes of `fingerprint/fingerprint.c` and `fingerprint/fingerprint_tz.c`. Functions are
kept as far as they lock and unlock; branches on what other code returns go both ways. -/
namespace Apq8084.Fingerprint.Locking

open Locks Locks.Code

/-- `vdev->lock`, `tz.timeout.lock`, `sensor.lock` and `tz.lock`; initialised with default
attributes. -/
inductive Mutex where
  | vdev | timeout | sensor | tz
deriving DecidableEq

/-! ### `fingerprint_tz.c` -/

def getTzState : Code Mutex := block [lock .tz, unlock .tz]

def setTzState : Code Mutex := block [lock .tz, unlock .tz]

/-- `if (get_tz_state() != STATE_IDLE && get_tz_state() != STATE_CANCEL)` -/
def ifBusy (c : Code Mutex) : Code Mutex :=
  block [getTzState, alt skip (block [getTzState, alt skip c])]

/-- `pthread_cond_wait`, or `pthread_cond_timedwait`. -/
def condWait (mutex : Mutex) : Code Mutex := block [unlock mutex, lock mutex]

def vcsCheckState : Code Mutex :=
  block
    [getTzState, alt (leave .ret) skip,
      getTzState, alt (block [setTzState, leave .ret]) skip]

/-- The senders of notices, except that for enrollments. -/
def sendNotice : Code Mutex := block [lock .vdev, unlock .vdev]

def sendErrorNotice : Code Mutex := sendNotice

def sendAcquiredNotice : Code Mutex := sendNotice

def sendRemoveNotice : Code Mutex := sendNotice

def sendAuthenticatedNotice : Code Mutex :=
  block [sendAcquiredNotice, lock .vdev, unlock .vdev]

def sendEnrollNotice : Code Mutex :=
  block [alt (leave .ret) skip, alt (leave .ret) skip, lock .vdev, unlock .vdev]

/-- The function calls itself as the last thing it does; here it starts over. -/
def vcsStartCapture : Code Mutex :=
  loop <| block
    [ -- `vfmCaptureStart`
      alt (leave .ret) skip,
      lock .sensor, unlock .sensor,
      lock .sensor,
      loop (block
        [call vcsCheckState, alt (leave .brk) skip,
          alt (leave .brk) skip,
          condWait .sensor]),
      unlock .sensor,
      call vcsCheckState, alt (leave .ret) skip,
      lock .sensor, unlock .sensor,
      loop (block
        [call vcsCheckState, alt (leave .ret) skip,
          alt (leave .cont) skip,
          alt (leave .brk) skip]),
      -- `vfmCaptureProcessData`
      alt (leave .ret) skip,
      alt sendAcquiredNotice (leave .ret)]

def vcsUninit : Code Mutex := setTzState

def vcsAuthenticate : Code Mutex :=
  block
    [upTo .goto (loop (block
        [getTzState, alt (leave .brk) skip,
          call vcsStartCapture, alt (leave .goto) skip,
          -- `vfmMatchImageToTemplates`
          alt (block [sendErrorNotice, leave .goto]) skip,
          alt (block [sendAcquiredNotice, leave .cont]) skip,
          leave .brk])),
      vcsUninit, setTzState,
      alt sendAuthenticatedNotice skip]

def vcsEnroll : Code Mutex :=
  block
    [ -- `vfmEnrollBegin`, `vendorUnknownA`
      alt (block [setTzState, sendErrorNotice, leave .ret]) skip,
      alt (block [setTzState, sendErrorNotice, leave .ret]) skip,
      upTo .goto (loop (block
        [getTzState, alt (leave .brk) skip,
          call vcsStartCapture, alt (leave .goto) skip,
          -- `vfmEnrollAddImage`
          alt (block [setTzState, sendErrorNotice, leave .ret]) skip,
          alt (block [sendAcquiredNotice, leave .cont]) skip,
          call sendEnrollNotice, alt (leave .brk) skip])),
      setTzState, vcsUninit]

def vcsTimeout : Code Mutex :=
  block
    [lock .timeout, condWait .timeout, unlock .timeout,
      alt
        (block
          [ifBusy (block [setTzState, loop (block [getTzState, alt (leave .brk) skip])]),
            sendErrorNotice])
        skip]

def vcsStartAuthenticate : Code Mutex :=
  block
    [loop (block
        [alt (leave .brk) skip,
          getTzState, alt (block [alt (leave .cont) skip, leave .ret]) skip]),
      setTzState,
      -- `vcs_init`
      alt (leave .ret) skip]

def vcsStartEnroll : Code Mutex :=
  block
    [getTzState, alt (leave .ret) skip,
      setTzState,
      -- `vcs_init`, `pthread_create`
      alt (leave .ret) skip, alt (leave .ret) skip]

/-! ### `fingerprint.c` -/

def sensorProcessSignal : Code Mutex :=
  block
    [alt (block [lock .timeout, unlock .timeout]) skip,
      lock .sensor, ifBusy skip, unlock .sensor]

def fingerprintGetAuthId : Code Mutex := block [lock .vdev, unlock .vdev, leave .ret]

def fingerprintSetActiveGroup : Code Mutex := block [lock .vdev, unlock .vdev, leave .ret]

def fingerprintAuthenticate : Code Mutex :=
  block [lock .vdev, call vcsStartAuthenticate, unlock .vdev, leave .ret]

/-- `s` is the device as the call sees it. -/
def fingerprintEnroll (s : Device) (hat : Option HwAuthToken) : Code Mutex :=
  match hat with
  | none => leave .ret
  | some hat =>
    if hat.version ≠ HW_AUTH_TOKEN_VERSION then leave .ret
    else if hat.challenge ≠ s.challenge ∧ hat.authenticator_type &&& HW_AUTH_FINGERPRINT = 0 then
      leave .ret
    else
      block
        [lock .vdev,
          if s.hal.shared.templates.firstFree = none then
            block [sendErrorNotice, unlock .vdev, leave .ret]
          else skip,
          call vcsStartEnroll, unlock .vdev, leave .ret]

def fingerprintPreEnroll : Code Mutex := block [lock .vdev, unlock .vdev, leave .ret]

def fingerprintPostEnroll : Code Mutex := block [lock .vdev, unlock .vdev, leave .ret]

def fingerprintCancel : Code Mutex :=
  block
    [alt (block [lock .timeout, unlock .timeout]) skip,
      ifBusy (block [setTzState, lock .sensor, unlock .sensor, loop (alt (leave .brk) skip)]),
      leave .ret]

def fingerprintEnumerate : Code Mutex :=
  block [alt (leave .ret) skip, lock .vdev, unlock .vdev, leave .ret]

def fingerprintRemove : Code Mutex :=
  block
    [alt (leave .ret) skip,
      alt
        (loop (block
          [alt (leave .brk) skip, alt (leave .cont) skip,
            lock .vdev, unlock .vdev, alt sendRemoveNotice skip]))
        (block [lock .vdev, unlock .vdev, alt sendRemoveNotice skip]),
      alt sendErrorNotice skip,
      leave .ret]

def setNotifyCallback : Code Mutex :=
  block [alt (leave .ret) skip, lock .vdev, unlock .vdev, leave .ret]

def fingerprintClose : Code Mutex :=
  block
    [alt (leave .ret) skip,
      call fingerprintCancel,
      lock .vdev, vcsUninit, unlock .vdev, leave .ret]

def fingerprintOpen : Code Mutex :=
  block
    [alt (leave .ret) skip, alt (leave .ret) skip,
      -- `open(SENSOR_FILE_NAME, O_RDWR)`
      alt (leave .ret) skip,
      lock .vdev, vcsUninit, vcsUninit, unlock .vdev, leave .ret]

/-- What a thread of the process runs. -/
inductive Entry where
  | fingerprint_open | fingerprint_close
  | fingerprint_pre_enroll | fingerprint_post_enroll
  | fingerprint_enroll (s : Device) (hat : Option HwAuthToken)
  | fingerprint_get_auth_id | fingerprint_set_active_group | set_notify_callback
  | fingerprint_authenticate | fingerprint_cancel
  | fingerprint_enumerate | fingerprint_remove
  | vcs_authenticate | vcs_enroll | vcs_timeout
  /-- Nothing of the HAL. -/
  | foreign

namespace Entry

def code : Entry → Code Mutex
  | fingerprint_open => fingerprintOpen
  | fingerprint_close => fingerprintClose
  | fingerprint_pre_enroll => fingerprintPreEnroll
  | fingerprint_post_enroll => fingerprintPostEnroll
  | fingerprint_enroll s hat => fingerprintEnroll s hat
  | fingerprint_get_auth_id => fingerprintGetAuthId
  | fingerprint_set_active_group => fingerprintSetActiveGroup
  | set_notify_callback => setNotifyCallback
  | fingerprint_authenticate => fingerprintAuthenticate
  | fingerprint_cancel => fingerprintCancel
  | fingerprint_enumerate => fingerprintEnumerate
  | fingerprint_remove => fingerprintRemove
  | vcs_authenticate => vcsAuthenticate
  | vcs_enroll => vcsEnroll
  | vcs_timeout => vcsTimeout
  | foreign => skip

/-- A call of `fingerprint_enroll` with a token that passes the checks, when all slots are
taken. -/
def NoSpace : Entry → Prop
  | fingerprint_enroll s hat =>
    (∃ token, hat = some token ∧ s.Admitted token) ∧ s.hal.shared.templates.firstFree = none
  | _ => False

end Entry

/-- A thread, with the handlers of `SIGUSR2` that run on it. -/
structure Thread where
  entry : Entry
  segments : List (Segment Mutex)
  runs : ∃ e, Runs entry.code (Locks.code segments) e
  handlers : ∀ ops, .interrupt ops ∈ segments → ∃ e, Runs sensorProcessSignal ops e

namespace Thread

def ops (T : Thread) : List (Op Mutex) := flat T.segments

/-- No handler runs while the thread holds a mutex that the handler takes. -/
def Undisturbed (T : Thread) : Prop :=
  Machine.Along Segment.after Locks.Undisturbed [] T.segments

end Thread

/-- Some thread takes `l` while it holds `h`. -/
def NestedIn (ts : Set Thread) (h l : Mutex) : Prop := ∃ T ∈ ts, Nested T.ops h l

/-- The order of the mutexes. -/
def rank : Mutex → Nat
  | .vdev => 0
  | .timeout => 1
  | .sensor => 2
  | .tz => 3

def above (h l : Mutex) : Bool := decide (rank h < rank l)

theorem above_irrefl (l : Mutex) : above l l = false := decide_eq_false (Nat.lt_irrefl _)

/-- Everything but an enrollment without space keeps to the order. -/
theorem entry_balanced {entry : Entry} (h : ¬entry.NoSpace) :
    balanced above entry.code = true := by
  cases entry with
  | fingerprint_enroll s hat =>
    simp only [Entry.code, fingerprintEnroll]
    cases hat with
    | none => rfl
    | some hat =>
      dsimp only
      split_ifs with hversion htype hfree
      · decide
      · decide
      · refine absurd ⟨⟨hat, rfl, not_not.mp hversion, ?_⟩, hfree⟩ h
        by_cases hc : hat.challenge = s.challenge
        · exact Or.inl hc
        · exact Or.inr fun h0 => htype ⟨hc, h0⟩
      · decide
  | _ => decide

theorem handler_balanced : balanced above sensorProcessSignal = true := by decide

/-- What a handler takes. -/
theorem handler_takes {ops : List (Op Mutex)} {e : Exit} (hr : Runs sensorProcessSignal ops e) :
    .lock .sensor ∈ ops ∧ .lock .tz ∈ ops ∧ .lock .vdev ∉ ops := by
  obtain rfl := straight_next (by decide) hr
  obtain ⟨xs, ys, rfl, hxs, hys⟩ : ∃ xs ys,
      ops = xs ++ .lock .sensor :: .lock .tz :: .unlock .tz :: (ys ++ [.unlock .sensor]) ∧
        (xs = [.lock .timeout, .unlock .timeout] ∨ xs = []) ∧
        (ys = [] ∨ ys = [.lock .tz, .unlock .tz]) := by
    simpa [sensorProcessSignal, ifBusy, getTzState, block, Code.lock, Code.unlock] using hr
  rcases hxs with rfl | rfl <;> rcases hys with rfl | rfl <;> simp

/-- What an interrupted thread may hold comes first in the order. -/
theorem handler_above {ops : List (Op Mutex)} {e : Exit} {held : List Mutex}
    (hr : Runs sensorProcessSignal ops e) (hfree : ∀ l, .lock l ∈ ops → l ∉ held) :
    ∀ l, .lock l ∈ ops → ∀ h ∈ held, above h l = true := by
  intro l hl h hh
  obtain ⟨hsensor, htz, hvdev⟩ := handler_takes hr
  have hne : h ≠ l := fun heq => hfree l hl (heq ▸ hh)
  have hns : h ≠ .sensor := fun heq => hfree .sensor hsensor (heq ▸ hh)
  have hnt : h ≠ .tz := fun heq => hfree .tz htz (heq ▸ hh)
  have hlv : l ≠ .vdev := fun heq => hvdev (heq ▸ hl)
  cases h <;> cases l <;> first | rfl | contradiction

namespace Thread

variable {T : Thread}

theorem handlers_balanced (T : Thread) :
    ∀ ops, .interrupt ops ∈ T.segments → Machine.run (acquire above) [] ops = some [] := by
  intro ops hops
  obtain ⟨e, hr⟩ := T.handlers ops hops
  exact balanced_run handler_balanced hr

theorem code_run (h : ¬T.entry.NoSpace) :
    Machine.run (acquire above) [] (Locks.code T.segments) = some [] := by
  obtain ⟨e, hr⟩ := T.runs
  exact balanced_run (entry_balanced h) hr

/-- With its handlers, too, a thread keeps to the order. -/
theorem ops_run (h : ¬T.entry.NoSpace) (hu : T.Undisturbed) :
    Machine.run (acquire above) [] T.ops = some [] := by
  refine run_flat T.handlers_balanced (code_run h) (Machine.along_mono ?_ hu)
  rintro g hg held hfree ops rfl
  obtain ⟨e, hr⟩ := T.handlers ops hg
  exact handler_above hr hfree

/-- The notice takes `vdev->lock` again. -/
theorem noSpace_not_taken (h : T.entry.NoSpace) : ¬Disciplined T.ops := by
  intro hd
  have htaken := taken_code T.handlers_balanced hd.taken
  obtain ⟨e, hr⟩ := T.runs
  have hcode : Locks.code T.segments =
      [.lock .vdev, .lock .vdev, .unlock .vdev, .unlock .vdev] := by
    cases hentry : T.entry with
    | fingerprint_enroll s hat =>
      rw [hentry] at h hr
      obtain ⟨⟨token, rfl, hversion, htype⟩, hfree⟩ := h
      have hpass : ¬(token.challenge ≠ s.challenge ∧
          token.authenticator_type &&& HW_AUTH_FINGERPRINT = 0) := by
        rintro ⟨hc, h0⟩
        exact htype.elim hc fun hne => hne h0
      simp only [Entry.code, fingerprintEnroll, if_neg (not_not.mpr hversion), if_neg hpass,
        if_pos hfree] at hr
      simp only [block, sendErrorNotice, sendNotice, Code.lock, Code.unlock, List.foldr_cons,
        List.foldr_nil, runs_seq, runs_op, runs_leave, runs_skip] at hr
      grind
    | _ =>
      rw [hentry] at h
      exact h.elim
  exact htaken [.lock .vdev] .vdev [.unlock .vdev, .unlock .vdev] hcode List.mem_cons_self

theorem undisturbed (h : ¬T.entry.NoSpace) (hd : Disciplined T.ops) : T.Undisturbed :=
  undisturbed_of_taken T.handlers_balanced (code_run h) hd.taken

end Thread

/-- The mutexes are taken once, given back, and nested in an order, exactly if no enrollment finds
all slots taken and no handler runs where a mutex that it takes is held. -/
theorem lock_discipline_iff (ts : Set Thread) :
    ((∀ T ∈ ts, Disciplined T.ops) ∧ ∀ l, ¬Relation.TransGen (NestedIn ts) l l) ↔
      ∀ T ∈ ts, ¬T.entry.NoSpace ∧ T.Undisturbed := by
  constructor
  · rintro ⟨hd, -⟩ T hT
    have hspace : ¬T.entry.NoSpace := fun h => Thread.noSpace_not_taken h (hd T hT)
    exact ⟨hspace, Thread.undisturbed hspace (hd T hT)⟩
  · intro h
    have hrun : ∀ T ∈ ts, Machine.run (acquire above) [] T.ops = some [] :=
      fun T hT => Thread.ops_run (h T hT).1 (h T hT).2
    refine ⟨fun T hT => disciplined_of_run above_irrefl (hrun T hT), fun l hcycle => ?_⟩
    have hlt : ∀ a b, NestedIn ts a b → rank a < rank b := by
      rintro a b ⟨T, hT, hn⟩
      exact of_decide_eq_true (nested_of_run (hrun T hT) hn)
    have hmono : ∀ {a b}, Relation.TransGen (NestedIn ts) a b → rank a < rank b := by
      intro a b hab
      induction hab with
      | single h => exact hlt _ _ h
      | tail _ h ih => exact Nat.lt_trans ih (hlt _ _ h)
    exact Nat.lt_irrefl _ (hmono hcycle)

/-- All fingers are enrolled. -/
def fullDevice : Device :=
  let hal := Device.opened.hal
  let finger : Slot → Finger := fun i => { Finger.zero with exist := decide (0 < (i : Nat)) }
  let templates := { hal.shared.templates with finger }
  { Device.opened with hal := { hal with shared := { hal.shared with templates } } }

def token : HwAuthToken := ⟨0, 0, 1, 2⟩

/-- A call of `fingerprint_enroll` that no handler interrupts. -/
def sixthFinger : Thread where
  entry := .fingerprint_enroll fullDevice (some token)
  segments := [.own (.lock .vdev), .own (.lock .vdev), .own (.unlock .vdev), .own (.unlock .vdev)]
  runs := by
    have hnotice : Runs sendErrorNotice [.lock .vdev, .unlock .vdev] .next :=
      .seq (.op _) (.seq (.op _) .skip)
    have hbranch : Runs (block [sendErrorNotice, unlock .vdev, leave .ret])
        [.lock .vdev, .unlock .vdev, .unlock .vdev] .ret :=
      .seq hnotice (.seq (.op _) (.seqLeft (.leave _) nofun))
    have hcall : Runs (block [lock .vdev, block [sendErrorNotice, unlock .vdev, leave .ret],
          call vcsStartEnroll, unlock .vdev, leave .ret])
        [.lock .vdev, .lock .vdev, .unlock .vdev, .unlock .vdev] .ret :=
      .seq (.op _) (.seqLeft hbranch nofun)
    exact ⟨.ret, hcall⟩
  handlers := by simp

theorem sixthFinger_locks_twice : ¬Disciplined sixthFinger.ops := by
  intro hd
  exact hd.taken [.lock .vdev] .vdev [.unlock .vdev, .unlock .vdev] rfl List.mem_cons_self

end Apq8084.Fingerprint.Locking
