import Mathlib.Logic.Function.Basic
import Mathlib.Tactic.Common

/-! The enrolled templates of `fingerprint/fingerprint.c`: the array `tz.finger`, the database
tables behind it, and the functions that keep the two together. -/
namespace Apq8084.Fingerprint

def MAX_NUM_FINGERS : Nat := 5
def FINGER_DATA_MAX_LENGTH : Nat := 0x2900
def PAYLOAD_MAX_LENGTH : Nat := 0x24

abbrev Data := Fin FINGER_DATA_MAX_LENGTH → UInt8
abbrev Payload := Fin PAYLOAD_MAX_LENGTH → UInt8

/-- An index of `tz.finger`; fingers start at 1. -/
abbrev Slot := Fin (MAX_NUM_FINGERS + 1)

def slots : List Slot := [1, 2, 3, 4, 5]

/-- `finger_t`. -/
@[ext] structure Finger where
  exist : Bool
  data : Data
  payload : Payload

def Finger.zero : Finger := ⟨false, fun _ => 0, fun _ => 0⟩

/-- A row of a table `gid_…(id integer, data blob, payload blob)`. -/
structure Row where
  id : Int
  data : Data
  payload : Payload

inductive FingerprintError where
  | unableToProcess
  | timeout
  | noSpace
  | unableToRemove
deriving DecidableEq

/-- What `device.notify` is called with. -/
inductive Notice where
  | error (error_info : FingerprintError)
  | acquired (acquired_ret : Int)
  | enrolling (fid remaining : Int)
  | authenticated (fid : Int)
  | removed (fid : Int)
deriving DecidableEq

structure Templates where
  activeGid : UInt32
  /-- The tables by the number that `%d` prints for their group. -/
  tables : Int → Option (List Row)
  finger : Slot → Finger
  /-- Some access was outside `tz.finger`; nothing is known about the memory after it. -/
  outOfBounds : Bool
  notices : List Notice

namespace Templates

def tableName (gid : UInt32) : Int := gid.toBitVec.toInt

def rows (s : Templates) : List Row := (s.tables (tableName s.activeGid)).getD []

def slot? (id : Int) : Option Slot :=
  if h : 0 ≤ id ∧ id ≤ MAX_NUM_FINGERS then some ⟨id.toNat, by omega⟩ else none

def notify (s : Templates) (msg : Notice) : Templates := { s with notices := s.notices ++ [msg] }

def updateTable (s : Templates) (f : List Row → List Row) : Templates :=
  let name := tableName s.activeGid
  { s with tables := Function.update s.tables name ((s.tables name).map f) }

/-- Creating a table that exists fails, and the failure is ignored. -/
def dbCheckAndCreateTable (s : Templates) : Templates :=
  let name := tableName s.activeGid
  match s.tables name with
  | some _ => s
  | none => { s with tables := Function.update s.tables name (some []) }

/-- The loop body of `db_read_to_tz`. -/
def loadRow (s : Templates) (r : Row) : Templates :=
  match slot? r.id with
  | some id => { s with finger := Function.update s.finger id ⟨true, r.data, r.payload⟩ }
  | none => { s with outOfBounds := true }

/-- `memset(tz.finger, 0, MAX_NUM_FINGERS * sizeof(finger_t))`. -/
def clear (finger : Slot → Finger) (i : Slot) : Finger :=
  if (i : Nat) < MAX_NUM_FINGERS then .zero else finger i

/-- `db_read_to_tz` where there is no database of the former system. -/
def dbReadToTz (s : Templates) : Templates :=
  let s := dbCheckAndCreateTable s
  s.rows.foldl loadRow { s with finger := clear s.finger }

/-- `db_write_to_db(device, true, fid)`; `ret` is what `sqlite3_exec` returns. -/
def dbRemove (ret : Int) (s : Templates) (fid : Int) : Int × Templates :=
  let s := if ret = 0 then s.updateTable (·.filter fun r => r.id ≠ fid) else s
  match slot? fid with
  | some i => (ret, { s with finger := Function.update s.finger i .zero })
  | none => (ret, { s with outOfBounds := true })

/-- `db_write_to_db(device, false, fid)` for an insertion that succeeds. -/
def dbInsert (s : Templates) (fid : Slot) : Templates :=
  s.updateTable (· ++ [⟨(fid : Nat), (s.finger fid).data, (s.finger fid).payload⟩])

/-- The first loop of `fingerprint_enroll` and of `vcs_enroll`. -/
def firstFree (s : Templates) : Option Slot := slots.find? fun idx => !(s.finger idx).exist

/-- What a completed enrollment does to the templates. -/
def register (s : Templates) (idx : Slot) (data : Data) (payload : Payload) : Templates :=
  dbInsert { s with finger := Function.update s.finger idx ⟨true, data, payload⟩ } idx

def fingerprintSetActiveGroup (s : Templates) (gid : UInt32) : Templates :=
  dbReadToTz { s with activeGid := gid }

/-- One turn of the loop of `fingerprint_remove`, or its other branch. -/
def removeOne (exec : Int → Int) (s : Templates) (fid : Int) : Int × Templates :=
  let (ret, s) := dbRemove (exec fid) s fid
  (ret, if ret = 0 then s.notify (.removed fid) else s)

def removeAll (exec : Int → Int) (s : Templates) : Int × Templates :=
  slots.foldl (fun (p : Int × Templates) idx =>
    if (p.2.finger idx).exist then removeOne exec p.2 ((idx : Nat) : Int) else p) (0, s)

/-- `exec` is what `sqlite3_exec` returns for the deletion of each id. -/
def fingerprintRemove (exec : Int → Int) (s : Templates) (fid : UInt32) : Int × Templates :=
  let p := if fid = 0 then removeAll exec s else removeOne exec s fid.toBitVec.toInt
  (p.1, if p.1 ≠ 0 then p.2.notify (.error .unableToRemove) else p.2)

/-- `fingerprint_open` clears `tz` and reads the table of group 0. -/
def fingerprintOpen (tables : Int → Option (List Row)) : Templates :=
  dbReadToTz
    { activeGid := 0, tables, finger := fun _ => .zero, outOfBounds := false, notices := [] }

/-! Small facts about the pieces. -/

variable {s : Templates} {i j : Slot} {id : Int} {rs : List Row}

theorem slot?_coe (i : Slot) : slot? ((i : Nat) : Int) = some i := by
  have := i.isLt
  rw [slot?, dif_pos (by omega)]
  simp

theorem slot?_eq_some : slot? id = some i ↔ id = (i : Nat) := by
  constructor
  · intro h
    rw [slot?] at h
    split at h
    · cases h
      simp only [Int.toNat_of_nonneg, *]
    · cases h
  · rintro rfl
    exact slot?_coe i

theorem mem_slots : i ∈ slots ↔ i ≠ 0 := by
  revert i
  decide

/-- The rows that belong to one slot. -/
def rowsOf (rs : List Row) (i : Slot) : List Row := rs.filter fun r => r.id = (i : Nat)

theorem rowsOf_append (l k : List Row) : rowsOf (l ++ k) i = rowsOf l i ++ rowsOf k i :=
  List.filter_append l k

theorem mem_rowsOf {r : Row} : r ∈ rowsOf rs i ↔ r ∈ rs ∧ r.id = (i : Nat) := by
  simp [rowsOf]

theorem rowsOf_remove_self : rowsOf (rs.filter fun r => r.id ≠ (i : Nat)) i = [] := by
  simp [rowsOf, List.filter_filter]

theorem rowsOf_remove_other (hij : j ≠ i) :
    rowsOf (rs.filter fun r => r.id ≠ (i : Nat)) j = rowsOf rs j := by
  rw [rowsOf, List.filter_filter, rowsOf]
  refine List.filter_congr fun r _ => ?_
  have : (j : Nat) ≠ i := fun h => hij (Fin.ext h)
  by_cases hr : r.id = (j : Nat)
  · simp only [hr]
    simp
    omega
  · simp [hr]

/-- All tables that exist have good ids. -/
def ValidIds (s : Templates) : Prop :=
  ∀ name rs, s.tables name = some rs → ∀ r ∈ rs, 1 ≤ r.id ∧ r.id ≤ MAX_NUM_FINGERS

theorem ValidIds.rows (h : ValidIds s) : ∀ r ∈ s.rows, 1 ≤ r.id ∧ r.id ≤ MAX_NUM_FINGERS := by
  intro r hr
  cases ht : s.tables (tableName s.activeGid) with
  | none => simp [Templates.rows, ht] at hr
  | some rs =>
    simp only [Templates.rows, ht, Option.getD_some] at hr
    exact h _ rs ht r hr

/-- What the read loop leaves in a slot: the last of its rows. -/
theorem foldl_loadRow (hrs : ∀ r ∈ rs, 1 ≤ r.id ∧ r.id ≤ MAX_NUM_FINGERS) :
    ∃ finger, rs.foldl loadRow s = { s with finger } ∧
      ∀ i, finger i = match (rowsOf rs i).getLast? with
        | none => s.finger i
        | some r => ⟨true, r.data, r.payload⟩ := by
  induction rs generalizing s with
  | nil => exact ⟨s.finger, rfl, fun i => rfl⟩
  | cons r rs ih =>
    obtain ⟨hr, hrs⟩ := List.forall_mem_cons.mp hrs
    obtain ⟨id, hid⟩ : ∃ id, slot? r.id = some id := by
      rw [slot?, dif_pos (by omega)]
      exact ⟨_, rfl⟩
    obtain ⟨finger, hf, hfi⟩ := ih (s := loadRow s r) hrs
    refine ⟨finger, ?_, fun i => ?_⟩
    · rw [List.foldl_cons, hf]
      simp [loadRow, hid]
    · rw [hfi i]
      have hidr := slot?_eq_some.mp hid
      by_cases hi : r.id = (i : Nat)
      · have : rowsOf (r :: rs) i = r :: rowsOf rs i := by simp [rowsOf, hi]
        rw [this, List.getLast?_cons]
        have hii : id = i := Fin.ext (by omega)
        cases hl : (rowsOf rs i).getLast? with
        | none => simp [loadRow, hid, hii]
        | some q => simp
      · have : rowsOf (r :: rs) i = rowsOf rs i := by simp [rowsOf, hi]
        rw [this]
        have hii : i ≠ id := by
          rintro rfl
          exact hi hidr
        cases hl : (rowsOf rs i).getLast? with
        | none => simp [loadRow, hid, Function.update_of_ne hii]
        | some q => rfl

end Templates

end Apq8084.Fingerprint
