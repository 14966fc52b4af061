import Mathlib.Order.Fin.Basic
import Apq8084.Fingerprint.Groups

/-! The conversion of the former system's `template.db` in `fingerprint/fingerprint.c`, and the
runs in which any of its calls may fail. -/
namespace Apq8084.Fingerprint.Migration

open Templates

/-- The second and third column of a row of `enrollments`. -/
structure Enrollment where
  id : Int
  data : List UInt8

/-- The database at `SAMSUNG_FP_DB_PATH`. -/
structure SamsungDb where
  enrollments : List Enrollment
  /-- The third column of the first row of `properties`, empty if there is no row. -/
  payload : List UInt8

/-- Whether the calls of `db_convert_old_db` succeed. -/
structure Conversion where
  opened : Bool
  inserted : Slot → Bool
  closed : Bool
  removed : Bool

structure Device where
  /-- `none` is a path at which there is nothing. -/
  samsung : Option SamsungDb
  templates : Templates

/-- `memcpy` of all of `src`, as far as `dst` has room. -/
def memcpy {n : Nat} (dst : Fin n → UInt8) (src : List UInt8) : Fin n → UInt8 :=
  fun k => src.getD k (dst k)

def loaded (f : Finger) (data : List UInt8) : Finger :=
  { f with exist := true, data := memcpy f.data data }

def bound (f : Finger) (payload : List UInt8) : Finger :=
  { f with payload := memcpy f.payload payload }

/-- The body of the loop over `enrollments`. -/
def loadEnrollment (s : Templates) (r : Enrollment) : Templates :=
  match slot? r.id with
  | some id =>
    { s with
      finger := Function.update s.finger id (loaded (s.finger id) r.data)
      outOfBounds := s.outOfBounds || decide (FINGER_DATA_MAX_LENGTH < r.data.length) }
  | none => { s with outOfBounds := true }

/-- The body of the loop over the fingers; the result of `db_write_to_db` is ignored. -/
def writeFinger (inserted : Slot → Bool) (payload : List UInt8) (s : Templates) (idx : Slot) :
    Templates :=
  if (s.finger idx).exist then
    let s := { s with
      finger := Function.update s.finger idx (bound (s.finger idx) payload)
      outOfBounds := s.outOfBounds || decide (PAYLOAD_MAX_LENGTH < payload.length) }
    if inserted idx then dbInsert s idx else s
  else s

/-- What is left of the old database, and the templates. -/
def dbConvertOldDb (c : Conversion) (db : SamsungDb) (s : Templates) :
    Option SamsungDb × Templates :=
  let s := { s with finger := clear s.finger }
  if c.opened then
    let s := db.enrollments.foldl loadEnrollment s
    let s := slots.foldl (writeFinger c.inserted db.payload) s
    (if c.closed && c.removed then none else some db, s)
  else (some db, s)

def dbReadToTz (c : Conversion) (d : Device) : Device :=
  match d.samsung with
  | none => { d with templates := Templates.dbReadToTz d.templates }
  | some db =>
    let (samsung, templates) := dbConvertOldDb c db (dbCheckAndCreateTable d.templates)
    { samsung, templates }

def fingerprintOpen (c : Conversion) (d : Device) : Device :=
  dbReadToTz c { d with
    templates := {
      activeGid := 0, tables := d.templates.tables, finger := fun _ => .zero, outOfBounds := false
      notices := [] } }

def fingerprintSetActiveGroup (c : Conversion) (d : Device) (gid : UInt32) : Device :=
  dbReadToTz c { d with templates := { d.templates with activeGid := gid } }

inductive Operation where
  | fingerprintOpen (c : Conversion)
  | setActiveGroup (c : Conversion) (gid : UInt32)
  | enroll (data : Data) (payload : Payload)
  /-- `exec` is what `sqlite3_exec` returns for the deletion of each id. -/
  | remove (exec : Int → Int) (fid : UInt32)

/-- An enrollment takes place only where a slot is free. -/
def step (d : Device) : Operation → Option Device
  | .fingerprintOpen c => some (fingerprintOpen c d)
  | .setActiveGroup c gid => some (fingerprintSetActiveGroup c d gid)
  | .enroll data payload => d.templates.firstFree.map fun idx =>
    { d with templates := register d.templates idx data payload }
  | .remove exec fid =>
    some { d with templates := (fingerprintRemove exec d.templates fid).2 }

/-- The rows of one finger. -/
def enrolled (rs : List Enrollment) (i : Slot) : List Enrollment :=
  rs.filter fun r => r.id = (i : Nat)

/-- What the rows make of a slot. -/
def loadAll (rs : List Enrollment) (f : Finger) : Finger :=
  rs.foldl (fun f r => loaded f r.data) f

/-- What the database holds for a finger, over what the slot holds already. -/
def SamsungDb.over (db : SamsungDb) (i : Slot) (f : Finger) : Finger :=
  bound (loadAll (enrolled db.enrollments i) f) db.payload

def row (f : Finger) (i : Slot) : Row := ⟨(i : Nat), f.data, f.payload⟩

/-- Fingers as the array has them, and blobs it has room for. -/
structure SamsungDb.WellFormed (db : SamsungDb) : Prop where
  ids : ∀ r ∈ db.enrollments, 1 ≤ r.id ∧ r.id ≤ MAX_NUM_FINGERS
  data : ∀ r ∈ db.enrollments, r.data.length ≤ FINGER_DATA_MAX_LENGTH
  payload : db.payload.length ≤ PAYLOAD_MAX_LENGTH

/-- The slot is cleared before, or the blobs fill it. -/
def SamsungDb.Whole (db : SamsungDb) (i : Slot) : Prop :=
  (i : Nat) < MAX_NUM_FINGERS ∨
    (∀ r ∈ enrolled db.enrollments i, FINGER_DATA_MAX_LENGTH ≤ r.data.length) ∧
      PAYLOAD_MAX_LENGTH ≤ db.payload.length

variable {s s' : Templates} {d t : Device} {db : SamsungDb} {c : Conversion} {i j : Slot}
variable {rs : List Enrollment} {payload : List UInt8}

theorem memcpy_full {n : Nat} {src : List UInt8} (h : n ≤ src.length) (dst dst' : Fin n → UInt8) :
    memcpy dst src = memcpy dst' src := by
  funext k
  have hk : (k : Nat) < src.length := Nat.lt_of_lt_of_le k.isLt h
  simp [memcpy, List.getD_eq_getElem?_getD, hk]

/-- What the first loop leaves in each slot. -/
theorem foldl_loadEnrollment (hids : ∀ r ∈ rs, 1 ≤ r.id ∧ r.id ≤ MAX_NUM_FINGERS)
    (hdata : ∀ r ∈ rs, r.data.length ≤ FINGER_DATA_MAX_LENGTH) :
    ∃ finger, rs.foldl loadEnrollment s = { s with finger } ∧
      ∀ i, finger i = loadAll (enrolled rs i) (s.finger i) := by
  induction rs generalizing s with
  | nil => exact ⟨s.finger, rfl, fun i => rfl⟩
  | cons r rs ih =>
    obtain ⟨hid, hids⟩ := List.forall_mem_cons.mp hids
    obtain ⟨hlen, hdata⟩ := List.forall_mem_cons.mp hdata
    obtain ⟨id, hslot⟩ : ∃ id, slot? r.id = some id := by
      rw [slot?, dif_pos (by omega)]
      exact ⟨_, rfl⟩
    have hidr := slot?_eq_some.mp hslot
    have hload : loadEnrollment s r =
        { s with finger := Function.update s.finger id (loaded (s.finger id) r.data) } := by
      simp [loadEnrollment, hslot, Nat.not_lt.mpr hlen]
    obtain ⟨finger, hf, hfi⟩ := ih (s := loadEnrollment s r) hids hdata
    refine ⟨finger, ?_, fun i => ?_⟩
    · rw [List.foldl_cons, hf, hload]
    · rw [hfi i, hload]
      by_cases hi : i = id
      · rw [hi]
        simp [enrolled, loadAll, hidr]
      · have hne : r.id ≠ (i : Nat) := fun h => hi (Fin.ext (by omega))
        simp [enrolled, hne, hi]

/-- One turn of the second loop writes to its own slot and appends at most its own row. -/
theorem writeFinger_eq {table : List Row} (inserted : Slot → Bool)
    (hlen : payload.length ≤ PAYLOAD_MAX_LENGTH)
    (htable : s.tables (tableName s.activeGid) = some table) :
    ∃ added, writeFinger inserted payload s i =
        { s with
          finger := Function.update s.finger i
            (if (s.finger i).exist then bound (s.finger i) payload else s.finger i)
          tables := Function.update s.tables (tableName s.activeGid) (some (table ++ added)) } ∧
      added = if (s.finger i).exist ∧ inserted i then [row (bound (s.finger i) payload) i]
        else [] := by
  refine ⟨_, ?_, rfl⟩
  unfold writeFinger
  cases hexist : (s.finger i).exist with
  | false => simp [← htable]
  | true =>
    cases hinserted : inserted i with
    | false => simp [Nat.not_lt.mpr hlen, ← htable]
    | true => simp [Nat.not_lt.mpr hlen, dbInsert, updateTable, htable, row]

theorem foldl_writeFinger {l : List Slot} {table : List Row} (inserted : Slot → Bool) (hl : l.Nodup)
    (hlen : payload.length ≤ PAYLOAD_MAX_LENGTH)
    (htable : s.tables (tableName s.activeGid) = some table) :
    ∃ finger added, l.foldl (writeFinger inserted payload) s =
        { s with
          finger
          tables := Function.update s.tables (tableName s.activeGid) (some (table ++ added)) } ∧
      (∀ i, finger i =
        if i ∈ l ∧ (s.finger i).exist then bound (s.finger i) payload else s.finger i) ∧
      (∀ i, rowsOf added i = if i ∈ l ∧ (s.finger i).exist ∧ inserted i then
        [row (bound (s.finger i) payload) i] else []) ∧
      ∀ r ∈ added, ∃ i ∈ l, r.id = (i : Nat) := by
  induction l generalizing s table with
  | nil =>
    refine ⟨s.finger, [], ?_, by simp, by simp [rowsOf], by simp⟩
    simp [← htable]
  | cons i l ih =>
    obtain ⟨hi, hl⟩ := List.nodup_cons.mp hl
    obtain ⟨first, hfirst, hrow⟩ := writeFinger_eq (i := i) inserted hlen htable
    have hnext : (writeFinger inserted payload s i).tables
        (tableName (writeFinger inserted payload s i).activeGid) = some (table ++ first) := by
      simp [hfirst]
    obtain ⟨finger, added, hrest, hfinger, hadded, hids⟩ := ih hl hnext
    refine ⟨finger, first ++ added, ?_, fun j => ?_, fun j => ?_, ?_⟩
    · rw [List.foldl_cons, hrest, hfirst]
      simp
    · rw [hfinger j, hfirst]
      by_cases hj : j = i
      · rw [hj]
        simp [hi]
      · simp [hj]
    · rw [rowsOf_append, hadded j, hfirst, hrow]
      by_cases hj : j = i
      · rw [hj]
        simp only [hi, false_and, if_false, List.append_nil, List.mem_cons, true_or, true_and]
        split <;> simp [rowsOf, row]
      · have hne : ((i : Nat) : Int) ≠ (j : Nat) := fun h => hj (Fin.ext (by omega))
        have hnone : rowsOf (if (s.finger i).exist ∧ inserted i then
            [row (bound (s.finger i) payload) i] else []) j = [] := by
          split <;> simp [rowsOf, row, hne]
        simp [hnone, hj]
    · intro r hr
      rcases List.mem_append.mp hr with hr | hr
      · rw [hrow] at hr
        split at hr
        · rw [List.mem_singleton.mp hr]
          exact ⟨i, List.mem_cons_self, rfl⟩
        · cases hr
      · obtain ⟨k, hk, hid⟩ := hids r hr
        exact ⟨k, List.mem_cons_of_mem i hk, hid⟩

theorem loadAll_exist (f : Finger) : (loadAll rs f).exist = true ↔ f.exist = true ∨ rs ≠ [] := by
  induction rs generalizing f with
  | nil => simp [loadAll]
  | cons r rs ih =>
    have hstep : loadAll (r :: rs) f = loadAll rs (loaded f r.data) := rfl
    rw [hstep, ih]
    simp [loaded]

theorem loadAll_payload (f : Finger) (payload : Payload) :
    loadAll rs { f with payload } = { loadAll rs f with payload } := by
  induction rs generalizing f with
  | nil => rfl
  | cons r rs ih => exact ih (loaded f r.data)

/-- What the slot held before makes no difference. -/
theorem over_clear (hwhole : db.Whole i) (hmem : enrolled db.enrollments i ≠ [])
    (finger : Slot → Finger) : db.over i (clear finger i) = db.over i .zero := by
  rcases hwhole with hi | ⟨hdata, hpayload⟩
  · rw [clear, if_pos hi]
  · generalize clear finger i = f
    unfold SamsungDb.over
    cases hrs : enrolled db.enrollments i with
    | nil => exact absurd hrs hmem
    | cons r rs =>
      have hfull : FINGER_DATA_MAX_LENGTH ≤ r.data.length := hdata r (by simp [hrs])
      have hfirst : loaded f r.data = { loaded .zero r.data with payload := f.payload } := by
        simp only [loaded, memcpy_full hfull f.data Finger.zero.data]
      have hload : loadAll (r :: rs) f =
          { loadAll (r :: rs) .zero with payload := f.payload } := by
        show loadAll rs (loaded f r.data) = _
        rw [hfirst, loadAll_payload]
        rfl
      simp only [hload, bound]
      rw [memcpy_full hpayload f.payload (loadAll (r :: rs) .zero).payload]

/-- A conversion shows the fingers of the old database and appends their rows. -/
theorem dbConvertOldDb_eq {table : List Row} (hdb : db.WellFormed) (hopened : c.opened = true)
    (htable : s.tables (tableName s.activeGid) = some table) :
    ∃ finger added, dbConvertOldDb c db s =
        (if c.closed && c.removed then none else some db,
          { s with
            finger
            tables := Function.update s.tables (tableName s.activeGid) (some (table ++ added)) }) ∧
      (∀ i ∈ slots, finger i = if enrolled db.enrollments i ≠ [] ∨ (clear s.finger i).exist then
        db.over i (clear s.finger i) else clear s.finger i) ∧
      (∀ i ∈ slots, rowsOf added i =
        if (enrolled db.enrollments i ≠ [] ∨ (clear s.finger i).exist) ∧ c.inserted i then
          [row (db.over i (clear s.finger i)) i] else []) ∧
      ∀ r ∈ added, 1 ≤ r.id ∧ r.id ≤ MAX_NUM_FINGERS := by
  obtain ⟨first, hfirst, hload⟩ :=
    foldl_loadEnrollment (s := { s with finger := clear s.finger }) hdb.ids hdb.data
  have hnodup : slots.Nodup := by decide
  obtain ⟨finger, added, hrest, hfinger, hadded, hids⟩ :=
    foldl_writeFinger (s := { s with finger := first }) c.inserted hnodup hdb.payload htable
  have hexist : ∀ i, (first i).exist = true ↔
      enrolled db.enrollments i ≠ [] ∨ (clear s.finger i).exist := by
    intro i
    rw [hload i, loadAll_exist, or_comm]
  refine ⟨finger, added, ?_, fun i hi => ?_, fun i hi => ?_, fun r hr => ?_⟩
  · simp only [dbConvertOldDb, hopened, if_true, hfirst, hrest]
  · rw [hfinger i]
    simp only [hi, true_and, hexist i]
    split
    · rw [hload i]
      rfl
    · rename_i hnone
      have hnil : enrolled db.enrollments i = [] := by
        by_contra h
        exact hnone (.inl h)
      rw [hload i, hnil]
      rfl
  · rw [hadded i]
    simp only [hi, true_and, hexist i]
    rw [hload i]
    rfl
  · obtain ⟨i, hi, hid⟩ := hids r hr
    have hne : (i : Nat) ≠ 0 := fun h => mem_slots.mp hi (Fin.ext h)
    have hlt := i.isLt
    rw [hid]
    omega

/-! Runs. -/

/-- The finger of the old database cannot be lost: it is still there, or it is what a table holds
last for its slot. -/
structure Survives (db : SamsungDb) (i : Slot) (d : Device) : Prop where
  inBounds : d.templates.outOfBounds = false
  validIds : ValidIds d.templates
  kept : d.samsung = some db ∨ d.samsung = none ∧ ∃ gid table,
    d.templates.tables (tableName gid) = some table ∧
      (rowsOf table i).getLast? = some (row (db.over i .zero) i)

/-- The operation does not delete the finger, enroll another one in its place or lose its row. -/
def Spares (i : Slot) (d : Device) : Operation → Prop
  | .fingerprintOpen c | .setActiveGroup c _ => c.inserted i = true
  | .enroll .. => d.templates.firstFree ≠ some i
  | .remove _ fid => fid ≠ 0 ∧ fid.toNat ≤ MAX_NUM_FINGERS ∧ fid.toBitVec.toInt ≠ (i : Nat)

theorem validIds_create (h : ValidIds s) : ValidIds (dbCheckAndCreateTable s) := by
  obtain ⟨tables, hcreate, htable, hother⟩ := dbCheckAndCreateTable_eq s
  exact h.of_rows h.rows htable hother (by rw [hcreate])

/-- A write to a table keeps the rows of other slots, and what is written there has good ids. -/
theorem Survives.write (h : Survives db i d) {g : List Row → List Row}
    (hsamsung : t.samsung = d.samsung) (hbounds : t.templates.outOfBounds = false)
    (htables : t.templates.tables = (d.templates.updateTable g).tables)
    (hids : ∀ table : List Row, (∀ r ∈ table, 1 ≤ r.id ∧ r.id ≤ MAX_NUM_FINGERS) →
      ∀ r ∈ g table, 1 ≤ r.id ∧ r.id ≤ MAX_NUM_FINGERS)
    (hrows : ∀ table, rowsOf (g table) i = rowsOf table i) : Survives db i t := by
  refine ⟨hbounds, ?_, ?_⟩
  · intro name table htable
    rw [htables] at htable
    by_cases hname : name = tableName d.templates.activeGid
    · simp only [updateTable, hname, Function.update_self, Option.map_eq_some_iff] at htable
      obtain ⟨old, hold, rfl⟩ := htable
      exact hids old (h.validIds _ old hold)
    · exact h.validIds name table ((Function.update_of_ne hname _ _).symm.trans htable)
  · rw [hsamsung]
    refine h.kept.imp_right ?_
    rintro ⟨hnone, gid, table, htable, hlast⟩
    refine ⟨hnone, gid, ?_⟩
    rw [htables]
    by_cases hgid : tableName gid = tableName d.templates.activeGid
    · refine ⟨g table, ?_, by rw [hrows, hlast]⟩
      rw [hgid] at htable
      simp [updateTable, hgid, htable]
    · exact ⟨table, (Function.update_of_ne hgid _ _).trans htable, hlast⟩

theorem survives_read (hdb : db.WellFormed) (hi : i ∈ slots)
    (hmem : enrolled db.enrollments i ≠ []) (hwhole : db.Whole i) (h : Survives db i d)
    (hinserted : c.inserted i = true) : Survives db i (dbReadToTz c d) := by
  obtain ⟨hbounds, hvalid, hkept⟩ := h
  rcases hkept with hsome | ⟨hnone, gid, table, htable, hlast⟩
  · simp only [dbReadToTz, hsome]
    obtain ⟨tables, hcreate, hactive, -⟩ := dbCheckAndCreateTable_eq d.templates
    have hcreated := validIds_create hvalid
    rw [hcreate] at hcreated ⊢
    cases hopened : c.opened with
    | false =>
      simp only [dbConvertOldDb, hopened]
      exact ⟨hbounds, hcreated, .inl rfl⟩
    | true =>
      obtain ⟨finger, added, heq, -, hadded, hids⟩ :=
        dbConvertOldDb_eq (s := { d.templates with tables }) hdb hopened hactive
      rw [heq]
      refine ⟨hbounds, ?_, ?_⟩
      · refine hcreated.of_rows ?_ (Function.update_self ..)
          (fun m hm => Function.update_of_ne hm _ _) rfl
        intro r hr
        rcases List.mem_append.mp hr with hr | hr
        · exact hvalid.rows r hr
        · exact hids r hr
      · by_cases hgone : (c.closed && c.removed) = true
        · refine .inr ⟨by simp [hgone], d.templates.activeGid, _, Function.update_self .., ?_⟩
          rw [rowsOf_append, hadded i hi, if_pos ⟨.inl hmem, hinserted⟩, over_clear hwhole hmem]
          exact List.getLast?_concat
        · exact .inl (by simp [hgone])
  · simp only [dbReadToTz, hnone]
    obtain ⟨tables, finger, heq, hactive, hother, -⟩ := dbReadToTz_eq hvalid
    refine ⟨?_, dbReadToTz_validIds hvalid, .inr ⟨rfl, gid, table, ?_, hlast⟩⟩
    · rw [heq]
      exact hbounds
    · rw [heq]
      by_cases hgid : tableName gid = tableName d.templates.activeGid
      · simp only [hgid, hactive, rows]
        rw [← hgid, htable]
        rfl
      · exact (hother _ hgid).trans htable

theorem survives_step {op : Operation} (hdb : db.WellFormed) (hi : i ∈ slots)
    (hmem : enrolled db.enrollments i ≠ []) (hwhole : db.Whole i) (h : Survives db i d)
    (hop : Spares i d op) (hs : step d op = some t) : Survives db i t := by
  cases op with
  | fingerprintOpen c =>
    cases hs
    exact survives_read hdb hi hmem hwhole ⟨rfl, h.validIds, h.kept⟩ hop
  | setActiveGroup c gid =>
    cases hs
    exact survives_read hdb hi hmem hwhole ⟨h.inBounds, h.validIds, h.kept⟩ hop
  | enroll data payload =>
    obtain ⟨idx, hidx, rfl⟩ := Option.map_eq_some_iff.mp hs
    have hne : idx ≠ i := fun h => hop (h ▸ hidx)
    have hidne : ((idx : Nat) : Int) ≠ (i : Nat) := fun h => hne (Fin.ext (by omega))
    have hid : 1 ≤ ((idx : Nat) : Int) ∧ ((idx : Nat) : Int) ≤ MAX_NUM_FINGERS := by
      have hpos : (idx : Nat) ≠ 0 := fun h => mem_slots.mp (firstFree_exist hidx).1 (Fin.ext h)
      have hlt := idx.isLt
      omega
    have htables : (register d.templates idx data payload).tables =
        (d.templates.updateTable (· ++ [⟨(idx : Nat), data, payload⟩])).tables := by
      simp [register, dbInsert, updateTable]
    refine h.write rfl h.inBounds htables ?_ ?_
    · intro table htable r hr
      rcases List.mem_append.mp hr with hr | hr
      · exact htable r hr
      · rw [List.mem_singleton.mp hr]
        exact hid
    · intro table
      rw [rowsOf_append]
      simp [rowsOf, hidne]
  | remove exec fid =>
    cases hs
    obtain ⟨hzero, hfid, hne⟩ := hop
    obtain ⟨j, hj⟩ := Option.isSome_iff_exists.mp (slot?_fid.mpr hfid)
    have hid := slot?_eq_some.mp hj
    have hji : j ≠ i := fun hji => hne (hji ▸ hid)
    have hremove : (fingerprintRemove exec d.templates fid).2.outOfBounds = false ∧
        (fingerprintRemove exec d.templates fid).2.tables = (d.templates.updateTable fun table =>
          if exec (j : Nat) = 0 then table.filter fun r => r.id ≠ (j : Nat) else table).tables := by
      have hbounds := h.inBounds
      by_cases hexec : exec (j : Nat) = 0
      · simp [fingerprintRemove, hzero, removeOne, dbRemove, hid, slot?_coe, hexec, notify,
          updateTable, hbounds]
      · simp [fingerprintRemove, hzero, removeOne, dbRemove, hid, slot?_coe, hexec, notify,
          updateTable, hbounds]
    refine h.write rfl hremove.1 hremove.2 ?_ ?_
    · intro table htable r hr
      split at hr
      · exact htable r (List.mem_filter.mp hr).1
      · exact htable r hr
    · intro table
      split
      · exact rowsOf_remove_other hji.symm
      · rfl

/-- What a surviving finger is good for: a group in which it is shown. -/
theorem Survives.shown (hdb : db.WellFormed) (hi : i ∈ slots)
    (hmem : enrolled db.enrollments i ≠ []) (hwhole : db.Whole i) (h : Survives db i d) :
    ∃ gid, ∀ c, c.opened = true →
      (fingerprintSetActiveGroup c d gid).templates.finger i = db.over i .zero := by
  have hexist : (db.over i .zero).exist = true := (loadAll_exist _).mpr (.inr hmem)
  rcases h.kept with hsome | ⟨hnone, gid, table, htable, hlast⟩
  · refine ⟨d.templates.activeGid, fun c hopened => ?_⟩
    obtain ⟨tables, hcreate, hactive, -⟩ := dbCheckAndCreateTable_eq d.templates
    obtain ⟨finger, added, heq, hfinger, -⟩ :=
      dbConvertOldDb_eq (s := { d.templates with tables }) hdb hopened hactive
    have hread : (fingerprintSetActiveGroup c d d.templates.activeGid).templates.finger =
        finger := by
      simp only [fingerprintSetActiveGroup, dbReadToTz, hsome]
      rw [hcreate, heq]
    rw [hread, hfinger i hi, if_pos (.inl hmem), over_clear hwhole hmem]
  · refine ⟨gid, fun c _ => ?_⟩
    have hvalid : ValidIds { d.templates with activeGid := gid } := h.validIds
    obtain ⟨tables, finger, heq, -, -, hfinger⟩ := dbReadToTz_eq hvalid
    have hrows : ({ d.templates with activeGid := gid } : Templates).rows = table := by
      simp [rows, htable]
    simp only [fingerprintSetActiveGroup, dbReadToTz, hnone]
    rw [heq]
    show finger i = _
    rw [hfinger i, hrows, hlast]
    simp [row, ← hexist]

def oneOldFinger : SamsungDb := ⟨[⟨1, [7, 8]⟩], [9]⟩

theorem oneOldFinger_wellFormed : oneOldFinger.WellFormed := by
  refine ⟨?_, ?_, ?_⟩ <;> simp [oneOldFinger, MAX_NUM_FINGERS, FINGER_DATA_MAX_LENGTH,
    PAYLOAD_MAX_LENGTH]

def upgraded : Device :=
  ⟨some oneOldFinger, ⟨0, fun _ => none, fun _ => .zero, false, []⟩⟩

/-- The old database cannot be deleted, and the device is restarted with another group. -/
def undeleted : List Operation :=
  [.fingerprintOpen ⟨true, fun _ => true, true, false⟩,
    .setActiveGroup ⟨true, fun _ => true, true, true⟩ 10,
    .fingerprintOpen ⟨true, fun _ => true, true, true⟩]

theorem clear_zero (i : Slot) : clear (fun _ => .zero) i = .zero := by
  unfold clear
  split <;> rfl

theorem zero_exist : Finger.zero.exist = false := rfl

/-- What a start with the old database leaves behind. -/
theorem open_converts (hdb : db.WellFormed) (hsamsung : d.samsung = some db)
    (hopened : c.opened = true) (hvalid : ValidIds d.templates) :
    (fingerprintOpen c d).samsung = (if c.closed && c.removed then none else some db) ∧
    (∀ i ∈ slots, (fingerprintOpen c d).templates.finger i =
      if enrolled db.enrollments i ≠ [] then db.over i .zero else .zero) ∧
    (∃ added, (fingerprintOpen c d).templates.tables (tableName 0) =
        some ((d.templates.tables (tableName 0)).getD [] ++ added) ∧
      ∀ i ∈ slots, rowsOf added i = if enrolled db.enrollments i ≠ [] ∧ c.inserted i then
        [row (db.over i .zero) i] else []) ∧
    ValidIds (fingerprintOpen c d).templates := by
  let fresh : Templates := ⟨0, d.templates.tables, fun _ => .zero, false, []⟩
  have hfresh : ValidIds fresh := hvalid
  obtain ⟨tables, hcreate, hactive, -⟩ := dbCheckAndCreateTable_eq fresh
  have hcreated := validIds_create hfresh
  rw [hcreate] at hcreated
  obtain ⟨finger, added, heq, hfinger, hadded, hids⟩ :=
    dbConvertOldDb_eq (s := { fresh with tables }) hdb hopened hactive
  have hread : fingerprintOpen c d = {
      samsung := if c.closed && c.removed then none else some db
      templates := { fresh with
        finger
        tables := Function.update tables (tableName 0) (some (fresh.rows ++ added)) } } := by
    show dbReadToTz c { d with templates := fresh } = _
    simp only [dbReadToTz, hsamsung]
    rw [hcreate, heq]
  rw [hread]
  refine ⟨rfl, fun i hi => ?_, ⟨added, ?_, fun i hi => ?_⟩, ?_⟩
  · simpa only [fresh, clear_zero, zero_exist, Bool.false_eq_true, or_false] using hfinger i hi
  · simp [fresh, rows]
  · simpa only [fresh, clear_zero, zero_exist, Bool.false_eq_true, or_false] using hadded i hi
  · have htable : Function.update tables (tableName 0) (some (fresh.rows ++ added)) (tableName 0) =
        some (fresh.rows ++ added) := Function.update_self ..
    refine hcreated.of_rows ?_ htable (fun m hm => Function.update_of_ne hm _ _) rfl
    intro r hr
    rcases List.mem_append.mp hr with hr | hr
    · exact hfresh.rows r hr
    · exact hids r hr

end Apq8084.Fingerprint.Migration
