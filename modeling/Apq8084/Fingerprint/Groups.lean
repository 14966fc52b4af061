import Apq8084.Fingerprint.Templates
import Apq8084.Lib.Machine

/-! Switching groups, enrolling and removing, one operation after the other. -/
namespace Apq8084.Fingerprint.Templates

variable {s s' : Templates} {i j : Slot} {rs : List Row}

inductive Operation where
  | setActiveGroup (gid : UInt32)
  | enroll (data : Data) (payload : Payload)
  | remove (fid : UInt32)

/-- An enrollment takes place only where a slot is free; all deletions succeed. -/
def step (s : Templates) : Operation → Option Templates
  | .setActiveGroup gid => some (fingerprintSetActiveGroup s gid)
  | .enroll data payload => s.firstFree.map fun idx => register s idx data payload
  | .remove fid => some (fingerprintRemove (fun _ => 0) s fid).2

/-- The rows that a slot stands for. -/
def shown (i : Slot) (f : Finger) : List Row :=
  if f.exist then [⟨(i : Nat), f.data, f.payload⟩] else []

/-- The array shows the rows of the active group, one row for each slot that exists. -/
def Mirror (s : Templates) : Prop :=
  s.outOfBounds = false ∧ ∀ i ∈ slots, rowsOf s.rows i = shown i (s.finger i)

/-- No two rows have the same id. -/
def UniqueIds (rs : List Row) : Prop := ∀ i ∈ slots, (rowsOf rs i).length ≤ 1

/-- The last slot, which `memset` does not reach, is empty or will be overwritten. -/
def LastSlotReplaced (s : Templates) (rs : List Row) : Prop :=
  (s.finger (Fin.last MAX_NUM_FINGERS)).exist = true → rowsOf rs (Fin.last MAX_NUM_FINGERS) ≠ []

/-- The operations that the array follows. -/
def Followed (s : Templates) : Operation → Prop
  | .setActiveGroup gid =>
    UniqueIds ((s.tables (tableName gid)).getD []) ∧
      LastSlotReplaced s ((s.tables (tableName gid)).getD [])
  | .enroll .. => True
  | .remove fid => fid.toNat ≤ MAX_NUM_FINGERS

/-! Reading a table. -/

theorem dbCheckAndCreateTable_eq (s : Templates) :
    ∃ tables, dbCheckAndCreateTable s = { s with tables } ∧
      tables (tableName s.activeGid) = some s.rows ∧
      ∀ name, name ≠ tableName s.activeGid → tables name = s.tables name := by
  simp only [dbCheckAndCreateTable]
  cases ht : s.tables (tableName s.activeGid) with
  | some rs => exact ⟨s.tables, rfl, by simp [ht, rows], fun _ _ => rfl⟩
  | none =>
    refine ⟨_, rfl, by simp [ht, rows], fun name hname => ?_⟩
    exact Function.update_of_ne hname _ _

theorem ValidIds.of_rows (h : ValidIds s) {rs : List Row} {tables : Int → Option (List Row)}
    {name : Int} (hrs : ∀ r ∈ rs, 1 ≤ r.id ∧ r.id ≤ MAX_NUM_FINGERS)
    (hname : tables name = some rs) (hother : ∀ m, m ≠ name → tables m = s.tables m)
    (hs : s'.tables = tables) : ValidIds s' := by
  intro m rs' hm r hr
  rw [hs] at hm
  by_cases hmn : m = name
  · subst hmn
    rw [hname] at hm
    cases hm
    exact hrs r hr
  · rw [hother m hmn] at hm
    exact h m rs' hm r hr

/-- What `db_read_to_tz` leaves in the tables and in every slot. -/
theorem dbReadToTz_eq (h : ValidIds s) :
    ∃ tables finger, dbReadToTz s = { s with tables, finger } ∧
      tables (tableName s.activeGid) = some s.rows ∧
      (∀ name, name ≠ tableName s.activeGid → tables name = s.tables name) ∧
      ∀ i, finger i = match (rowsOf s.rows i).getLast? with
        | none => clear s.finger i
        | some r => ⟨true, r.data, r.payload⟩ := by
  obtain ⟨tables, hcreate, htable, hother⟩ := dbCheckAndCreateTable_eq s
  have hrows : ({ s with tables := tables } : Templates).rows = s.rows := by
    simp [rows, htable]
  obtain ⟨finger, hf, hfi⟩ :=
    foldl_loadRow (s := { s with tables := tables, finger := clear s.finger }) h.rows
  refine ⟨tables, finger, ?_, htable, hother, hfi⟩
  simp only [dbReadToTz, hcreate, hrows]
  exact hf

theorem dbReadToTz_validIds (h : ValidIds s) : ValidIds (dbReadToTz s) := by
  obtain ⟨tables, finger, heq, htable, hother, -⟩ := dbReadToTz_eq h
  exact h.of_rows h.rows htable hother (by rw [heq])

/-- A slot shows its rows after a read exactly if they are at most one, or there is none and the
slot is cleared. -/
theorem shown_read (hr : ∀ r ∈ rowsOf rs i, r.id = (i : Nat)) (f : Finger) :
    rowsOf rs i = shown i (match (rowsOf rs i).getLast? with
      | none => f
      | some r => ⟨true, r.data, r.payload⟩) ↔
    (rowsOf rs i).length ≤ 1 ∧ (f.exist = true → rowsOf rs i ≠ []) := by
  cases hl : rowsOf rs i with
  | nil => cases hf : f.exist <;> simp [shown, hf]
  | cons r l =>
    cases l with
    | nil =>
      have hid := hr r (by rw [hl]; exact List.mem_cons_self)
      simp [shown, ← hid]
    | cons q l => simp [shown, List.getLast?_cons]

theorem clear_last (finger : Slot → Finger) :
    clear finger (Fin.last MAX_NUM_FINGERS) = finger (Fin.last MAX_NUM_FINGERS) := by
  simp [clear]

theorem clear_of_ne (finger : Slot → Finger) (hi : i ≠ Fin.last MAX_NUM_FINGERS) :
    clear finger i = .zero :=
  if_pos (Fin.val_lt_last hi)

/-- After a read the array follows the table exactly if ids are unique and the last slot holds
nothing of the group before. -/
theorem dbReadToTz_mirror (h : ValidIds s) (hb : s.outOfBounds = false) :
    Mirror (dbReadToTz s) ↔ UniqueIds s.rows ∧ LastSlotReplaced s s.rows := by
  obtain ⟨tables, finger, heq, htable, -, hfi⟩ := dbReadToTz_eq h
  have hrows : (dbReadToTz s).rows = s.rows := by simp [heq, rows, htable]
  have hslot : ∀ i, rowsOf s.rows i = shown i (finger i) ↔
      (rowsOf s.rows i).length ≤ 1 ∧ ((clear s.finger i).exist = true → rowsOf s.rows i ≠ []) := by
    intro i
    rw [hfi i]
    exact shown_read (fun r hr => (mem_rowsOf.mp hr).2) _
  rw [Mirror, hrows, heq]
  constructor
  · rintro ⟨-, hm⟩
    refine ⟨fun i hi => ((hslot i).mp (hm i hi)).1, fun hexist => ?_⟩
    refine ((hslot _).mp (hm (Fin.last MAX_NUM_FINGERS) (by decide))).2 ?_
    rwa [clear_last]
  · rintro ⟨hunique, hlast⟩
    refine ⟨hb, fun i hi => (hslot i).mpr ⟨hunique i hi, ?_⟩⟩
    by_cases hil : i = Fin.last MAX_NUM_FINGERS
    · subst hil
      rwa [clear_last]
    · rw [clear_of_ne s.finger hil]
      intro hexist
      cases hexist

/-! Writing to the table of the active group. -/

/-- The invariant of the runs; the table of the active group exists after every read. -/
structure Inv (s : Templates) : Prop where
  validIds : ValidIds s
  mirror : Mirror s
  table : s.tables (tableName s.activeGid) = some s.rows

theorem Inv.notify (h : Inv s) (msg : Notice) : Inv (s.notify msg) :=
  ⟨h.validIds, h.mirror, h.table⟩

/-- A write to the table and to one slot keeps the invariant if they agree. -/
theorem Inv.write (h : Inv s) {f : Finger} (g : List Row → List Row)
    (hvalid : ∀ r ∈ g s.rows, 1 ≤ r.id ∧ r.id ≤ MAX_NUM_FINGERS)
    (hself : rowsOf (g s.rows) i = shown i f)
    (hother : ∀ j, j ≠ i → rowsOf (g s.rows) j = rowsOf s.rows j)
    (htables : s'.tables = (s.updateTable g).tables) (hgid : s'.activeGid = s.activeGid)
    (hfinger : s'.finger = Function.update s.finger i f)
    (hbounds : s'.outOfBounds = s.outOfBounds) : Inv s' := by
  have htable : s'.tables (tableName s'.activeGid) = some (g s.rows) := by
    rw [htables, hgid]
    simp [updateTable, h.table]
  have hrows : s'.rows = g s.rows := by simp [rows, htable]
  refine ⟨?_, ⟨hbounds ▸ h.mirror.1, fun j hj => ?_⟩, by rw [htable, hrows]⟩
  · refine h.validIds.of_rows hvalid htable (fun m hm => ?_) rfl
    rw [hgid] at hm
    rw [htables]
    exact Function.update_of_ne hm _ _
  · rw [hrows, hfinger]
    by_cases hji : j = i
    · subst hji
      rw [Function.update_self, hself]
    · rw [Function.update_of_ne hji, hother j hji]
      exact h.mirror.2 j hj

theorem firstFree_exist (h : s.firstFree = some i) : i ∈ slots ∧ (s.finger i).exist = false := by
  refine ⟨List.mem_of_find?_eq_some h, ?_⟩
  simpa using List.find?_some h

/-- A free slot has no row, so that the new row is its only one. -/
theorem register_inv (h : Inv s) (hi : i ∈ slots) (hfree : (s.finger i).exist = false) (data : Data)
    (payload : Payload) : Inv (register s i data payload) := by
  have hnone : rowsOf s.rows i = [] := by
    rw [h.mirror.2 i hi, shown, hfree]
    rfl
  have hbound : 1 ≤ (i : Nat) ∧ (i : Nat) ≤ MAX_NUM_FINGERS := by
    refine ⟨?_, Nat.le_of_lt_succ i.isLt⟩
    have : (i : Nat) ≠ 0 := fun h0 => mem_slots.mp hi (Fin.ext h0)
    omega
  refine h.write (i := i) (f := ⟨true, data, payload⟩) (· ++ [⟨(i : Nat), data, payload⟩])
    ?_ ?_ ?_ ?_ rfl rfl rfl
  · intro r hr
    rcases List.mem_append.mp hr with hr | hr
    · exact h.validIds.rows r hr
    · rw [List.mem_singleton.mp hr]
      simp only
      omega
  · rw [rowsOf_append, hnone]
    simp [rowsOf, shown]
  · intro j hj
    have hne : ((i : Nat) : Int) ≠ (j : Nat) := by
      intro heq
      exact hj (Fin.ext (by omega))
    simp [rowsOf, hne]
  · simp [register, dbInsert, updateTable]

theorem removeOne_inv (h : Inv s) (i : Slot) :
    Inv (removeOne (fun _ => 0) s ((i : Nat) : Int)).2 := by
  have hdb : Inv (dbRemove 0 s ((i : Nat) : Int)).2 := by
    simp only [dbRemove, slot?_coe, if_true]
    refine h.write (i := i) (f := .zero) (·.filter fun r => r.id ≠ (i : Nat)) ?_ ?_ ?_ rfl rfl
      rfl rfl
    · exact fun r hr => h.validIds.rows r (List.mem_filter.mp hr).1
    · exact rowsOf_remove_self
    · exact fun j hj => rowsOf_remove_other hj
  simp only [removeOne]
  split
  · exact hdb.notify _
  · exact hdb

/-- Deleting all fingers visits one slot after the other. -/
theorem removeAll_inv (h : Inv s) : Inv (removeAll (fun _ => 0) s).2 := by
  suffices hl : ∀ (l : List Slot) (p : Int × Templates), Inv p.2 →
      Inv (l.foldl (fun (p : Int × Templates) idx =>
        if (p.2.finger idx).exist then removeOne (fun _ => 0) p.2 ((idx : Nat) : Int)
        else p) p).2 from hl slots (0, s) h
  intro l
  induction l with
  | nil => exact fun _ hp => hp
  | cons i l ih =>
    intro p hp
    rw [List.foldl_cons]
    refine ih _ ?_
    split
    · exact removeOne_inv hp i
    · exact hp

/-- The ids that name a slot are those the array has. -/
theorem slot?_fid {fid : UInt32} :
    (slot? fid.toBitVec.toInt).isSome = true ↔ fid.toNat ≤ MAX_NUM_FINGERS := by
  have hmax : MAX_NUM_FINGERS = 5 := rfl
  have hlt := fid.toBitVec.isLt
  have hcond := BitVec.toInt_eq_toNat_cond fid.toBitVec
  have hnat : fid.toBitVec.toNat = fid.toNat := rfl
  rw [slot?]
  split <;> rename_i hid <;> split at hcond <;> simp <;> omega

theorem fingerprintRemove_inv (h : Inv s) {fid : UInt32} (hfid : fid.toNat ≤ MAX_NUM_FINGERS) :
    Inv (fingerprintRemove (fun _ => 0) s fid).2 := by
  obtain ⟨i, hi⟩ := Option.isSome_iff_exists.mp (slot?_fid.mpr hfid)
  have hrest : Inv (if fid = 0 then removeAll (fun _ => 0) s
      else removeOne (fun _ => 0) s fid.toBitVec.toInt).2 := by
    split
    · exact removeAll_inv h
    · rw [slot?_eq_some.mp hi]
      exact removeOne_inv h i
  unfold fingerprintRemove
  generalize (if fid = 0 then removeAll (fun _ => 0) s
    else removeOne (fun _ => 0) s fid.toBitVec.toInt) = p at hrest ⊢
  change Inv (if p.1 ≠ 0 then _ else _)
  split
  · exact hrest.notify _
  · exact hrest

/-- Any other id makes `memset` write outside the array. -/
theorem fingerprintRemove_outOfBounds {exec : Int → Int} {fid : UInt32}
    (hfid : ¬fid.toNat ≤ MAX_NUM_FINGERS) :
    (fingerprintRemove exec s fid).2.outOfBounds = true := by
  have hnone : slot? fid.toBitVec.toInt = none := by
    rw [← slot?_fid] at hfid
    simpa using hfid
  have hne : fid ≠ 0 := by
    rintro rfl
    exact hfid (Nat.zero_le _)
  by_cases hexec : exec fid.toBitVec.toInt = 0
  · simp [fingerprintRemove, hne, removeOne, dbRemove, hnone, notify, hexec]
  · simp [fingerprintRemove, hne, removeOne, dbRemove, hnone, notify, hexec]

/-! Runs. -/

theorem fingerprintSetActiveGroup_inv (h : Inv s) {gid : UInt32}
    (hf : Followed s (.setActiveGroup gid)) : Inv (fingerprintSetActiveGroup s gid) := by
  have hvalid : ValidIds { s with activeGid := gid } := h.validIds
  obtain ⟨tables, finger, heq, htable, -⟩ := dbReadToTz_eq hvalid
  refine ⟨dbReadToTz_validIds hvalid, (dbReadToTz_mirror hvalid h.mirror.1).mpr hf, ?_⟩
  rw [fingerprintSetActiveGroup, heq]
  simp [rows, htable]

theorem step_inv {op : Operation} (h : Inv s) (hf : Followed s op) (hs : step s op = some s') :
    Inv s' := by
  cases op with
  | setActiveGroup gid =>
    cases hs
    exact fingerprintSetActiveGroup_inv h hf
  | enroll data payload =>
    obtain ⟨i, hi, rfl⟩ := Option.map_eq_some_iff.mp hs
    obtain ⟨hmem, hfree⟩ := firstFree_exist hi
    exact register_inv h hmem hfree data payload
  | remove fid =>
    cases hs
    exact fingerprintRemove_inv h hf

/-- In a state that agrees, the next operation keeps the agreement exactly if it is followed. -/
theorem step_mirror_iff {op : Operation} (h : Inv s) (hs : step s op = some s') :
    Mirror s' ↔ Followed s op := by
  refine ⟨fun hm => ?_, fun hf => (step_inv h hf hs).mirror⟩
  cases op with
  | setActiveGroup gid =>
    cases hs
    exact (dbReadToTz_mirror (s := { s with activeGid := gid }) h.validIds h.mirror.1).mp hm
  | enroll data payload => trivial
  | remove fid =>
    cases hs
    by_contra hf
    have := hm.1
    rw [fingerprintRemove_outOfBounds hf] at this
    cases this

theorem fingerprintOpen_mirror {tables : Int → Option (List Row)}
    (hids : ∀ name rs, tables name = some rs → ∀ r ∈ rs, 1 ≤ r.id ∧ r.id ≤ MAX_NUM_FINGERS) :
    Mirror (fingerprintOpen tables) ↔ UniqueIds ((tables (tableName 0)).getD []) := by
  have hvalid : ValidIds ⟨0, tables, fun _ => .zero, false, []⟩ := hids
  refine (dbReadToTz_mirror hvalid rfl).trans (and_iff_left fun hexist => ?_)
  cases hexist

theorem fingerprintOpen_inv {tables : Int → Option (List Row)}
    (hids : ∀ name rs, tables name = some rs → ∀ r ∈ rs, 1 ≤ r.id ∧ r.id ≤ MAX_NUM_FINGERS)
    (hunique : UniqueIds ((tables (tableName 0)).getD [])) : Inv (fingerprintOpen tables) := by
  have hvalid : ValidIds ⟨0, tables, fun _ => .zero, false, []⟩ := hids
  obtain ⟨tables', finger, heq, htable, -⟩ := dbReadToTz_eq hvalid
  refine ⟨dbReadToTz_validIds hvalid, (fingerprintOpen_mirror hids).mpr hunique, ?_⟩
  rw [fingerprintOpen, heq]
  simp [rows, htable]

/-- From `fingerprint_open` on, the array mirrors the table of the active group as long as every
operation is followed, and no longer than that. -/
theorem mirrors_active_group {tables : Int → Option (List Row)}
    (hids : ∀ name rs, tables name = some rs → ∀ r ∈ rs, 1 ≤ r.id ∧ r.id ≤ MAX_NUM_FINGERS) :
    (Mirror (fingerprintOpen tables) ↔ UniqueIds ((tables (tableName 0)).getD [])) ∧
    ∀ ops s, UniqueIds ((tables (tableName 0)).getD []) →
      Machine.run step (fingerprintOpen tables) ops = some s →
      Machine.Along step Followed (fingerprintOpen tables) ops →
      Mirror s ∧ ∀ op s', step s op = some s' → (Mirror s' ↔ Followed s op) := by
  refine ⟨fingerprintOpen_mirror hids, fun ops s hunique hr hok => ?_⟩
  have h : Inv s := Machine.run_invariant_along (fun _ _ _ h hf hs => step_inv h hf hs) hr hok
    (fingerprintOpen_inv hids hunique)
  exact ⟨h.mirror, fun op s' hs => step_mirror_iff h hs⟩

/-- A database whose group 0 has one finger, with the given id. -/
def oneFinger (id : Int) : Int → Option (List Row) :=
  fun name => if name = 0 then some [⟨id, fun _ => 1, fun _ => 1⟩] else none

theorem oneFinger_ids {id : Int} (hid : 1 ≤ id ∧ id ≤ MAX_NUM_FINGERS) :
    ∀ name rs, oneFinger id name = some rs → ∀ r ∈ rs, 1 ≤ r.id ∧ r.id ≤ MAX_NUM_FINGERS := by
  intro name rs hrs r hr
  simp only [oneFinger] at hrs
  split at hrs
  · cases hrs
    rw [List.mem_singleton.mp hr]
    exact hid
  · cases hrs

theorem oneFinger_unique (id : Int) :
    UniqueIds ((oneFinger id (tableName 0)).getD []) :=
  fun _ _ => List.length_filter_le _ _

theorem mirrors_active_group_enrolled : ∃ s, s.activeGid = 7 ∧ Mirror s := by
  have hrun : Machine.run step (fingerprintOpen (oneFinger 1))
      [.setActiveGroup 7, .enroll (fun _ => 2) fun _ => 2] = some _ := rfl
  refine ⟨_, rfl, ((mirrors_active_group (oneFinger_ids (by decide))).2 _ _ (oneFinger_unique 1)
    hrun ?_).1⟩
  refine Machine.along_cons rfl ⟨fun _ _ => Nat.zero_le 1, ?_⟩
    (Machine.along_cons rfl trivial trivial)
  -- the last slot is empty when the group is left
  intro hexist
  cases hexist

/-- A finger in the last slot stays visible in a group that has no such finger. -/
theorem last_finger_stays :
    ¬ ∀ (tables : Int → Option (List Row)) (ops : List Operation) (s : Templates),
      (∀ name rs, tables name = some rs → ∀ r ∈ rs, 1 ≤ r.id ∧ r.id ≤ MAX_NUM_FINGERS) →
      Machine.run step (fingerprintOpen tables) ops = some s → Mirror s := by
  intro h
  have hids := @oneFinger_ids 5 (by decide)
  have hm := h (oneFinger 5) [.setActiveGroup 7] _ hids rfl
  have hf : Followed (fingerprintOpen (oneFinger 5)) (.setActiveGroup 7) :=
    (step_mirror_iff (fingerprintOpen_inv hids (oneFinger_unique 5)) rfl).mp hm
  exact hf.2 rfl rfl

end Apq8084.Fingerprint.Templates
