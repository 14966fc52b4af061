import Apq8084.Fingerprint.Groups

/-! What `fingerprint_remove` clears, announces and returns when deletions from the database may
fail. -/
namespace Apq8084.Fingerprint.Templates

variable {s s' : Templates} {exec : Int → Int} {i j : Slot} {l : List Slot} {fid : UInt32}

/-- The slots that are visited with a finger in them. -/
def occupied (s : Templates) (l : List Slot) : List Slot := l.filter fun idx => (s.finger idx).exist

def ids (s : Templates) (l : List Slot) : List Int :=
  (occupied s l).map fun idx : Slot => ((idx : Nat) : Int)

/-- The ids whose deletion is tried, in order. -/
def attempted (s : Templates) (fid : UInt32) : List Int :=
  if fid = 0 then ids s slots else [fid.toBitVec.toInt]

/-- Those whose deletion succeeds. -/
def deleted (exec : Int → Int) (s : Templates) (fid : UInt32) : List Int :=
  (attempted s fid).filter fun id => exec id = 0

/-- The slots of the deleted fingers are cleared and announced, the others are not, and the value
and the error tell whether all deletions succeeded. -/
structure RemovesTruthfully (exec : Int → Int) (s : Templates) (fid : UInt32) : Prop where
  inBounds : (fingerprintRemove exec s fid).2.outOfBounds = false
  cleared : ∀ i, (fingerprintRemove exec s fid).2.finger i =
    if ((i : Nat) : Int) ∈ deleted exec s fid then .zero else s.finger i
  notices : (fingerprintRemove exec s fid).2.notices =
    s.notices ++ (deleted exec s fid).map .removed ++
      if ∀ id ∈ attempted s fid, exec id = 0 then [] else [.error .unableToRemove]
  ret : (fingerprintRemove exec s fid).1 = 0 ↔ ∀ id ∈ attempted s fid, exec id = 0

/-- Every finger of a removal of all can be deleted; a single id is that of a slot, and the finger
can be deleted or the slot is blank. -/
def Removable (exec : Int → Int) (s : Templates) (fid : UInt32) : Prop :=
  if fid = 0 then ∀ i ∈ occupied s slots, exec (i : Nat) = 0
  else fid.toNat ≤ MAX_NUM_FINGERS ∧
    (exec fid.toBitVec.toInt = 0 ∨ ∀ i : Slot, ((i : Nat) : Int) = fid.toBitVec.toInt →
      s.finger i = .zero)

/-- What a visited slot leads to, announcements of `ids` included. -/
structure Removes (s s' : Templates) (gone : List Slot) (ids : List Int) : Prop where
  outOfBounds : s'.outOfBounds = s.outOfBounds
  blank : ∀ i ∈ gone, s'.finger i = .zero
  kept : ∀ i, i ∉ gone → s'.finger i = s.finger i
  notices : s'.notices = s.notices ++ ids.map .removed

/-- A deletion clears the slot, whatever comes of it. -/
theorem removeOne_removes (exec : Int → Int) (s : Templates) (i : Slot) :
    (removeOne exec s (i : Nat)).1 = exec (i : Nat) ∧
    Removes s (removeOne exec s (i : Nat)).2 [i]
      ([((i : Nat) : Int)].filter fun id => exec id = 0) := by
  have hkept : ∀ j, j ∉ [i] → Function.update s.finger i .zero j = s.finger j := by
    intro j hj
    apply Function.update_of_ne
    rintro rfl
    exact hj (List.mem_singleton_self j)
  by_cases hret : exec (i : Nat) = 0
  · refine ⟨by simp [removeOne, dbRemove, slot?_coe, hret], ?_, ?_, ?_, ?_⟩
    · simp [removeOne, dbRemove, slot?_coe, hret, notify, updateTable]
    · simp [removeOne, dbRemove, slot?_coe, hret, notify, updateTable]
    · simpa [removeOne, dbRemove, slot?_coe, hret, notify, updateTable] using hkept
    · simp [removeOne, dbRemove, slot?_coe, hret, notify, updateTable]
  · refine ⟨by simp [removeOne, dbRemove, slot?_coe, hret], ?_, ?_, ?_, ?_⟩
    · simp [removeOne, dbRemove, slot?_coe, hret]
    · simp [removeOne, dbRemove, slot?_coe, hret]
    · simpa [removeOne, dbRemove, slot?_coe, hret] using hkept
    · simp [removeOne, dbRemove, slot?_coe, hret]

/-- The loop body of `fingerprint_remove`. -/
def visit (exec : Int → Int) (p : Int × Templates) (idx : Slot) : Int × Templates :=
  if (p.2.finger idx).exist then removeOne exec p.2 ((idx : Nat) : Int) else p

/-- The loop over any list of slots clears what it finds, and its value is that of the last
deletion. -/
theorem foldl_visit (exec : Int → Int) (hl : l.Nodup) (ret : Int) (s : Templates) :
    (l.foldl (visit exec) (ret, s)).1 = ((ids s l).getLast?.map exec).getD ret ∧
    Removes s (l.foldl (visit exec) (ret, s)).2 (occupied s l)
      ((ids s l).filter fun id => exec id = 0) := by
  induction l generalizing ret s with
  | nil => exact ⟨rfl, rfl, fun i hi => (List.not_mem_nil hi).elim, fun i _ => rfl,
      (List.append_nil _).symm⟩
  | cons i l ih =>
    obtain ⟨hi, hl⟩ := List.nodup_cons.mp hl
    rw [List.foldl_cons, visit]
    by_cases hexist : (s.finger i).exist = true
    · rw [if_pos hexist]
      have hone := removeOne_removes exec s i
      generalize removeOne exec s ((i : Nat) : Int) = p at hone ⊢
      obtain ⟨ret', u⟩ := p
      obtain ⟨hret, hout, hcleared, hkept, hnotices⟩ := hone
      obtain ⟨hret', hout', hcleared', hkept', hnotices'⟩ := ih hl ret' u
      -- clearing one slot leaves the other fingers to be found
      have hocc : occupied u l = occupied s l := by
        apply List.filter_congr
        intro j hj
        rw [hkept j]
        intro hji
        exact hi (List.mem_singleton.mp hji ▸ hj)
      have hids : ids u l = ids s l := by rw [ids, hocc, ids]
      have hocc' : occupied s (i :: l) = i :: occupied s l := by simp [occupied, hexist]
      have hids' : ids s (i :: l) = ((i : Nat) : Int) :: ids s l := by
        rw [ids, hocc', ids, List.map_cons]
      rw [hocc] at hcleared' hkept'
      refine ⟨?_, ?_, ?_, ?_, ?_⟩
      · rw [hret', hids, hids', List.getLast?_cons]
        cases (ids s l).getLast? with
        | none => exact hret
        | some id => rfl
      · rw [hout', hout]
      · intro j hj
        by_cases hj' : j ∈ occupied s l
        · exact hcleared' j hj'
        · rw [hkept' j hj']
          rw [hocc'] at hj
          exact hcleared j (List.mem_singleton.mpr ((List.mem_cons.mp hj).resolve_right hj'))
      · intro j hj
        rw [hocc', List.mem_cons, not_or] at hj
        rw [hkept' j hj.2]
        exact hkept j fun h => hj.1 (List.mem_singleton.mp h)
      · rw [hnotices', hnotices, hids, hids', List.append_assoc, ← List.map_append,
          ← List.filter_append]
        rfl
    · rw [if_neg hexist]
      have hocc : occupied s (i :: l) = occupied s l := by simp [occupied, hexist]
      have hids : ids s (i :: l) = ids s l := by rw [ids, hocc, ids]
      rw [hocc, hids]
      exact ih hl ret s

/-- The slots that are cleared are those whose deletion was tried: it remains that all of them
were deleted or blank before, and that the value tells of every deletion. -/
theorem truthful_iff_of_removes {cleared : List Slot} {p : Int × Templates}
    (hs : s.outOfBounds = false)
    (hp : (if fid = 0 then removeAll exec s else removeOne exec s fid.toBitVec.toInt) = p)
    (hatt : attempted s fid = cleared.map fun idx : Slot => ((idx : Nat) : Int))
    (h : Removes s p.2 cleared (deleted exec s fid)) :
    RemovesTruthfully exec s fid ↔
      (∀ i ∈ cleared, exec (i : Nat) = 0 ∨ s.finger i = .zero) ∧
      (p.1 = 0 ↔ ∀ i ∈ cleared, exec (i : Nat) = 0) := by
  have hret : (fingerprintRemove exec s fid).1 = p.1 := by rw [fingerprintRemove, hp]
  have hsnd : (fingerprintRemove exec s fid).2 =
      if p.1 ≠ 0 then p.2.notify (.error .unableToRemove) else p.2 := by
    rw [fingerprintRemove, hp]
  have hout : (fingerprintRemove exec s fid).2.outOfBounds = false := by
    rw [hsnd, ← hs, ← h.outOfBounds]
    split <;> rfl
  have hfinger : (fingerprintRemove exec s fid).2.finger = p.2.finger := by
    rw [hsnd]
    split <;> rfl
  have hnotices : (fingerprintRemove exec s fid).2.notices =
      s.notices ++ (deleted exec s fid).map .removed ++
        if p.1 = 0 then [] else [.error .unableToRemove] := by
    rw [hsnd, ← h.notices]
    by_cases hzero : p.1 = 0
    · simp [hzero]
    · simp [hzero, notify]
  have hmem : ∀ i : Slot, ((i : Nat) : Int) ∈ deleted exec s fid ↔
      i ∈ cleared ∧ exec (i : Nat) = 0 := by
    intro i
    rw [deleted, hatt, List.mem_filter, List.mem_map]
    constructor
    · rintro ⟨⟨j, hj, hji⟩, hexec⟩
      have hij : j = i := Fin.ext (by omega)
      exact ⟨hij ▸ hj, by simpa using hexec⟩
    · rintro ⟨hi, hexec⟩
      exact ⟨⟨i, hi, rfl⟩, by simpa using hexec⟩
  have hall : (∀ id ∈ attempted s fid, exec id = 0) ↔ ∀ i ∈ cleared, exec (i : Nat) = 0 := by
    rw [hatt, List.forall_mem_map]
  constructor
  · intro ht
    refine ⟨?_, ?_⟩
    · intro i hi
      by_contra hnot
      obtain ⟨hexec, hzero⟩ := not_or.mp hnot
      have hkept := ht.cleared i
      rw [hfinger, h.blank i hi, if_neg fun h => hexec ((hmem i).mp h).2] at hkept
      exact hzero hkept.symm
    · rw [← hret, ← hall]
      exact ht.ret
  · rintro ⟨hcleared, hzero⟩
    refine ⟨hout, ?_, ?_, ?_⟩
    · intro i
      rw [hfinger]
      by_cases hdel : ((i : Nat) : Int) ∈ deleted exec s fid
      · rw [h.blank i ((hmem i).mp hdel).1, if_pos hdel]
      · rw [if_neg hdel]
        by_cases hi : i ∈ cleared
        · rw [h.blank i hi]
          rcases hcleared i hi with hexec | hblank
          · exact absurd ((hmem i).mpr ⟨hi, hexec⟩) hdel
          · exact hblank.symm
        · exact h.kept i hi
    · rw [hnotices]
      simp only [hzero, hall]
    · rw [hret, hall]
      exact hzero

/-- A removal of all fingers keeps to its word exactly if no deletion fails. -/
theorem removeAll_truthful_iff (hs : s.outOfBounds = false) :
    RemovesTruthfully exec s 0 ↔ ∀ i ∈ occupied s slots, exec (i : Nat) = 0 := by
  obtain ⟨hret, hremoves⟩ := foldl_visit exec (l := slots) (by decide) 0 s
  have hatt : attempted s 0 = ids s slots := by rw [attempted, if_pos rfl]
  rw [← hatt] at hremoves
  rw [truthful_iff_of_removes (p := slots.foldl (visit exec) (0, s)) hs (if_pos rfl) hatt hremoves]
  constructor
  · intro h i hi
    rcases h.1 i hi with hexec | hblank
    · exact hexec
    · have hexist := (List.mem_filter.mp hi).2
      simp [hblank, Finger.zero] at hexist
  · intro h
    refine ⟨fun i hi => Or.inl (h i hi), iff_of_true ?_ h⟩
    rw [hret]
    cases hlast : (ids s slots).getLast? with
    | none => rfl
    | some id =>
      obtain ⟨i, hi, rfl⟩ := List.mem_map.mp (List.mem_of_getLast? hlast)
      exact h i hi

theorem removeOne_truthful_iff (hs : s.outOfBounds = false) (hfid : fid ≠ 0)
    (hi : ((i : Nat) : Int) = fid.toBitVec.toInt) :
    RemovesTruthfully exec s fid ↔ exec fid.toBitVec.toInt = 0 ∨ s.finger i = .zero := by
  obtain ⟨hret, hremoves⟩ := removeOne_removes exec s i
  have hatt : attempted s fid = [((i : Nat) : Int)] := by rw [attempted, if_neg hfid, hi]
  rw [← hatt] at hremoves
  rw [truthful_iff_of_removes (p := removeOne exec s (i : Nat)) hs
    (by rw [if_neg hfid, hi]) hatt hremoves, hret, ← hi]
  simp

/-- When a removal is in bounds, clears and announces what it deleted and nothing else, and
returns whether all was deleted. -/
theorem removes_truthfully_iff (hs : s.outOfBounds = false) :
    RemovesTruthfully exec s fid ↔ Removable exec s fid := by
  unfold Removable
  by_cases hzero : fid = 0
  · rw [if_pos hzero, hzero]
    exact removeAll_truthful_iff hs
  · rw [if_neg hzero]
    by_cases hfid : fid.toNat ≤ MAX_NUM_FINGERS
    · obtain ⟨i, hi⟩ := Option.isSome_iff_exists.mp (slot?_fid.mpr hfid)
      have hi := slot?_eq_some.mp hi
      rw [removeOne_truthful_iff hs hzero hi.symm]
      constructor
      · intro h
        refine ⟨hfid, h.imp_right ?_⟩
        intro hblank j hj
        have hij : j = i := Fin.ext (by omega)
        rw [hij]
        exact hblank
      · intro h
        exact h.2.imp_right fun hblank => hblank i hi.symm
    · apply iff_of_false
      · intro h
        -- the write behind the array does not depend on the deletion
        have hout := h.inBounds
        rw [fingerprintRemove_outOfBounds hfid] at hout
        cases hout
      · intro h
        exact hfid h.1

/-- A table with fingers in all slots. -/
def full : Templates :=
  { activeGid := 0, tables := fun _ => none, outOfBounds := false, notices := []
    finger := fun _ => { Finger.zero with exist := true } }

theorem removes_truthfully_iff_full : RemovesTruthfully (fun _ => 0) full 3 := by
  apply (removes_truthfully_iff rfl).mpr
  simp [Removable, MAX_NUM_FINGERS]

/-- The first deletion fails and the others succeed: the finger is cleared all the same, and the
call returns 0. -/
theorem not_removes_truthfully_first :
    ¬∀ exec s fid, s.outOfBounds = false → RemovesTruthfully exec s fid := by
  intro h
  have hall := (removeAll_truthful_iff (s := full) rfl).mp
    (h (fun id => if id = 1 then 1 else 0) full 0 rfl)
  exact absurd (hall 1 (by decide)) (by decide)

end Apq8084.Fingerprint.Templates
