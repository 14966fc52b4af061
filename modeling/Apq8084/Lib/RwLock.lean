import Mathlib.Data.List.Basic
import Mathlib.Tactic.Common

/-! Readers-writer locks. A blocked acquisition is not enabled, and a release by a thread that
holds nothing has no effect. -/

universe u

/-- A writer excludes readers. -/
structure RwLock (T : Type u) where
  writer : Option T
  readers : List T
  exclusive : writer ≠ none → readers = []

namespace RwLock

variable {T : Type u} {l l' : RwLock T} {t v : T}

def free : RwLock T := ⟨none, [], fun _ => rfl⟩

def Reads (l : RwLock T) (t : T) : Prop := t ∈ l.readers

def Writes (l : RwLock T) (t : T) : Prop := l.writer = some t

def Holds (l : RwLock T) (t : T) : Prop := l.Reads t ∨ l.Writes t

def rdlock (l : RwLock T) (t : T) : Option (RwLock T) :=
  match l.writer with
  | none => some ⟨none, t :: l.readers, fun h => absurd rfl h⟩
  | some _ => none

def wrlock (l : RwLock T) (t : T) : Option (RwLock T) :=
  match l.writer, l.readers with
  | none, [] => some ⟨some t, [], fun _ => rfl⟩
  | _, _ => none

def unlock [DecidableEq T] (l : RwLock T) (t : T) : RwLock T :=
  if l.writer = some t then free
  else ⟨l.writer, l.readers.erase t, fun h => by rw [l.exclusive h]; rfl⟩

theorem rdlock_reads (h : l.rdlock t = some l') : l'.Reads t := by
  unfold rdlock at h
  split at h
  · cases h
    exact List.mem_cons_self
  · cases h

theorem Reads.of_rdlock (hv : l.Reads v) (h : l.rdlock t = some l') : l'.Reads v := by
  unfold rdlock at h
  split at h
  · cases h
    exact List.mem_cons_of_mem t hv
  · cases h

theorem not_writes_of_rdlock (h : l.rdlock t = some l') : ¬l.Writes v := by
  intro hv
  unfold rdlock at h
  split at h
  · rename_i hw
    rw [Writes, hw] at hv
    cases hv
  · cases h

theorem wrlock_writes (h : l.wrlock t = some l') : l'.Writes t := by
  unfold wrlock at h
  split at h
  · cases h
    rfl
  · cases h

/-- Nobody holds a lock that a writer gets. -/
theorem not_holds_of_wrlock (h : l.wrlock t = some l') : ¬l.Holds v := by
  unfold wrlock at h
  split at h
  · rename_i hw hr
    rintro (hv | hv)
    · rw [Reads, hr] at hv
      cases hv
    · rw [Writes, hw] at hv
      cases hv
  · cases h

variable [DecidableEq T]

/-- A release leaves the holds of all other threads. -/
theorem Reads.of_unlock (hv : l.Reads v) (hne : v ≠ t) : (l.unlock t).Reads v := by
  unfold unlock
  split
  · rename_i hw
    rw [Reads, l.exclusive (by rw [hw]; simp)] at hv
    cases hv
  · exact (List.mem_erase_of_ne hne).mpr hv

theorem Writes.of_unlock (hv : l.Writes v) (hne : v ≠ t) : (l.unlock t).Writes v := by
  unfold unlock
  split
  · rename_i hw
    rw [Writes, hw] at hv
    cases hv
    exact absurd rfl hne
  · exact hv

end RwLock
