import Apq8084.Lib.Machine
import Mathlib.Logic.Relation

/-! Locks that a thread may not take twice: the operations of a thread, the code they come from
with a static check of it, and handlers that interrupt the thread. -/
namespace Locks

universe u

inductive Op (L : Type u) where
  | lock (l : L)
  | unlock (l : L)
deriving DecidableEq

variable {L : Type u}

/-! ### Code -/

/-- How control leaves a piece of code. -/
inductive Exit where
  | next | brk | cont | goto | ret
deriving DecidableEq

def exits : List Exit := [.next, .brk, .cont, .goto, .ret]

theorem mem_exits (e : Exit) : e ∈ exits := by
  cases e <;> decide

/-- The lock operations of a function, with the control flow around them. -/
inductive Code (L : Type u) where
  | skip
  | op (o : Op L)
  | leave (e : Exit)
  | seq (c d : Code L)
  /-- A branch on anything. -/
  | alt (c d : Code L)
  /-- Repeats until it is left. -/
  | loop (c : Code L)
  /-- The place to which `e` leads is right behind the code. -/
  | upTo (e : Exit) (c : Code L)

/-- The runs of a piece of code, each with its operations and the way it ends. -/
inductive Runs : Code L → List (Op L) → Exit → Prop where
  | skip : Runs .skip [] .next
  | op (o : Op L) : Runs (.op o) [o] .next
  | leave (e : Exit) : Runs (.leave e) [] e
  | seq {c d : Code L} {xs ys : List (Op L)} {e : Exit} :
      Runs c xs .next → Runs d ys e → Runs (.seq c d) (xs ++ ys) e
  | seqLeft {c d : Code L} {xs : List (Op L)} {e : Exit} :
      Runs c xs e → e ≠ .next → Runs (.seq c d) xs e
  | altLeft {c d : Code L} {xs : List (Op L)} {e : Exit} : Runs c xs e → Runs (.alt c d) xs e
  | altRight {c d : Code L} {xs : List (Op L)} {e : Exit} : Runs d xs e → Runs (.alt c d) xs e
  | again {c : Code L} {xs ys : List (Op L)} {e f : Exit} :
      Runs c xs e → e = .next ∨ e = .cont → Runs (.loop c) ys f → Runs (.loop c) (xs ++ ys) f
  | broken {c : Code L} {xs : List (Op L)} : Runs c xs .brk → Runs (.loop c) xs .next
  | left {c : Code L} {xs : List (Op L)} {e : Exit} :
      Runs c xs e → e = .goto ∨ e = .ret → Runs (.loop c) xs e
  | caught {c : Code L} {xs : List (Op L)} {e : Exit} : Runs c xs e → Runs (.upTo e c) xs .next
  | passed {c : Code L} {xs : List (Op L)} {e f : Exit} :
      Runs c xs f → f ≠ e → Runs (.upTo e c) xs f

namespace Code

/-- Statements one after the other. -/
def block (cs : List (Code L)) : Code L := cs.foldr .seq .skip

def lock (l : L) : Code L := .op (.lock l)

def unlock (l : L) : Code L := .op (.unlock l)

/-- A call: the `return` of the function leads back. -/
def call (c : Code L) : Code L := .upTo .ret c

end Code

section Inversion

variable {c d : Code L} {ops : List (Op L)} {o : Op L} {e f : Exit}

@[simp] theorem runs_skip : Runs (.skip : Code L) ops e ↔ ops = [] ∧ e = .next := by
  constructor
  · rintro ⟨⟩
    exact ⟨rfl, rfl⟩
  · rintro ⟨rfl, rfl⟩
    exact .skip

@[simp] theorem runs_op : Runs (.op o) ops e ↔ ops = [o] ∧ e = .next := by
  constructor
  · rintro ⟨⟩
    exact ⟨rfl, rfl⟩
  · rintro ⟨rfl, rfl⟩
    exact .op o

@[simp] theorem runs_leave : Runs (.leave f : Code L) ops e ↔ ops = [] ∧ e = f := by
  constructor
  · rintro ⟨⟩
    exact ⟨rfl, rfl⟩
  · rintro ⟨rfl, rfl⟩
    exact .leave e

theorem runs_seq :
    Runs (.seq c d) ops e ↔
      (∃ xs ys, ops = xs ++ ys ∧ Runs c xs .next ∧ Runs d ys e) ∨ (Runs c ops e ∧ e ≠ .next) := by
  constructor
  · intro hr
    cases hr with
    | seq hc hd => exact Or.inl ⟨_, _, rfl, hc, hd⟩
    | seqLeft hc hne => exact Or.inr ⟨hc, hne⟩
  · rintro (⟨xs, ys, rfl, hc, hd⟩ | ⟨hc, hne⟩)
    · exact .seq hc hd
    · exact .seqLeft hc hne

@[simp] theorem runs_seq_next :
    Runs (.seq c d) ops .next ↔ ∃ xs ys, ops = xs ++ ys ∧ Runs c xs .next ∧ Runs d ys .next := by
  rw [runs_seq]
  exact or_iff_left fun h => h.2 rfl

@[simp] theorem runs_alt : Runs (.alt c d) ops e ↔ Runs c ops e ∨ Runs d ops e := by
  constructor
  · intro hr
    cases hr with
    | altLeft hc => exact Or.inl hc
    | altRight hd => exact Or.inr hd
  · rintro (hc | hd)
    · exact .altLeft hc
    · exact .altRight hd

/-- Code that does not jump. -/
def straight : Code L → Bool
  | .skip | .op _ => true
  | .seq c d | .alt c d => straight c && straight d
  | .leave _ | .loop _ | .upTo _ _ => false

theorem straight_next (hc : straight c = true) (hr : Runs c ops e) : e = .next := by
  induction hr with
  | skip | op o => rfl
  | seq _ _ _ ihd => exact ihd (Bool.and_eq_true_iff.mp hc).2
  | seqLeft _ _ ih | altLeft _ ih => exact ih (Bool.and_eq_true_iff.mp hc).1
  | altRight _ ih => exact ih (Bool.and_eq_true_iff.mp hc).2
  | leave | again | broken | left | caught | passed => cases hc

end Inversion

/-! ### The discipline of a thread -/

variable [DecidableEq L]

/-- The locks that are held behind an operation. -/
def Op.after (held : List L) : Op L → List L
  | .lock l => l :: held
  | .unlock l => held.erase l

/-- The locks that a thread holds which has done the operations. -/
def held (ops : List (Op L)) : List L := ops.foldl Op.after []

/-- No lock is taken that is held already, and none is kept. -/
structure Disciplined (ops : List (Op L)) : Prop where
  taken : ∀ pre l post, ops = pre ++ .lock l :: post → l ∉ held pre
  released : held ops = []

/-- `l` is taken while `h` is held. -/
def Nested (ops : List (Op L)) (h l : L) : Prop :=
  ∃ pre post, ops = pre ++ .lock l :: post ∧ h ∈ held pre

/-- An operation, where `ok h l` says that `l` may be taken while `h` is held. -/
def acquire (ok : L → L → Bool) (held : List L) : Op L → Option (List L)
  | .lock l => if held.all (ok · l) then some (l :: held) else none
  | .unlock l => if l ∈ held then some (held.erase l) else none

variable {ok ok' : L → L → Bool} {hs hs' frame : List L} {ops pre post : List (Op L)} {h l : L}
  {o : Op L}

theorem acquire_after (ha : acquire ok hs o = some hs') : o.after hs = hs' := by
  cases o with
  | lock l =>
    simp only [acquire] at ha
    split at ha
    · exact Option.some.inj ha
    · cases ha
  | unlock l =>
    simp only [acquire] at ha
    split at ha
    · exact Option.some.inj ha
    · cases ha

theorem run_after (hr : Machine.run (acquire ok) hs ops = some hs') :
    ops.foldl Op.after hs = hs' := by
  induction ops generalizing hs with
  | nil => exact Option.some.inj hr
  | cons o ops ih =>
    obtain ⟨h1, ho, hr⟩ := Option.bind_eq_some_iff.mp hr
    rw [List.foldl_cons, acquire_after ho]
    exact ih hr

/-- What an allowed run says about each of its steps that take a lock. -/
theorem run_allowed (hr : Machine.run (acquire ok) hs ops = some hs')
    (hops : ops = pre ++ .lock l :: post) : ∀ h ∈ pre.foldl Op.after hs, ok h l = true := by
  subst hops
  rw [Machine.run_append] at hr
  obtain ⟨h1, hpre, hr⟩ := Option.bind_eq_some_iff.mp hr
  rw [run_after hpre]
  rw [Machine.run_cons, acquire] at hr
  split at hr
  · rename_i hall
    exact List.all_eq_true.mp hall
  · cases hr

theorem disciplined_of_run (hno : ∀ l, ok l l = false)
    (hr : Machine.run (acquire ok) [] ops = some []) : Disciplined ops := by
  refine ⟨fun pre l post hops hmem => ?_, run_after hr⟩
  have := run_allowed hr hops l hmem
  rw [hno] at this
  cases this

theorem nested_of_run (hr : Machine.run (acquire ok) [] ops = some hs)
    (hn : Nested ops h l) : ok h l = true := by
  obtain ⟨pre, post, hops, hmem⟩ := hn
  exact run_allowed hr hops h hmem

/-! ### Locks that are held all the time -/

theorem acquire_mem (ha : acquire ok hs (.unlock l) = some hs') : l ∈ hs := by
  by_contra hno
  rw [acquire, if_neg hno] at ha
  cases ha

theorem after_append (ha : acquire ok hs o = some hs') :
    o.after (hs ++ frame) = hs' ++ frame := by
  rw [← acquire_after ha]
  cases o with
  | lock l => rfl
  | unlock l => exact List.erase_append_left frame (acquire_mem ha)

theorem foldl_after_append (hr : Machine.run (acquire ok) hs ops = some hs') :
    ops.foldl Op.after (hs ++ frame) = hs' ++ frame := by
  induction ops generalizing hs with
  | nil =>
    cases hr
    rfl
  | cons o ops ih =>
    obtain ⟨h1, ho, hr⟩ := Option.bind_eq_some_iff.mp hr
    rw [List.foldl_cons, after_append ho]
    exact ih hr

theorem run_append_frame (hr : Machine.run (acquire ok) hs ops = some hs')
    (hframe : ∀ l, .lock l ∈ ops → ∀ h ∈ frame, ok h l = true) :
    Machine.run (acquire ok) (hs ++ frame) ops = some (hs' ++ frame) := by
  induction ops generalizing hs with
  | nil =>
    cases hr
    rfl
  | cons o ops ih =>
    obtain ⟨h1, ho, hr⟩ := Option.bind_eq_some_iff.mp hr
    have hstep : acquire ok (hs ++ frame) o = some (h1 ++ frame) := by
      rw [← after_append ho]
      cases o with
      | lock l =>
        have hall := hframe l List.mem_cons_self
        rw [acquire] at ho
        split at ho
        · rename_i hhs
          rw [acquire, if_pos]
          · rfl
          · rw [List.all_append, hhs, Bool.true_and]
            exact List.all_eq_true.mpr hall
        · cases ho
      | unlock l => rw [acquire, if_pos (List.mem_append_left frame (acquire_mem ho))]; rfl
    rw [Machine.run_cons, hstep]
    exact ih hr fun l hl => hframe l (List.mem_cons_of_mem o hl)

/-! ### Handlers -/

/-- A piece of what a thread does: an operation of its code, or all those of a handler. -/
inductive Segment (L : Type u) where
  | own (o : Op L)
  | interrupt (ops : List (Op L))

namespace Segment

def trace : Segment L → List (Op L)
  | own o => [o]
  | interrupt ops => ops

def ownOps : Segment L → List (Op L)
  | own o => [o]
  | interrupt _ => []

/-- A handler gives back what it takes. -/
def after (held : List L) : Segment L → Option (List L)
  | own o => some (o.after held)
  | interrupt _ => some held

end Segment

/-- A handler does not take what the interrupted thread holds. -/
def Undisturbed (held : List L) : Segment L → Prop
  | .own _ => True
  | .interrupt ops => ∀ l, .lock l ∈ ops → l ∉ held

/-- All that a thread does. -/
def flat (segments : List (Segment L)) : List (Op L) := segments.flatMap Segment.trace

/-- What it does by its code. -/
def code (segments : List (Segment L)) : List (Op L) := segments.flatMap Segment.ownOps

variable {segments : List (Segment L)}

/-- Handlers that may take their locks at the places where they run are harmless. -/
theorem run_flat
    (hhandlers : ∀ ops, .interrupt ops ∈ segments → Machine.run (acquire ok) [] ops = some [])
    (hr : Machine.run (acquire ok) hs (code segments) = some hs')
    (halong : Machine.Along Segment.after
      (fun held g => ∀ ops, g = .interrupt ops → ∀ l, .lock l ∈ ops → ∀ h ∈ held, ok h l = true)
      hs segments) :
    Machine.run (acquire ok) hs (flat segments) = some hs' := by
  induction segments generalizing hs with
  | nil => exact hr
  | cons g segments ih =>
    have ih := @ih
    have hrest : ∀ ops, .interrupt ops ∈ segments → Machine.run (acquire ok) [] ops = some [] :=
      fun ops hops => hhandlers ops (List.mem_cons_of_mem g hops)
    cases g with
    | own o =>
      obtain ⟨h1, ho, hr⟩ := Option.bind_eq_some_iff.mp hr
      have hnext := halong.2 h1 (congrArg some (acquire_after ho))
      show Machine.run (acquire ok) hs (o :: flat segments) = some hs'
      rw [Machine.run_cons, ho]
      exact ih hrest hr hnext
    | interrupt ops =>
      have hframe := run_append_frame (hhandlers ops List.mem_cons_self) (halong.1 ops rfl)
      exact Machine.run_trans hframe (ih hrest hr (halong.2 hs rfl))

/-- A thread that takes nothing twice does not do so by its code. -/
theorem taken_code
    (hhandlers : ∀ ops, .interrupt ops ∈ segments → Machine.run (acquire ok) [] ops = some [])
    (htaken : ∀ pre l post, flat segments = pre ++ .lock l :: post →
      l ∉ pre.foldl Op.after hs) :
    ∀ pre l post, code segments = pre ++ .lock l :: post → l ∉ pre.foldl Op.after hs := by
  induction segments generalizing hs with
  | nil =>
    intro pre l post hcode
    simp [code] at hcode
  | cons g segments ih =>
    have hrest : ∀ ops, .interrupt ops ∈ segments → Machine.run (acquire ok) [] ops = some [] :=
      fun ops hops => hhandlers ops (List.mem_cons_of_mem g hops)
    cases g with
    | own o =>
      rintro (_ | ⟨o', pre⟩) l post hcode
      · obtain ⟨rfl, -⟩ := List.cons.inj hcode
        exact htaken [] l (flat segments) rfl
      · obtain ⟨rfl, hrestCode⟩ := List.cons.inj hcode
        refine ih hrest (fun pre l post hflat => ?_) pre l post hrestCode
        exact htaken (o :: pre) l post (congrArg (o :: ·) hflat)
    | interrupt ops =>
      refine ih hrest fun pre l post hflat => ?_
      have := @foldl_after_append _ _ _ _ _ hs _ (hhandlers ops List.mem_cons_self)
      rw [List.nil_append] at this
      have hnot := htaken (ops ++ pre) l post (by
        rw [List.append_assoc, ← hflat]
        rfl)
      rwa [List.foldl_append, this] at hnot

/-- A thread that takes nothing twice is not disturbed. -/
theorem undisturbed_of_taken
    (hhandlers : ∀ ops, .interrupt ops ∈ segments → Machine.run (acquire ok) [] ops = some [])
    (hr : Machine.run (acquire ok) hs (code segments) = some hs')
    (htaken : ∀ pre l post, flat segments = pre ++ .lock l :: post →
      l ∉ pre.foldl Op.after hs) :
    Machine.Along Segment.after Undisturbed hs segments := by
  induction segments generalizing hs with
  | nil => trivial
  | cons g segments ih =>
    have hrest : ∀ ops, .interrupt ops ∈ segments → Machine.run (acquire ok) [] ops = some [] :=
      fun ops hops => hhandlers ops (List.mem_cons_of_mem g hops)
    cases g with
    | own o =>
      obtain ⟨h1, ho, hr⟩ := Option.bind_eq_some_iff.mp hr
      refine Machine.along_cons rfl trivial (ih hrest ?_ fun pre l post hflat => ?_)
      · rwa [acquire_after ho]
      · exact htaken (o :: pre) l post (congrArg (o :: ·) hflat)
    | interrupt ops =>
      have hops := hhandlers ops List.mem_cons_self
      refine Machine.along_cons rfl (fun l hl hmem => ?_) (ih hrest hr fun pre l post hflat => ?_)
      · -- the handler takes the lock on top of what it holds itself
        obtain ⟨ops1, ops2, rfl⟩ := List.append_of_mem hl
        rw [Machine.run_append] at hops
        obtain ⟨h1, hops1, -⟩ := Option.bind_eq_some_iff.mp hops
        refine htaken ops1 l (ops2 ++ flat segments) ?_ ?_
        · exact List.append_assoc ops1 (.lock l :: ops2) (flat segments)
        · have := @foldl_after_append _ _ _ _ _ hs _ hops1
          rw [List.nil_append] at this
          rw [this]
          exact List.mem_append_right h1 hmem
      · have := @foldl_after_append _ _ _ _ _ hs _ hops
        rw [List.nil_append] at this
        have hnot := htaken (ops ++ pre) l post (by
          rw [List.append_assoc, ← hflat]
          rfl)
        rwa [List.foldl_append, this] at hnot

/-! ### The check -/

/-- The locks that are held where control leaves in each way; none for a way that is not taken. -/
abbrev Post (L : Type u) := Exit → Option (List L)

namespace Post

def only (e : Exit) (held : Option (List L)) : Post L := fun f => if f = e then held else none

def without (p : Post L) (e : Exit) : Post L := fun f => if f = e then none else p f

/-- Both, if they agree. -/
def merge (p q : Post L) : Option (Post L) :=
  if ∀ e ∈ exits, p e = none ∨ q e = none ∨ p e = q e then
    some fun e => p e <|> q e
  else none

variable {p q r : Post L} {e f : Exit} {hs : List L}

theorem merge_left (hm : merge p q = some r) (hp : p e = some hs) : r e = some hs := by
  unfold merge at hm
  split at hm
  · cases hm
    simp [hp]
  · cases hm

theorem merge_right (hm : merge p q = some r) (hq : q e = some hs) : r e = some hs := by
  unfold merge at hm
  split at hm
  · rename_i hagree
    cases hm
    rcases hagree e (mem_exits e) with hp | hq' | heq
    · simp [hp, hq]
    · rw [hq] at hq'
      cases hq'
    · simp [heq, hq]
  · cases hm

end Post

/-- Follow a piece of code from where the locks `held` are held. -/
def check (ok : L → L → Bool) (held : List L) : Code L → Option (Post L)
  | .skip => some (.only .next held)
  | .op o => (acquire ok held o).map fun h => .only .next (some h)
  | .leave e => some (.only e held)
  | .seq c d => do
    let p ← check ok held c
    match p .next with
    | none => some p
    | some h => (p.without .next).merge (← check ok h d)
  | .alt c d => do (← check ok held c).merge (← check ok held d)
  | .loop c => do
    let p ← check ok held c
    if ∀ e ∈ [Exit.next, .cont], p e = none ∨ p e = some held then
      some fun
        | .next => p .brk
        | .brk | .cont => none
        | e => p e
    else none
  | .upTo e c => do
    let p ← check ok held c
    (p.without e).merge (.only .next (p e))

/-- The code takes no lock that is not allowed, and gives back all it takes. -/
def balanced (ok : L → L → Bool) (c : Code L) : Bool :=
  match check ok [] c with
  | none => false
  | some p =>
    decide (∀ e ∈ exits, p e = none ∨ p e = some [])

variable {c d : Code L} {e : Exit} {p : Post L}

/-- The check follows every run. -/
theorem check_sound (hr : Runs c ops e) :
    ∀ hs p, check ok hs c = some p →
      ∃ hs', Machine.run (acquire ok) hs ops = some hs' ∧ p e = some hs' := by
  induction hr with
  | skip =>
    rintro hs _ ⟨⟩
    exact ⟨hs, rfl, rfl⟩
  | op o =>
    intro hs p hp
    obtain ⟨h, ho, rfl⟩ := Option.map_eq_some_iff.mp hp
    refine ⟨h, ?_, rfl⟩
    rw [Machine.run_cons, ho]
    rfl
  | leave e =>
    rintro hs _ ⟨⟩
    exact ⟨hs, rfl, if_pos rfl⟩
  | seq hc hd ihc ihd =>
    intro hs p hp
    obtain ⟨q, hq, hp⟩ := Option.bind_eq_some_iff.mp hp
    obtain ⟨h1, hr1, hq1⟩ := ihc hs q hq
    simp only [hq1] at hp
    obtain ⟨q', hq', hp⟩ := Option.bind_eq_some_iff.mp hp
    obtain ⟨h2, hr2, hq2⟩ := ihd h1 q' hq'
    exact ⟨h2, Machine.run_trans hr1 hr2, Post.merge_right hp hq2⟩
  | seqLeft hc hne ih =>
    intro hs p hp
    obtain ⟨q, hq, hp⟩ := Option.bind_eq_some_iff.mp hp
    obtain ⟨h1, hr1, hq1⟩ := ih hs q hq
    refine ⟨h1, hr1, ?_⟩
    cases hnext : q .next with
    | none =>
      simp only [hnext] at hp
      cases hp
      exact hq1
    | some h =>
      simp only [hnext] at hp
      obtain ⟨q', -, hp⟩ := Option.bind_eq_some_iff.mp hp
      refine Post.merge_left hp ?_
      rw [Post.without, if_neg hne, hq1]
  | altLeft hc ih =>
    intro hs p hp
    obtain ⟨q, hq, hp⟩ := Option.bind_eq_some_iff.mp hp
    obtain ⟨q', -, hp⟩ := Option.bind_eq_some_iff.mp hp
    obtain ⟨h1, hr1, hq1⟩ := ih hs q hq
    exact ⟨h1, hr1, Post.merge_left hp hq1⟩
  | altRight hd ih =>
    intro hs p hp
    obtain ⟨q, -, hp⟩ := Option.bind_eq_some_iff.mp hp
    obtain ⟨q', hq', hp⟩ := Option.bind_eq_some_iff.mp hp
    obtain ⟨h1, hr1, hq1⟩ := ih hs q' hq'
    exact ⟨h1, hr1, Post.merge_right hp hq1⟩
  | @again c xs ys e f hc he hl ihc ihl =>
    intro hs p hp
    obtain ⟨q, hq, hp'⟩ := Option.bind_eq_some_iff.mp hp
    obtain ⟨h1, hr1, hq1⟩ := ihc hs q hq
    split at hp'
    · rename_i hsame
      -- the next round starts with the same locks
      have hmem : e ∈ [Exit.next, .cont] := by rcases he with rfl | rfl <;> decide
      have h1eq : h1 = hs := by
        rcases hsame e hmem with hno | hh <;> rw [hq1] at *
        · cases hno
        · exact Option.some.inj hh
      subst h1eq
      obtain ⟨h2, hr2, hq2⟩ := ihl h1 p hp
      exact ⟨h2, Machine.run_trans hr1 hr2, hq2⟩
    · cases hp'
  | broken hc ih =>
    intro hs p hp
    obtain ⟨q, hq, hp⟩ := Option.bind_eq_some_iff.mp hp
    obtain ⟨h1, hr1, hq1⟩ := ih hs q hq
    split at hp
    · cases hp
      exact ⟨h1, hr1, hq1⟩
    · cases hp
  | left hc he ih =>
    intro hs p hp
    obtain ⟨q, hq, hp⟩ := Option.bind_eq_some_iff.mp hp
    obtain ⟨h1, hr1, hq1⟩ := ih hs q hq
    split at hp
    · cases hp
      refine ⟨h1, hr1, ?_⟩
      rcases he with rfl | rfl <;> exact hq1
    · cases hp
  | caught hc ih =>
    intro hs p hp
    obtain ⟨q, hq, hp⟩ := Option.bind_eq_some_iff.mp hp
    obtain ⟨h1, hr1, hq1⟩ := ih hs q hq
    refine ⟨h1, hr1, Post.merge_right hp ?_⟩
    rw [Post.only, if_pos rfl, hq1]
  | passed hc hne ih =>
    intro hs p hp
    obtain ⟨q, hq, hp⟩ := Option.bind_eq_some_iff.mp hp
    obtain ⟨h1, hr1, hq1⟩ := ih hs q hq
    refine ⟨h1, hr1, Post.merge_left hp ?_⟩
    rw [Post.without, if_neg hne, hq1]

theorem balanced_run (hb : balanced ok c = true) (hr : Runs c ops e) :
    Machine.run (acquire ok) [] ops = some [] := by
  unfold balanced at hb
  split at hb
  · cases hb
  · rename_i p hp
    obtain ⟨hs, hrun, hpe⟩ := check_sound hr [] p hp
    rcases of_decide_eq_true hb e (mem_exits e) with hno | hnil
    · rw [hpe] at hno
      cases hno
    · rw [hpe] at hnil
      cases hnil
      exact hrun

end Locks
