import Apq8084.Lib.Machine

/-! First-in first-out queues whose writer fills a batch before it becomes readable. -/

universe u

/-- Records already taken, records ready to be taken, and the batch still being filled. -/
structure Fifo (ε : Type u) where
  popped : List ε
  queue : List ε
  batch : List ε

namespace Fifo

variable {ε : Type u} {s t : Fifo ε}

inductive Op (ε : Type u) where
  | put (e : ε)
  | commit
  | pop

def step (s : Fifo ε) : Op ε → Option (Fifo ε)
  | .put e => some { s with batch := s.batch ++ [e] }
  | .commit => some { s with queue := s.queue ++ s.batch, batch := [] }
  | .pop => some <|
    match s.queue with
    | [] => s
    | e :: queue => { s with popped := s.popped ++ [e], queue := queue }

/-- Everything ever put, oldest first. -/
def received (s : Fifo ε) : List ε := s.popped ++ s.queue ++ s.batch

/-- The records that a list of operations puts. -/
def puts : List (Op ε) → List ε
  | [] => []
  | .put e :: ops => e :: puts ops
  | .commit :: ops => puts ops
  | .pop :: ops => puts ops

/-- No operation loses, duplicates or reorders a record. -/
theorem step_received {op : Op ε} (h : s.step op = some t) :
    t.received = s.received ++ puts [op] := by
  cases op with
  | put e =>
    cases h
    simp [received, puts]
  | commit =>
    cases h
    simp [received, puts]
  | pop =>
    cases h
    cases hq : s.queue <;> simp [received, puts, hq]

theorem popped_prefix (s : Fifo ε) : s.popped <+: s.received :=
  ⟨s.queue ++ s.batch, by simp [received]⟩

end Fifo
