import Apq8084.Ril.Nitz

/-! How `nitzTimeReceivedInd` of `ril_service.cpp` makes the string for its client: a copy of the
payload, the search for the third comma in it, and a `hidl_string` that refers to the copy. -/
namespace Apq8084.Ril.Nitz

/-- A read of the copy, and whether it was still allocated. -/
structure Read where
  position : Nat
  allocated : Bool

inductive Search where
  | found (position : Nat)
  | notFound
  /-- The end of the copy was passed without a terminator. -/
  | ranOff
deriving DecidableEq

/-- `strchr` in the bytes from the position `p` on, with the positions that are read. -/
def strchr (c : UInt8) : Nat → List UInt8 → List Nat × Search
  | p, [] => ([p], .ranOff)
  | p, b :: bs =>
    if b = c then ([p], .found p)
    else if b = 0 then ([p], .notFound)
    else (p :: (strchr c (p + 1) bs).1, (strchr c (p + 1) bs).2)

/-- The loop, for so many rounds more; `none` once the search has left the copy. -/
def findComma (copy : List UInt8) : Nat → Option Nat → List Nat × Option (Option Nat)
  | 0, tmp => ([], some tmp)
  | n + 1, none => findComma copy n none
  | n + 1, some p =>
    match strchr 44 (p + 1) (copy.drop (p + 1)) with
    | (reads, .found q) => (reads ++ (findComma copy n (some q)).1, (findComma copy n (some q)).2)
    | (reads, .notFound) => (reads ++ (findComma copy n none).1, (findComma copy n none).2)
    | (reads, .ranOff) => (reads, none)

/-- What is done with the copy, and the string that the client finds. -/
structure Handling where
  /-- The size of the copy. -/
  size : Nat
  reads : List Read
  nitzTime : Option (List UInt8)

/-- The string up to the first NUL, or all of it. -/
def text (response : List UInt8) : List UInt8 := response.takeWhile (· ≠ 0)

def cutAt (copy : List UInt8) : Option Nat → List UInt8
  | none => copy
  | some tmp => copy.set tmp 0

def readAll (allocated : Bool) (positions : List Nat) : List Read :=
  positions.map fun p => { position := p, allocated := allocated }

/-- The call for a client that is there; without a payload nothing is done. Nothing is said of what
follows a search that has left the copy. -/
def handleNitzTime (response : List UInt8) : Option Handling :=
  if response = [] then none
  else
    let copy := text response ++ [0]
    let (scanned, result) := findComma copy 3 (some 0)
    match result with
    | none =>
      some { size := copy.length, reads := readAll true scanned, nitzTime := none }
    | some tmp =>
      let resp := cutAt copy tmp
      let strlen := (text resp).length
      -- `nitzTime` refers to `resp` from here on, and `free(resp)` comes before the call
      some
        { size := copy.length
          reads := readAll true scanned ++ readAll true (List.range (strlen + 1)) ++
            readAll false (List.range strlen)
          nitzTime := some (resp.take strlen) }

/-- The string is cut before its third comma, no read is outside of the copy, and it is allocated
at every read. -/
structure Promised (response : List UInt8) (h : Handling) : Prop where
  nitzTime : h.nitzTime = some (beforeComma 3 (text response))
  inside : ∀ r ∈ h.reads, r.position < h.size
  allocated : ∀ r ∈ h.reads, r.allocated = true

variable {c : UInt8} {n p : Nat} {s t front : List UInt8}

/-! ### The search -/

theorem strchr_notFound (hzero : 0 ∉ t) (hcomma : 44 ∉ t) :
    strchr 44 p (t ++ [0]) = (List.range' p (t.length + 1), .notFound) := by
  induction t generalizing p with
  | nil => rfl
  | cons b t ih =>
    simp only [List.mem_cons, not_or] at hzero hcomma
    have h := @ih (p + 1) hzero.2 hcomma.2
    rw [List.cons_append, strchr, if_neg (Ne.symm hcomma.1), if_neg (Ne.symm hzero.1), h]
    rfl

theorem strchr_found (hzero : 0 ∉ s) (hcomma : 44 ∉ s) :
    strchr 44 p (s ++ 44 :: t) = (List.range' p (s.length + 1), .found (p + s.length)) := by
  induction s generalizing p with
  | nil => rfl
  | cons b s ih =>
    simp only [List.mem_cons, not_or] at hzero hcomma
    have h := @ih (p + 1) hzero.2 hcomma.2
    have hposition : p + 1 + s.length = p + (s.length + 1) := by omega
    rw [List.cons_append, strchr, if_neg (Ne.symm hcomma.1), if_neg (Ne.symm hzero.1), h,
      hposition]
    rfl

theorem beforeComma_of_not_mem (h : 44 ∉ t) : beforeComma n t = t := by
  induction t with
  | nil => rfl
  | cons b t ih =>
    simp only [List.mem_cons, not_or] at h
    rw [beforeComma, if_neg (Ne.symm h.1), ih h.2]

theorem beforeComma_append (h : 44 ∉ s) :
    beforeComma n (s ++ 44 :: t) =
      if n ≤ 1 then s else s ++ 44 :: beforeComma (n - 1) t := by
  induction s with
  | nil => rfl
  | cons b s ih =>
    simp only [List.mem_cons, not_or] at h
    rw [List.cons_append, beforeComma, if_neg (Ne.symm h.1), ih h.2]
    split <;> rfl

/-- A text without a comma, or its first comma with what stands on both sides of it. -/
theorem comma_cases (t : List UInt8) : 44 ∉ t ∨ ∃ s u, t = s ++ 44 :: u ∧ 44 ∉ s := by
  by_cases h : 44 ∈ t
  · obtain ⟨s, u, hst, hs⟩ := List.eq_append_cons_of_mem h
    exact Or.inr ⟨s, u, hst, hs⟩
  · exact Or.inl h

theorem findComma_none (copy : List UInt8) (n : Nat) : findComma copy n none = ([], some none) := by
  induction n with
  | zero => rfl
  | succ n ih => exact ih

/-- The result of a search that began behind `front`. -/
def Finds (copy front t : List UInt8) (n : Nat) (tmp : Option Nat) : Prop :=
  match tmp with
  | none => beforeComma n t = t
  | some q => front.length ≤ q ∧ q < copy.length ∧ copy.take q = front ++ beforeComma n t

theorem finds_front {copy : List UInt8} {tmp : Option Nat} (hs : 44 ∉ s)
    (h : Finds copy (front ++ s ++ [44]) t (n + 1) tmp) :
    Finds copy front (s ++ 44 :: t) (n + 2) tmp := by
  have hbefore : beforeComma (n + 2) (s ++ 44 :: t) = s ++ 44 :: beforeComma (n + 1) t := by
    rw [beforeComma_append hs, if_neg (by omega)]
    rfl
  cases tmp with
  | none =>
    have h' : beforeComma (n + 1) t = t := h
    exact hbefore.trans (by rw [h'])
  | some q =>
    obtain ⟨hle, hlt, htake⟩ := h
    simp only [List.length_append, List.length_cons, List.length_nil] at hle
    refine ⟨by omega, hlt, ?_⟩
    rw [htake, hbefore]
    simp

theorem round_notFound (hzero : 0 ∉ t) (hcomma : 44 ∉ t) (hfront : front.length = p + 1) :
    findComma (front ++ t ++ [0]) (n + 1) (some p) =
      (List.range' (p + 1) (t.length + 1), some none) := by
  have hdrop : (front ++ t ++ [0]).drop (p + 1) = t ++ [0] := by
    rw [List.append_assoc, ← hfront, List.drop_left]
  simp only [findComma, hdrop, strchr_notFound hzero hcomma, findComma_none, List.append_nil]

theorem round_found (hzero : 0 ∉ s) (hcomma : 44 ∉ s) (hfront : front.length = p + 1) :
    findComma (front ++ (s ++ 44 :: t) ++ [0]) (n + 1) (some p) =
      (List.range' (p + 1) (s.length + 1) ++
          (findComma (front ++ (s ++ 44 :: t) ++ [0]) n (some (p + 1 + s.length))).1,
        (findComma (front ++ (s ++ 44 :: t) ++ [0]) n (some (p + 1 + s.length))).2) := by
  have hdrop : (front ++ (s ++ 44 :: t) ++ [0]).drop (p + 1) = s ++ 44 :: (t ++ [0]) := by
    rw [List.append_assoc, ← hfront, List.drop_left, List.append_assoc]
    rfl
  simp only [findComma, hdrop, strchr_found hzero hcomma]

/-- The search stays within the copy and finds the comma in the text behind `front`. -/
def Searches (front t : List UInt8) (n p : Nat) : Prop :=
  ∃ reads tmp, findComma (front ++ t ++ [0]) n (some p) = (reads, some tmp) ∧
    (∀ r ∈ reads, r < (front ++ t ++ [0]).length) ∧ Finds (front ++ t ++ [0]) front t n tmp

theorem searches_notFound (hzero : 0 ∉ t) (hcomma : 44 ∉ t) (hfront : front.length = p + 1) :
    Searches front t (n + 1) p := by
  refine ⟨_, none, round_notFound hzero hcomma hfront, ?_, beforeComma_of_not_mem hcomma⟩
  intro r hr
  rw [List.mem_range'_1] at hr
  simp only [List.length_append, List.length_cons, List.length_nil]
  omega

theorem mem_round_reads {r : Nat} (hfront : front.length = p + 1)
    (hr : r ∈ List.range' (p + 1) (s.length + 1)) :
    r < (front ++ (s ++ 44 :: t) ++ [0]).length := by
  rw [List.mem_range'_1] at hr
  simp only [List.length_append, List.length_cons, List.length_nil]
  omega

/-- The rounds from the last character of `front` on. -/
theorem findComma_searches (hzero : 0 ∉ t) (hfront : front.length = p + 1) :
    Searches front t (n + 1) p := by
  induction n generalizing t front p with
  | zero =>
    rcases comma_cases t with hcomma | ⟨s, u, rfl, hs⟩
    · exact searches_notFound hzero hcomma hfront
    · have hzeros : 0 ∉ s := fun h => hzero (List.mem_append_left _ h)
      have hlen : (front ++ s).length = p + 1 + s.length := by
        rw [List.length_append, hfront]
      have hcopy : front ++ (s ++ 44 :: u) ++ [0] = front ++ s ++ (44 :: u ++ [0]) := by simp
      refine ⟨_, some (p + 1 + s.length), round_found hzeros hs hfront, ?_, ?_, ?_, ?_⟩
      · intro r hr
        rw [findComma, List.append_nil] at hr
        exact mem_round_reads hfront hr
      · omega
      · simp only [List.length_append, List.length_cons, List.length_nil]
        omega
      · rw [hcopy, ← hlen, List.take_left, beforeComma_append hs, if_pos (Nat.le_refl _)]
  | succ n ih =>
    rcases comma_cases t with hcomma | ⟨s, u, rfl, hs⟩
    · exact searches_notFound hzero hcomma hfront
    · have hzeros : 0 ∉ s := fun h => hzero (List.mem_append_left _ h)
      have hzerou : 0 ∉ u := fun h =>
        hzero (List.mem_append_right _ (List.mem_cons_of_mem _ h))
      have hlen : (front ++ s ++ [44]).length = p + 1 + s.length + 1 := by
        rw [List.length_append, List.length_append, hfront]
        rfl
      have hcopy : front ++ (s ++ 44 :: u) ++ [0] = front ++ s ++ [44] ++ u ++ [0] := by simp
      obtain ⟨reads, tmp, hfind, hreads, hfinds⟩ := ih hzerou hlen
      rw [← hcopy] at hfind hreads hfinds
      refine ⟨List.range' (p + 1) (s.length + 1) ++ reads, tmp, ?_, ?_, finds_front hs hfinds⟩
      · rw [round_found hzeros hs hfront, hfind]
      · intro r hr
        rcases List.mem_append.mp hr with hr | hr
        · exact mem_round_reads hfront hr
        · exact hreads r hr

/-! ### The string -/

theorem text_append_zero (hzero : 0 ∉ s) : text (s ++ 0 :: t) = s := by
  have h : ∀ b ∈ s, decide (b ≠ 0) = true := by
    intro b hb
    exact decide_eq_true fun h => hzero (h ▸ hb)
  rw [text, List.takeWhile_append_of_pos h, List.takeWhile_cons_of_neg (by simp), List.append_nil]

theorem zero_not_mem_text (response : List UInt8) : 0 ∉ text response := by
  intro h
  have hall := List.all_eq_true.mp List.all_takeWhile 0 h
  exact absurd hall (by decide)

theorem mem_of_mem_beforeComma {b : UInt8} (h : b ∈ beforeComma n t) : b ∈ t := by
  induction t generalizing n with
  | nil => exact h
  | cons a t ih =>
    rw [beforeComma] at h
    split at h
    · split at h
      · cases h
      · exact List.mem_cons.mpr ((List.mem_cons.mp h).imp_right ih)
    · exact List.mem_cons.mpr ((List.mem_cons.mp h).imp_right ih)

/-- What is left of the copy of a text that is not empty. -/
theorem text_cutAt {tmp : Option Nat} (hzero : 0 ∉ c :: t)
    (h : Finds (c :: t ++ [0]) [c] t 3 tmp) :
    text (cutAt (c :: t ++ [0]) tmp) = c :: beforeComma 3 t := by
  cases tmp with
  | none =>
    have h' : beforeComma 3 t = t := h
    rw [h', cutAt, text_append_zero hzero]
  | some q =>
    obtain ⟨-, hlt, htake⟩ := h
    have hset : cutAt (c :: t ++ [0]) (some q) =
        c :: beforeComma 3 t ++ 0 :: (c :: t ++ [0]).drop (q + 1) := by
      rw [cutAt, List.set_eq_take_append_cons_drop, if_pos hlt, htake]
      rfl
    rw [hset, text_append_zero]
    intro hb
    exact hzero (List.mem_cons.mpr ((List.mem_cons.mp hb).imp_right mem_of_mem_beforeComma))

/-- A text that is not empty is handled within the copy, up to the call. -/
theorem handleNitzTime_text {response : List UInt8} (h : text response = c :: t) :
    ∃ scanned, (∀ r ∈ scanned, r < (c :: t ++ [0]).length) ∧
      handleNitzTime response = some
        { size := (c :: t ++ [0]).length
          reads := readAll true scanned ++
            readAll true (List.range ((c :: beforeComma 3 t).length + 1)) ++
            readAll false (List.range (c :: beforeComma 3 t).length)
          nitzTime := some (c :: beforeComma 3 t) } := by
  have hzero := zero_not_mem_text response
  rw [h] at hzero
  have hzerot : 0 ∉ t := fun ht => hzero (List.mem_cons_of_mem _ ht)
  have hne : response ≠ [] := by
    rintro rfl
    cases h
  obtain ⟨scanned, tmp, hfind, hscanned, hfinds⟩ :=
    @findComma_searches 2 0 t [c] hzerot rfl
  refine ⟨scanned, hscanned, ?_⟩
  have hresp := text_cutAt hzero hfinds
  have htake : (cutAt (c :: t ++ [0]) tmp).take (c :: beforeComma 3 t).length =
      c :: beforeComma 3 t := by
    rw [← hresp]
    exact (List.prefix_iff_eq_take.mp (List.takeWhile_prefix _)).symm
  have hfind' : findComma (c :: t ++ [0]) 3 (some 0) = (scanned, some tmp) := hfind
  unfold handleNitzTime
  simp only [if_neg hne, h, hfind', hresp, htake]

/-- Nothing but a NUL in front: the search begins behind the copy. -/
theorem handleNitzTime_empty {response : List UInt8} (hne : response ≠ [])
    (h : text response = []) :
    handleNitzTime response =
      some { size := 1, reads := readAll true [1], nitzTime := none } := by
  unfold handleNitzTime
  rw [if_neg hne, h]
  rfl

/-! ### What the client finds -/

theorem nitzTime_of_text {response : List UInt8} {c : UInt8} (hs : text response = c :: t) :
    nitzTime response = c :: beforeComma 3 t := by
  have hs' : response.takeWhile (· ≠ 0) = c :: t := hs
  simp only [nitzTime, hs']

theorem nitzTime_of_empty {response : List UInt8} (hs : text response = []) :
    nitzTime response = [] := by
  have hs' : response.takeWhile (· ≠ 0) = [] := hs
  simp only [nitzTime, hs']

/-- The client gets the string that the log of deliveries has. -/
theorem handleNitzTime_nitzTime {response : List UInt8} (h : text response ≠ []) :
    (handleNitzTime response).map Handling.nitzTime = some (some (nitzTime response)) := by
  cases hs : text response with
  | nil => exact absurd hs h
  | cons c t =>
    obtain ⟨scanned, -, hhandle⟩ := handleNitzTime_text hs
    rw [hhandle, nitzTime_of_text hs]
    rfl

theorem count_beforeComma (t : List UInt8) :
    (beforeComma (n + 1) t).count 44 = min n (t.count 44) := by
  induction t generalizing n with
  | nil => simp [beforeComma]
  | cons b t ih =>
    rw [beforeComma]
    by_cases hb : b = 44
    · subst hb
      cases n with
      | zero => simp
      | succ n =>
        have hn : ¬n + 1 + 1 ≤ 1 := by omega
        rw [if_pos rfl, if_neg hn, List.count_cons_self, List.count_cons_self,
          Nat.add_sub_cancel, ih]
        omega
    · rw [if_neg hb, List.count_cons_of_ne hb, List.count_cons_of_ne hb, ih]

theorem beforeComma_of_count (h : t.count 44 ≤ n) : beforeComma (n + 1) t = t := by
  induction t generalizing n with
  | nil => rfl
  | cons b t ih =>
    rw [beforeComma]
    by_cases hb : b = 44
    · subst hb
      rw [List.count_cons_self] at h
      cases n with
      | zero => omega
      | succ n =>
        have hn : ¬n + 1 + 1 ≤ 1 := by omega
        rw [if_pos rfl, if_neg hn, Nat.add_sub_cancel, ih (by omega)]
    · rw [List.count_cons_of_ne hb] at h
      rw [if_neg hb, ih h]

/-- The string is cut where it should be unless it begins with a comma and has two more: the
search leaves the first character out. -/
theorem nitzTime_eq_iff {response : List UInt8} :
    nitzTime response = beforeComma 3 (text response) ↔
      ¬((text response).head? = some 44 ∧ 3 ≤ (text response).count 44) := by
  cases hs : text response with
  | nil => simp [nitzTime_of_empty hs, beforeComma]
  | cons c t =>
    rw [nitzTime_of_text hs]
    by_cases hc : c = 44
    · subst hc
      simp only [beforeComma, if_true, List.head?_cons, true_and, List.count_cons_self]
      rw [if_neg (by omega), List.cons.injEq]
      constructor
      · rintro ⟨-, h⟩ hcount
        have hcounts := congrArg (List.count 44) h
        rw [count_beforeComma, count_beforeComma] at hcounts
        omega
      · intro hcount
        have hlt : t.count 44 ≤ 1 := by omega
        exact ⟨rfl, (beforeComma_of_count (by omega)).trans (beforeComma_of_count hlt).symm⟩
    · simp [beforeComma, hc]

/-- No handling of a payload keeps the promise: the string refers to a copy that has been freed, or
the search has left the copy. -/
theorem not_promised (b : UInt8) (rest : List UInt8) :
    ∃ h, handleNitzTime (b :: rest) = some h ∧ ¬Promised (b :: rest) h := by
  cases hs : text (b :: rest) with
  | nil =>
    refine ⟨_, handleNitzTime_empty (List.cons_ne_nil b rest) hs, ?_⟩
    intro hpromised
    have hinside := hpromised.inside ⟨1, true⟩ (List.mem_singleton_self _)
    exact Nat.lt_irrefl 1 hinside
  | cons c t =>
    obtain ⟨scanned, -, hhandle⟩ := handleNitzTime_text hs
    refine ⟨_, hhandle, ?_⟩
    intro hpromised
    have hread : (⟨0, false⟩ : Read) ∈
        readAll false (List.range (c :: beforeComma 3 t).length) :=
      List.mem_map.mpr ⟨0, List.mem_range.mpr (Nat.succ_pos _), rfl⟩
    cases hpromised.allocated _ (List.mem_append_right _ hread)

theorem length_beforeComma_le (n : Nat) (t : List UInt8) :
    (beforeComma n t).length ≤ t.length := by
  induction t generalizing n with
  | nil => exact Nat.le_refl 0
  | cons b t ih =>
    rw [beforeComma]
    split
    · split
      · exact Nat.zero_le _
      · exact Nat.succ_le_succ (ih _)
    · exact Nat.succ_le_succ (ih _)

theorem mem_readAll {r : Read} {allocated : Bool} {positions : List Nat}
    (h : r ∈ readAll allocated positions) : r.position ∈ positions := by
  obtain ⟨p, hp, rfl⟩ := List.mem_map.mp h
  exact hp

/-- The reads stay within the copy exactly if there is something to search. -/
theorem reads_inside_iff {response : List UInt8} {h : Handling}
    (hh : handleNitzTime response = some h) :
    (∀ r ∈ h.reads, r.position < h.size) ↔ text response ≠ [] := by
  have hne : response ≠ [] := by
    rintro rfl
    cases hh
  cases hs : text response with
  | nil =>
    rw [handleNitzTime_empty hne hs] at hh
    cases hh
    apply iff_of_false
    · intro hinside
      exact Nat.lt_irrefl 1 (hinside ⟨1, true⟩ (List.mem_singleton_self _))
    · exact fun hnot => hnot rfl
  | cons c t =>
    obtain ⟨scanned, hscanned, hhandle⟩ := handleNitzTime_text hs
    rw [hhandle] at hh
    cases hh
    have hlen : (c :: beforeComma 3 t).length + 1 ≤ (c :: t ++ [0]).length := by
      have := length_beforeComma_le 3 t
      simp only [List.length_append, List.length_cons, List.length_nil]
      omega
    refine iff_of_true ?_ (List.cons_ne_nil c t)
    intro r hr
    rcases List.mem_append.mp hr with hr | hr
    · rcases List.mem_append.mp hr with hr | hr
      · exact hscanned _ (mem_readAll hr)
      · exact Nat.lt_of_lt_of_le (List.mem_range.mp (mem_readAll hr)) hlen
    · exact Nat.lt_of_lt_of_le (List.mem_range.mp (mem_readAll hr)) (Nat.le_of_succ_le hlen)

/-- A payload of one character. -/
theorem not_promised_one :
    ¬∀ response h, response ≠ [] → handleNitzTime response = some h → Promised response h := by
  intro hall
  have hpromised := hall [49] _ (List.cons_ne_nil _ _) rfl
  have hread : (⟨0, false⟩ : Read) ∈ readAll false (List.range 1) := List.mem_singleton_self _
  cases hpromised.allocated _ (List.mem_append_right _ hread)

end Apq8084.Ril.Nitz
