import Uplink.Batch.Run

set_option autoImplicit false

/-!
# Goroutines sharing the aggregator

Every method of `Aggregator` holds `a.mu` for its whole body: `a.mu.Lock()`, then
`defer a.mu.Unlock()`. Here any number of goroutines call the methods at once, and a step is one
statement of one goroutine that touches the aggregator: `a.mu.Lock()`, which waits while another
goroutine holds the mutex; the read of `a.scheduled` and the write of the longer list in
`a.scheduled = append(a.scheduled, batchItem)`; `batchItems := a.scheduled`;
`a.scheduled = a.scheduled[:0]`; the call of `Batch`; the deferred `a.mu.Unlock()`. Any goroutine
may take the next step. What `Batch` answers each call is part of the call, as in `run`: given
the answers the batcher gave in a run, the same steps replay it, so the runs cover every batcher.

* `Pc`, `body`: where a goroutine is in a method, and the statements of the bodies;
* `Sys`, `Sys.step`, `Sys.exec`: the goroutines and the aggregator, and runs of steps;
* `Sys.Inv`, `Sys.exec_inv`: the invariant every run keeps; the goroutine that holds `a.mu` is
  part way through the last call to take it (`Stage`);
* **`exec_linearizable`**: every call returns what it returns when the calls are made one at a
  time in the order they took `a.mu`, an order that keeps each goroutine's calls in its own
  order, and whenever `a.mu` is free the aggregator and the lists handed to `Batch` are those of
  `run` over that order;
* **`exec_hands_each_item_to_batch_once`**: in every interleaving no item is lost or handed to
  `Batch` twice.
-/

namespace Uplink.BatchAggregator

variable {Item Resp Err : Type}

/-! ## What the calls return, one at a time -/

/-- What a method call returns: nothing for `Schedule`, the response and the error of
`ScheduleAndFlush`, the error of `Flush`. -/
inductive Ret (Resp Err : Type)
  | schedule
  | scheduleAndFlush (reply : Reply Resp Err)
  | flush (err : Option Err)

/-- What the call returns, made alone on `a`. -/
def Call.ret : Call Item Resp Err → Aggregator Item → Ret Resp Err
  | .schedule _, _ => .schedule
  | .scheduleAndFlush x answer, a => .scheduleAndFlush (a.scheduleAndFlush x answer).ret
  | .flush answer, a => .flush (a.flush answer).ret

/-- What the calls of `order` return, with their goroutines, made one at a time after `t`. -/
def repliesFrom : Trace Item → List (ℕ × Call Item Resp Err) → List (ℕ × Ret Resp Err)
  | _, [] => []
  | t, (i, c) :: order => (i, c.ret t.agg) :: repliesFrom (t.step c) order

/-- What the calls of `order` return, made one at a time on an aggregator made by `New`. -/
def replies (order : List (ℕ × Call Item Resp Err)) : List (ℕ × Ret Resp Err) :=
  repliesFrom ⟨new, []⟩ order

theorem run_append_singleton (calls : List (Call Item Resp Err)) (c : Call Item Resp Err) :
    run (calls ++ [c]) = (run calls).step c := by
  simp only [run, List.foldl_append, List.foldl_cons, List.foldl_nil]

theorem repliesFrom_append_singleton (t : Trace Item) (order : List (ℕ × Call Item Resp Err))
    (i : ℕ) (c : Call Item Resp Err) :
    repliesFrom t (order ++ [(i, c)]) =
      repliesFrom t order ++ [(i, c.ret ((order.map Prod.snd).foldl Trace.step t).agg)] := by
  induction order generalizing t with
  | nil => rfl
  | cons p order ih =>
    obtain ⟨j, d⟩ := p
    simp only [List.cons_append, List.append_eq, repliesFrom, ih, List.map_cons, List.foldl_cons]

theorem replies_append_singleton (order : List (ℕ × Call Item Resp Err)) (i : ℕ)
    (c : Call Item Resp Err) :
    replies (order ++ [(i, c)]) = replies order ++ [(i, c.ret (run (order.map Prod.snd)).agg)] :=
  repliesFrom_append_singleton _ _ _ _

theorem length_repliesFrom (t : Trace Item) (order : List (ℕ × Call Item Resp Err)) :
    (repliesFrom t order).length = order.length := by
  induction order generalizing t with
  | nil => rfl
  | cons p order ih => simp only [repliesFrom, List.length_cons, ih]

theorem length_replies (order : List (ℕ × Call Item Resp Err)) :
    (replies order).length = order.length :=
  length_repliesFrom _ _

/-! ## The statements of the bodies -/

/-- Where a goroutine is in the body of its current call. -/
inductive Pc (Item Resp Err : Type)
  /-- It has taken `a.mu`. -/
  | locked
  /-- In `a.scheduled = append(a.scheduled, batchItem)`, it has read `a.scheduled`. -/
  | appending (scheduled : List Item)
  /-- At the first statement of `issueBatchLocked`. -/
  | issuing
  /-- After `batchItems := a.scheduled`. -/
  | taken (batchItems : List Item)
  /-- After `a.scheduled = a.scheduled[:0]`. -/
  | cleared (batchItems : List Item)
  /-- The body has returned `ret`; the deferred `a.mu.Unlock()` is next. -/
  | returning (ret : Ret Resp Err)

/-- `if len(batchItems) == 0 { return nil, nil }; return a.batcher.Batch(ctx, batchItems...)`:
what `issueBatchLocked` returns, `Batch` answering `answer`. -/
def batchCall (batchItems : List Item) (answer : BatchResult Resp Err) : BatchResult Resp Err :=
  if batchItems.isEmpty then ⟨[], none⟩ else answer

/-- The lists that the last statement of `issueBatchLocked` hands to `Batch`. -/
def handed (batchItems : List Item) : List (List Item) :=
  if batchItems.isEmpty then [] else [batchItems]

/-- The statement of the body of call `c` at `p`, on `a.scheduled` and the lists handed to
`Batch` so far: where the goroutine is next, and the two after the statement. The deferred
`a.mu.Unlock()` is a step of `Sys`. -/
def body : Call Item Resp Err → Pc Item Resp Err → List Item → List (List Item) →
    Option (Pc Item Resp Err × List Item × List (List Item))
  | .schedule _, .locked, sch, bs | .scheduleAndFlush _ _, .locked, sch, bs =>
    some (.appending sch, sch, bs)
  | .schedule x, .appending l, _, bs => some (.returning .schedule, l ++ [x], bs)
  | .scheduleAndFlush x _, .appending l, _, bs => some (.issuing, l ++ [x], bs)
  | .flush _, .locked, sch, bs => some (.issuing, sch, bs)
  | _, .issuing, sch, bs => some (.taken sch, sch, bs)
  | _, .taken b, _, bs => some (.cleared b, [], bs)
  | .scheduleAndFlush _ answer, .cleared b, _, bs =>
    some (.returning (.scheduleAndFlush (Reply.ofBatch (batchCall b answer))), [], bs ++ handed b)
  | .flush answer, .cleared b, _, bs =>
    some (.returning (.flush (batchCall b answer).err), [], bs ++ handed b)
  | _, _, _, _ => none

/-! ## The methods in one piece, statement by statement -/

/-- `issueBatchLocked` in one piece hands `Batch` and returns what its statements do. -/
theorem issueBatchLocked_split (a : Aggregator Item) (answer : BatchResult Resp Err) :
    (a.issueBatchLocked answer).issued.toList = handed a.scheduled ∧
      (a.issueBatchLocked answer).ret = batchCall a.scheduled answer := by
  rcases a with ⟨_ | ⟨b, bs⟩⟩ <;> exact ⟨rfl, rfl⟩

section Methods

variable (t : Trace Item) (x : Item) (answer : BatchResult Resp Err)

@[simp] theorem step_schedule :
    t.step (.schedule x : Call Item Resp Err) = ⟨⟨t.agg.scheduled ++ [x]⟩, t.batches⟩ := by
  simp [Trace.step, Call.apply, Aggregator.schedule]

@[simp] theorem step_scheduleAndFlush :
    t.step (.scheduleAndFlush x answer) = ⟨new, t.batches ++ [t.agg.scheduled ++ [x]]⟩ := by
  simp [Trace.step, Call.apply]

@[simp] theorem step_flush :
    t.step (.flush answer : Call Item Resp Err) = ⟨new, t.batches ++ handed t.agg.scheduled⟩ := by
  simp only [Trace.step, Call.apply, Aggregator.flush, Aggregator.issueBatchLocked_agg,
    (issueBatchLocked_split t.agg answer).1]

@[simp] theorem ret_scheduleAndFlush :
    (Call.scheduleAndFlush x answer).ret t.agg = .scheduleAndFlush (Reply.ofBatch answer) := by
  rw [Call.ret, Aggregator.scheduleAndFlush_ret]

@[simp] theorem ret_flush :
    (Call.flush answer : Call Item Resp Err).ret t.agg =
      .flush (batchCall t.agg.scheduled answer).err := by
  simp only [Call.ret, Aggregator.flush, (issueBatchLocked_split t.agg answer).2]

end Methods

/-- How far call `c` is at `p`, having taken `a.mu` after the calls that left the trace `t`: what
`a.scheduled` and the lists handed to `Batch` are. -/
def Stage (c : Call Item Resp Err) (t : Trace Item) :
    Pc Item Resp Err → List Item → List (List Item) → Prop
  | .locked, sch, bs => sch = t.agg.scheduled ∧ bs = t.batches
  | .appending l, sch, bs => c.item?.isSome ∧ l = t.agg.scheduled ∧ sch = l ∧ bs = t.batches
  | .issuing, sch, bs => c.Flushes ∧ sch = t.agg.scheduled ++ c.item?.toList ∧ bs = t.batches
  | .taken b, sch, bs =>
    c.Flushes ∧ b = t.agg.scheduled ++ c.item?.toList ∧ sch = b ∧ bs = t.batches
  | .cleared b, sch, bs =>
    c.Flushes ∧ b = t.agg.scheduled ++ c.item?.toList ∧ sch = [] ∧ bs = t.batches
  | .returning r, sch, bs =>
    r = c.ret t.agg ∧ sch = (t.step c).agg.scheduled ∧ bs = (t.step c).batches

/-- **The statements of a body do what the method does in one piece.** -/
theorem body_stage {c : Call Item Resp Err} {t : Trace Item} {p : Pc Item Resp Err}
    {sch : List Item} {bs : List (List Item)}
    {q : Pc Item Resp Err × List Item × List (List Item)}
    (hs : Stage c t p sch bs) (hq : body c p sch bs = some q) : Stage c t q.1 q.2.1 q.2.2 := by
  cases p with
  | locked =>
    obtain ⟨rfl, rfl⟩ := hs
    cases c <;> cases hq <;> simp [Stage, Call.item?, Call.Flushes]
  | appending l =>
    obtain ⟨hc, rfl, rfl, rfl⟩ := hs
    cases c with
    | schedule x => cases hq; simp [Stage, Call.ret]
    | scheduleAndFlush x answer => cases hq; simp [Stage, Call.item?, Call.Flushes]
    | flush answer => simp [Call.item?] at hc
  | issuing =>
    obtain ⟨hc, rfl, rfl⟩ := hs
    cases c <;> cases hq <;> exact ⟨hc, rfl, rfl, rfl⟩
  | taken b =>
    obtain ⟨hc, rfl, rfl, rfl⟩ := hs
    cases c <;> cases hq <;> exact ⟨hc, rfl, rfl, rfl⟩
  | cleared b =>
    obtain ⟨hc, rfl, -, rfl⟩ := hs
    cases c with
    | schedule x => exact hc.elim
    | scheduleAndFlush x answer => cases hq; simp [Stage, Call.item?, batchCall, handed, new]
    | flush answer => cases hq; simp [Stage, Call.item?, new]
  | returning r => cases c <;> cases hq

/-! ## The goroutines -/

/-- The goroutines and the aggregator: `a.mu` (the goroutine holding it), `a.scheduled`, the
lists handed to `Batch` (a record of the model), each goroutine's calls still to start, the call
each goroutine is in and where, and two records of the model: the calls in the order they took
`a.mu`, and what the calls returned, in order, each with its goroutine. -/
structure Sys (Item Resp Err : Type) where
  mu : Option ℕ
  scheduled : List Item
  batches : List (List Item)
  pending : ℕ → List (Call Item Resp Err)
  pc : ℕ → Option (Call Item Resp Err × Pc Item Resp Err)
  order : List (ℕ × Call Item Resp Err)
  returned : List (ℕ × Ret Resp Err)

namespace Sys

/-- Goroutine `i` is to make the calls `calls i`, on an aggregator made by `New`. -/
def init (calls : ℕ → List (Call Item Resp Err)) : Sys Item Resp Err :=
  ⟨none, new.scheduled, [], calls, fun _ => none, [], []⟩

/-- Goroutine `i` takes `a.mu` to start its call `c`. -/
def lock (s : Sys Item Resp Err) (i : ℕ) (c : Call Item Resp Err)
    (cs : List (Call Item Resp Err)) : Sys Item Resp Err :=
  { s with
    mu := some i
    pc := Function.update s.pc i (some (c, .locked))
    pending := Function.update s.pending i cs
    order := s.order ++ [(i, c)] }

/-- Goroutine `i` runs the deferred `a.mu.Unlock()` of its call, which returned `r`. -/
def unlock (s : Sys Item Resp Err) (i : ℕ) (r : Ret Resp Err) : Sys Item Resp Err :=
  { s with
    mu := none
    pc := Function.update s.pc i none
    returned := s.returned ++ [(i, r)] }

/-- Goroutine `i`, in call `c`, has run a statement of its body. -/
def advance (s : Sys Item Resp Err) (i : ℕ) (c : Call Item Resp Err)
    (q : Pc Item Resp Err × List Item × List (List Item)) : Sys Item Resp Err :=
  { s with
    pc := Function.update s.pc i (some (c, q.1))
    scheduled := q.2.1
    batches := q.2.2 }

/-- The next step of goroutine `i`, `none` when it has nothing left or waits for `a.mu`. -/
def step (s : Sys Item Resp Err) (i : ℕ) : Option (Sys Item Resp Err) :=
  match s.pc i with
  | none =>
    match s.pending i with
    | [] => none
    | c :: cs => if s.mu = none then some (s.lock i c cs) else none
  | some (_, .returning r) => some (s.unlock i r)
  | some (c, p) => (body c p s.scheduled s.batches).map (s.advance i c)

/-- The steps of the goroutines `is`, in order, `none` if one of them cannot be taken. -/
def exec : Sys Item Resp Err → List ℕ → Option (Sys Item Resp Err)
  | s, [] => some s
  | s, i :: is => (s.step i).bind fun s' => exec s' is

theorem exec_cons_eq_some {s s' : Sys Item Resp Err} {i : ℕ} {is : List ℕ} :
    s.exec (i :: is) = some s' ↔ ∃ s₁, s.step i = some s₁ ∧ s₁.exec is = some s' :=
  Option.bind_eq_some

/-- **What a step can do.** -/
theorem step_eq_some {s s' : Sys Item Resp Err} {i : ℕ} (h : s.step i = some s') :
    (∃ c cs, s.pc i = none ∧ s.pending i = c :: cs ∧ s.mu = none ∧ s' = s.lock i c cs) ∨
      (∃ c r, s.pc i = some (c, .returning r) ∧ s' = s.unlock i r) ∨
      (∃ c p q, s.pc i = some (c, p) ∧ body c p s.scheduled s.batches = some q ∧
        s' = s.advance i c q) := by
  unfold step at h
  rcases hpc : s.pc i with _ | ⟨c, p⟩ <;> rw [hpc] at h
  · rcases hpen : s.pending i with _ | ⟨c, cs⟩ <;> rw [hpen] at h
    · cases h
    · by_cases hmu : s.mu = none
      · simp only [hmu, if_true, Option.some.injEq] at h
        exact .inl ⟨c, cs, rfl, rfl, hmu, h.symm⟩
      · simp [hmu] at h
  · cases p with
    | returning r => exact .inr (.inl ⟨c, r, rfl, (Option.some.inj h).symm⟩)
    | _ =>
      obtain ⟨q, hq, rfl⟩ := Option.map_eq_some'.mp h
      exact .inr (.inr ⟨c, _, q, rfl, hq, rfl⟩)

/-! ## The invariant -/

/-- What holds of the goroutines started with `calls`: a goroutine inside a method holds `a.mu`;
each goroutine's calls that took `a.mu`, then those still to start, are its calls; with `a.mu`
free, the aggregator, the lists handed to `Batch` and the returns are those of the calls made one
at a time in the order they took `a.mu`; and the goroutine holding `a.mu` is part way through
the last call to take it, the calls before it having returned as made one at a time. -/
structure Inv (calls : ℕ → List (Call Item Resp Err)) (s : Sys Item Resp Err) : Prop where
  mutex : ∀ i, (s.pc i).isSome → s.mu = some i
  pending : ∀ i, (s.order.filter (·.1 = i)).map Prod.snd ++ s.pending i = calls i
  free : s.mu = none → s.scheduled = (run (s.order.map Prod.snd)).agg.scheduled ∧
    s.batches = (run (s.order.map Prod.snd)).batches ∧ s.returned = replies s.order
  held : ∀ i, s.mu = some i → ∃ c p pre, s.pc i = some (c, p) ∧ s.order = pre ++ [(i, c)] ∧
    s.returned = replies pre ∧ Stage c (run (pre.map Prod.snd)) p s.scheduled s.batches

variable {calls : ℕ → List (Call Item Resp Err)}

theorem inv_init (calls : ℕ → List (Call Item Resp Err)) : Inv calls (init calls) :=
  ⟨fun _ h => by simp [init] at h, fun _ => rfl, fun _ => ⟨rfl, rfl, rfl⟩,
    fun _ h => by cases h⟩

/-- With `a.mu` free, no goroutine is inside a method. -/
theorem Inv.pc_eq_none {s : Sys Item Resp Err} (hs : Inv calls s) (hmu : s.mu = none) (i : ℕ) :
    s.pc i = none :=
  Option.not_isSome_iff_eq_none.mp fun hi => by simp [hs.mutex i hi] at hmu

theorem lock_inv {s : Sys Item Resp Err} (hs : Inv calls s) {i : ℕ} {c : Call Item Resp Err}
    {cs : List (Call Item Resp Err)} (hpc : s.pc i = none) (hpen : s.pending i = c :: cs)
    (hmu : s.mu = none) : Inv calls (s.lock i c cs) := by
  obtain ⟨hsch, hbs, hret⟩ := hs.free hmu
  refine ⟨fun j hj => ?_, fun j => ?_, (fun h => nomatch h), fun j hj => ?_⟩
  · by_cases hji : j = i
    · rw [hji]; rfl
    · simp [lock, Function.update_noteq hji, hs.pc_eq_none hmu j] at hj
  · by_cases hji : j = i
    · subst hji
      simp [lock, List.filter_append, ← hs.pending j, hpen]
    · simp [lock, List.filter_append, Function.update_noteq hji, Ne.symm hji, hs.pending j]
  · cases hj
    exact ⟨c, .locked, s.order, by simp [lock], rfl, hret, hsch, hbs⟩

theorem unlock_inv {s : Sys Item Resp Err} (hs : Inv calls s) {i : ℕ} {c : Call Item Resp Err}
    {r : Ret Resp Err} (hpc : s.pc i = some (c, .returning r)) : Inv calls (s.unlock i r) := by
  have hmu := hs.mutex i (by simp [hpc])
  obtain ⟨c', p, pre, hpc', horder, hret, hstage⟩ := hs.held i hmu
  rw [hpc] at hpc'
  cases hpc'
  obtain ⟨rfl, hsch, hbs⟩ := hstage
  refine ⟨fun j hj => ?_, hs.pending, fun _ => ?_, fun _ h => nomatch h⟩
  · by_cases hji : j = i
    · subst hji; simp [unlock] at hj
    · simp only [unlock, Function.update_noteq hji] at hj
      exact absurd (hmu.symm.trans (hs.mutex j hj)) (by simpa using Ne.symm hji)
  · simp only [unlock, horder, List.map_append, List.map_cons, List.map_nil,
      run_append_singleton, replies_append_singleton]
    exact ⟨hsch, hbs, by rw [hret]⟩

theorem advance_inv {s : Sys Item Resp Err} (hs : Inv calls s) {i : ℕ} {c : Call Item Resp Err}
    {p : Pc Item Resp Err} {q : Pc Item Resp Err × List Item × List (List Item)}
    (hpc : s.pc i = some (c, p)) (hq : body c p s.scheduled s.batches = some q) :
    Inv calls (s.advance i c q) := by
  have hmu := hs.mutex i (by simp [hpc])
  refine ⟨fun j hj => ?_, hs.pending, fun h => by simp [advance, hmu] at h, fun j hj => ?_⟩
  · by_cases hji : j = i
    · rw [hji]; exact hmu
    · simp only [advance, Function.update_noteq hji] at hj
      exact hs.mutex j hj
  · obtain rfl : j = i := Option.some.inj (hj.symm.trans hmu)
    obtain ⟨c', p', pre, hpc', horder, hret, hstage⟩ := hs.held j hmu
    rw [hpc] at hpc'
    cases hpc'
    exact ⟨c, q.1, pre, by simp [advance], horder, hret, body_stage hstage hq⟩

/-- **Every step keeps the invariant.** -/
theorem step_inv {s s' : Sys Item Resp Err} (hs : Inv calls s) {i : ℕ}
    (h : s.step i = some s') : Inv calls s' := by
  rcases step_eq_some h with ⟨c, cs, hpc, hpen, hmu, rfl⟩ | ⟨c, r, hpc, rfl⟩ |
    ⟨c, p, q, hpc, hq, rfl⟩
  · exact lock_inv hs hpc hpen hmu
  · exact unlock_inv hs hpc
  · exact advance_inv hs hpc hq

/-- **Every run keeps the invariant.** -/
theorem exec_inv : ∀ (is : List ℕ) {s s' : Sys Item Resp Err}, Inv calls s →
    s.exec is = some s' → Inv calls s'
  | [], _, _, hs, h => by cases h; exact hs
  | i :: is, _, _, hs, h => by
    obtain ⟨s₁, h₁, h₂⟩ := exec_cons_eq_some.mp h
    exact exec_inv is (step_inv hs h₁) h₂

end Sys

/-! ## Every interleaving -/

section Runs

variable {calls : ℕ → List (Call Item Resp Err)} {is : List ℕ} {s : Sys Item Resp Err}

/-- **Every interleaving is the calls made one at a time, in the order they took `a.mu`.** In
every run, each goroutine's calls that took `a.mu`, then those still to start, are its calls in
its order; every call that has returned returned what it returns when the calls are made one at
a time in that order; and whenever `a.mu` is free, no goroutine is inside a method, every call
that took `a.mu` has returned, and `a.scheduled` and the lists handed to `Batch` are those of
`run` over that order. -/
theorem exec_linearizable (h : (Sys.init calls).exec is = some s) :
    (∀ i, (s.order.filter (·.1 = i)).map Prod.snd ++ s.pending i = calls i) ∧
      s.returned = replies (s.order.take s.returned.length) ∧
      (s.mu = none → (∀ i, s.pc i = none) ∧ s.returned.length = s.order.length ∧
        s.scheduled = (run (s.order.map Prod.snd)).agg.scheduled ∧
        s.batches = (run (s.order.map Prod.snd)).batches) := by
  have hs := Sys.exec_inv is (Sys.inv_init calls) h
  have hfree : s.mu = none → s.returned.length = s.order.length := fun hmu => by
    rw [(hs.free hmu).2.2, length_replies]
  refine ⟨hs.pending, ?_,
    fun hmu => ⟨hs.pc_eq_none hmu, hfree hmu, (hs.free hmu).1, (hs.free hmu).2.1⟩⟩
  cases hmu : s.mu with
  | none => rw [hfree hmu, List.take_length, (hs.free hmu).2.2]
  | some i =>
    obtain ⟨c, p, pre, -, horder, hret, -⟩ := hs.held i hmu
    rw [hret, length_replies, horder, List.take_left' rfl]

/-- Goroutine `0` schedules an item, goroutine `1` flushes it (the batcher failing), then
goroutine `0` schedules and flushes another. -/
theorem exec_linearizable_three_calls :
    let calls : ℕ → List (Call ℕ ℕ Unit) := fun i =>
      if i = 0 then [.schedule 1, .scheduleAndFlush 2 ⟨[5, 6], none⟩]
      else [.flush ⟨[], some ()⟩]
    let is := [0, 0, 0, 0, 1, 1, 1, 1, 1, 1, 0, 0, 0, 0, 0, 0, 0]
    ∃ s, (Sys.init calls).exec is = some s ∧
      (∀ i, (s.order.filter (·.1 = i)).map Prod.snd ++ s.pending i = calls i) ∧
      s.returned = replies (s.order.take s.returned.length) ∧
      (s.mu = none → (∀ i, s.pc i = none) ∧ s.returned.length = s.order.length ∧
        s.scheduled = (run (s.order.map Prod.snd)).agg.scheduled ∧
        s.batches = (run (s.order.map Prod.snd)).batches) := by
  intro calls is
  obtain ⟨s, hs⟩ := Option.isSome_iff_exists.mp (by decide : ((Sys.init calls).exec is).isSome)
  exact ⟨s, hs, exec_linearizable hs⟩

/-- **No item is lost or handed to `Batch` twice, in any interleaving.** Whenever `a.mu` is free,
the lists handed to `Batch`, then `a.scheduled`, are the items of the calls that took `a.mu`, in
that order, and no list handed to `Batch` is empty. -/
theorem exec_hands_each_item_to_batch_once (h : (Sys.init calls).exec is = some s)
    (hmu : s.mu = none) :
    s.batches.flatten ++ s.scheduled = (s.order.map Prod.snd).filterMap Call.item? ∧
      ∀ b ∈ s.batches, b ≠ [] := by
  obtain ⟨hsch, hbs, -⟩ := (Sys.exec_inv is (Sys.inv_init calls) h).free hmu
  rw [hsch, hbs]
  exact ⟨by simpa [new] using foldl_step_conserves (s.order.map Prod.snd) ⟨new, []⟩,
    foldl_step_batches_ne_nil _ _ (by simp)⟩

/-- Goroutine `0` schedules an item, goroutine `1` flushes it to `Batch`, and goroutine `0`
schedules another, which stays scheduled. -/
theorem exec_hands_each_item_to_batch_once_flush_between :
    let calls : ℕ → List (Call ℕ ℕ Unit) := fun i =>
      if i = 0 then [.schedule 1, .schedule 2] else [.flush ⟨[], none⟩]
    let is := [0, 0, 0, 0, 1, 1, 1, 1, 1, 1, 0, 0, 0, 0]
    ∃ s, (Sys.init calls).exec is = some s ∧ s.mu = none ∧ s.batches = [[1]] ∧
      s.batches.flatten ++ s.scheduled = (s.order.map Prod.snd).filterMap Call.item? ∧
      ∀ b ∈ s.batches, b ≠ [] := by
  intro calls is
  have h : ((Sys.init calls).exec is).map (fun s => (s.mu, s.batches)) = some (none, [[1]]) := by
    decide
  obtain ⟨s, hs, h⟩ := Option.map_eq_some'.mp h
  obtain ⟨hmu, hb⟩ := Prod.mk.inj h
  exact ⟨s, hs, hmu, hb, exec_hands_each_item_to_batch_once hs hmu⟩

end Runs

end Uplink.BatchAggregator
