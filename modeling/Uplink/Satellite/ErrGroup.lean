import Mathlib.Data.List.Perm.Basic

set_option autoImplicit false

/-!
# An error group with cancellation

`Run` starts the subsystems in an `errgroup.Group` made by `errgroup.WithContext`, each wrapped in
`errs2.IgnoreCanceled`. The group's contract: `Go` runs a function in a new goroutine; the first
function to return a non-nil error has it recorded, and it cancels the group's context
(`errOnce`); `Wait` blocks until every function passed to `Go` has returned, cancels the context
and returns the recorded error.

A `Group` is the state of the goroutine that calls `Go` for each task and then `Wait`, and of the
goroutines it started; an `Event` is one atomic step of one of them. A goroutine's return and its
`errOnce.Do` are one step: the order of these steps is the order in which the tasks complete.
What a subsystem returns is part of the event, so runs cover every result and every order.

* `Group.step`, `Group.exec`: the steps, and runs of events;
* `Group.Inv`, `Group.step_inv`, `Group.exec_inv`: the invariant every run from `Group.start`
  keeps;
* `Group.result_spec`, `Group.canceled_of_firstError`: `Wait` returns once every started task
  has returned, with the first error that is not a cancellation, and that error has canceled
  the context as soon as it was returned;
* `Group.exec_canceled`: the context is canceled only by an error that is not a cancellation,
  the parent, or `Wait`;
* `Group.exists_exec_wait`: every run can go on to a `Wait` that returns;
* `Group.stuck_result`, `Group.exec_length_le`: a run that cannot go on has returned, and no run
  is longer than `2 * tasks.length + 2` steps.
-/

namespace Uplink.Satellite

variable {T E : Type}

/-- `errs2.IgnoreCanceled`: `nil` for an error that `isCanceled` (standing for
`errs2.IsCanceled`) says is a cancellation, the error itself otherwise. -/
def ignoreCanceled (isCanceled : E → Bool) : Option E → Option E
  | some e => if isCanceled e then none else some e
  | none => none

/-- The error of the first task, in the order the tasks returned, that returned an error which
`isCanceled` says is not a cancellation. -/
def firstError (isCanceled : E → Bool) (returned : List (T × Option E)) : Option E :=
  returned.findSome? fun tr => tr.2.filter fun e => !isCanceled e

/-- `errs2.IgnoreCanceled` keeps exactly the errors that are not cancellations. -/
theorem ignoreCanceled_eq_filter (isCanceled : E → Bool) (r : Option E) :
    ignoreCanceled isCanceled r = r.filter fun e => !isCanceled e := by
  cases r with
  | none => rfl
  | some e => cases h : isCanceled e <;> simp [ignoreCanceled, Option.filter, h]

/-- An error group at work: the tasks whose `Go` call is still to come (in program order), the
started tasks still running, the tasks that returned (in order, with what the subsystem
returned), `g.err`, whether the group's context is canceled, and what `Wait` returned. -/
structure Group (T E : Type) where
  toStart : List T
  running : List T
  returned : List (T × Option E)
  err : Option E
  canceled : Bool
  result : Option (Option E)

/-- A step: the next `Go` call; task `t` returning `r` from its subsystem's `Run`; the caller
canceling the parent context; `Wait` returning. -/
inductive Event (T E : Type)
  | go
  | finish (t : T) (r : Option E)
  | cancelParent
  | wait
  deriving DecidableEq

namespace Group

/-- `errgroup.WithContext`, before the first `Go` call. -/
def start (tasks : List T) : Group T E := ⟨tasks, [], [], none, false, none⟩

variable [DecidableEq T] (isCanceled : E → Bool)

/-- Task `t` returns `r`: the group gets `errs2.IgnoreCanceled(r)`, and if that is an error and
the first, `errOnce.Do` records it and cancels the context. -/
def finish (g : Group T E) (t : T) (r : Option E) : Group T E :=
  let g' := { g with running := g.running.erase t, returned := g.returned ++ [(t, r)] }
  match ignoreCanceled isCanceled r, g.err with
  | some e, none => { g' with err := some e, canceled := true }
  | _, _ => g'

/-- One step, `none` when the event cannot happen. -/
def step (g : Group T E) : Event T E → Option (Group T E)
  | .go =>
    match g.toStart with
    | [] => none
    | t :: ts => some { g with toStart := ts, running := g.running ++ [t] }
  | .finish t r => if t ∈ g.running then some (g.finish isCanceled t r) else none
  | .cancelParent => if g.canceled then none else some { g with canceled := true }
  | .wait =>
    if g.toStart.isEmpty && g.running.isEmpty && g.result.isNone then
      some { g with canceled := true, result := some g.err }
    else none

/-- The events in order, `none` if one of them cannot happen. -/
def exec : Group T E → List (Event T E) → Option (Group T E)
  | g, [] => some g
  | g, e :: es => (g.step isCanceled e).bind fun g' => exec g' es

/-- A run of `e :: es` is a step by `e`, then a run of `es`. -/
theorem exec_cons_eq_some {g g' : Group T E} {e : Event T E} {es : List (Event T E)} :
    g.exec isCanceled (e :: es) = some g' ↔
      ∃ g₁, g.step isCanceled e = some g₁ ∧ g₁.exec isCanceled es = some g' :=
  Option.bind_eq_some

/-! ## Steps -/

section Finish

variable (g : Group T E) (t : T) (r : Option E)

@[simp] theorem finish_toStart : (g.finish isCanceled t r).toStart = g.toStart := by
  unfold finish; split <;> rfl

@[simp] theorem finish_running : (g.finish isCanceled t r).running = g.running.erase t := by
  unfold finish; split <;> rfl

@[simp] theorem finish_returned : (g.finish isCanceled t r).returned = g.returned ++ [(t, r)] := by
  unfold finish; split <;> rfl

@[simp] theorem finish_result : (g.finish isCanceled t r).result = g.result := by
  unfold finish; split <;> rfl

/-- `errOnce`: the recorded error is the first one. -/
@[simp] theorem finish_err :
    (g.finish isCanceled t r).err = g.err.or (ignoreCanceled isCanceled r) := by
  unfold finish
  cases h₁ : ignoreCanceled isCanceled r <;> cases h₂ : g.err <;> simp [h₁, h₂]

/-- The first error cancels the context. -/
@[simp] theorem finish_canceled : (g.finish isCanceled t r).canceled =
    (g.canceled || g.err.isNone && (ignoreCanceled isCanceled r).isSome) := by
  unfold finish
  cases h₁ : ignoreCanceled isCanceled r <;> cases h₂ : g.err <;> simp [h₁, h₂]

end Finish

/-- **What a step can do.** -/
theorem step_eq_some {g g' : Group T E} {e : Event T E} (h : g.step isCanceled e = some g') :
    (∃ t ts, e = .go ∧ g.toStart = t :: ts ∧
      g' = { g with toStart := ts, running := g.running ++ [t] }) ∨
    (∃ t r, e = .finish t r ∧ t ∈ g.running ∧ g' = g.finish isCanceled t r) ∨
    (e = .cancelParent ∧ g.canceled = false ∧ g' = { g with canceled := true }) ∨
    (e = .wait ∧ g.toStart = [] ∧ g.running = [] ∧ g.result = none ∧
      g' = { g with canceled := true, result := some g.err }) := by
  cases e with
  | go =>
    cases hts : g.toStart with
    | nil => simp [step, hts] at h
    | cons t ts =>
      simp only [step, hts, Option.some.injEq] at h
      exact .inl ⟨t, ts, rfl, rfl, h.symm⟩
  | finish t r =>
    by_cases ht : t ∈ g.running
    · simp only [step, ht, if_true, Option.some.injEq] at h
      exact .inr (.inl ⟨t, r, rfl, ht, h.symm⟩)
    · simp [step, ht] at h
  | cancelParent =>
    cases hc : g.canceled
    · simp only [step, hc] at h; exact .inr (.inr (.inl ⟨rfl, rfl, by simpa using h.symm⟩))
    · simp [step, hc] at h
  | wait =>
    by_cases hw : (g.toStart.isEmpty && g.running.isEmpty && g.result.isNone) = true
    · simp only [step, hw, if_true, Option.some.injEq] at h
      simp only [Bool.and_eq_true, List.isEmpty_iff, Option.isNone_iff_eq_none] at hw
      exact .inr (.inr (.inr ⟨rfl, hw.1.1, hw.1.2, hw.2, h.symm⟩))
    · simp [step, hw] at h

/-! ## The invariant -/

/-- What holds of a group started with `tasks`: the started tasks are a prefix of `tasks`, each
running or returned once; `g.err` is the first error that is not a cancellation; a recorded
error has canceled the context; `Wait` has returned `g.err`, and only once all have returned. -/
structure Inv (tasks : List T) (g : Group T E) : Prop where
  started : ∃ started, tasks = started ++ g.toStart ∧
    (g.running ++ g.returned.map Prod.fst).Perm started
  err : g.err = firstError isCanceled g.returned
  canceled : g.err.isSome → g.canceled = true
  result : ∀ r, g.result = some r → r = g.err ∧ g.toStart = [] ∧ g.running = []

omit [DecidableEq T] in
theorem inv_start (tasks : List T) : Inv isCanceled tasks (start tasks) :=
  ⟨⟨[], by simp [start], by simp [start]⟩, rfl, by simp [start], by simp [start]⟩

omit [DecidableEq T] in
theorem firstError_append_one (returned : List (T × Option E)) (t : T) (r : Option E) :
    firstError isCanceled (returned ++ [(t, r)]) =
      (firstError isCanceled returned).or (ignoreCanceled isCanceled r) := by
  rw [firstError, List.findSome?_append, ignoreCanceled_eq_filter]
  cases h : r.filter (fun e => !isCanceled e) <;> simp [List.findSome?, h, firstError]

theorem finish_inv {tasks : List T} {g : Group T E} (hg : Inv isCanceled tasks g) {t : T}
    (ht : t ∈ g.running) (r : Option E) : Inv isCanceled tasks (g.finish isCanceled t r) := by
  obtain ⟨⟨started, hsplit, hperm⟩, herr, hcan, hres⟩ := hg
  have hmove : (g.running.erase t ++ (g.returned.map Prod.fst ++ [t])).Perm
      (t :: (g.running.erase t ++ g.returned.map Prod.fst)) := by
    rw [← List.append_assoc]; exact List.perm_append_singleton _ _
  have hnil : g.running ≠ [] := List.ne_nil_of_mem ht
  refine ⟨⟨started, by simpa using hsplit, ?_⟩, ?_, fun h => ?_, fun r' h => ?_⟩
  · simpa using (hmove.trans ((List.perm_cons_erase ht).append_right _).symm).trans hperm
  · rw [finish_err, finish_returned, firstError_append_one, herr]
  · simp only [finish_err, finish_canceled] at h ⊢
    cases hgerr : g.err with
    | none => simp [hgerr] at h ⊢; exact .inr h
    | some e => simp [hcan (by simp [hgerr])]
  · exact absurd (hres r' (by simpa using h)).2.2 hnil

/-- **Every step keeps the invariant.** -/
theorem step_inv {tasks : List T} {g g' : Group T E} (hg : Inv isCanceled tasks g)
    {e : Event T E} (he : g.step isCanceled e = some g') : Inv isCanceled tasks g' := by
  obtain ⟨⟨started, hsplit, hperm⟩, herr, hcan, hres⟩ := hg
  rcases step_eq_some isCanceled he with
    ⟨t, ts, -, hts, rfl⟩ | ⟨t, r, -, ht, rfl⟩ | ⟨-, -, rfl⟩ | ⟨-, h₁, h₂, -, rfl⟩
  · have hmove : (g.running ++ [t] ++ g.returned.map Prod.fst).Perm
        (g.running ++ g.returned.map Prod.fst ++ [t]) := by
      rw [List.append_assoc, List.append_assoc]; exact List.perm_append_comm.append_left _
    refine ⟨⟨started ++ [t], by simp [hsplit, hts], hmove.trans (hperm.append_right [t])⟩,
      herr, hcan, fun r h => absurd (hres r h).2.1 (by simp [hts])⟩
  · exact finish_inv isCanceled ⟨⟨started, hsplit, hperm⟩, herr, hcan, hres⟩ ht r
  · exact ⟨⟨started, hsplit, hperm⟩, herr, fun _ => rfl, hres⟩
  · exact ⟨⟨started, hsplit, hperm⟩, herr, fun _ => rfl, fun r hr => by
      cases hr; exact ⟨rfl, h₁, h₂⟩⟩

/-- **Every run from `start tasks` keeps the invariant.** -/
theorem exec_inv {tasks : List T} :
    ∀ (events : List (Event T E)) {g g' : Group T E}, Inv isCanceled tasks g →
      g.exec isCanceled events = some g' → Inv isCanceled tasks g'
  | [], _, _, hg, h => by cases h; exact hg
  | e :: es, g, g', hg, h => by
    obtain ⟨g₁, h₁, h₂⟩ := (exec_cons_eq_some isCanceled).mp h
    exact exec_inv es (step_inv isCanceled hg h₁) h₂

omit [DecidableEq T] in
/-- **`Wait` returns once every started task has returned, with the first error that is not a
cancellation.** -/
theorem result_spec {tasks : List T} {g : Group T E} (hg : Inv isCanceled tasks g) {r : Option E}
    (hr : g.result = some r) :
    r = firstError isCanceled g.returned ∧ g.toStart = [] ∧ g.running = [] ∧
      (g.returned.map Prod.fst).Perm tasks := by
  obtain ⟨hr, hts, hrun⟩ := hg.result r hr
  obtain ⟨started, hsplit, hperm⟩ := hg.started
  rw [hts, List.append_nil] at hsplit
  rw [hrun, List.nil_append, ← hsplit] at hperm
  exact ⟨hr.trans hg.err, hts, hrun, hperm⟩

omit [DecidableEq T] in
/-- **The first error that is not a cancellation cancels the context** in the step it is
returned. -/
theorem canceled_of_firstError {tasks : List T} {g : Group T E} (hg : Inv isCanceled tasks g)
    (h : (firstError isCanceled g.returned).isSome) : g.canceled = true :=
  hg.canceled (hg.err ▸ h)

/-- A task's return enters the record only through a `finish` event of the run. -/
theorem exec_returned :
    ∀ (events : List (Event T E)) {g g' : Group T E}, g.exec isCanceled events = some g' →
      ∀ p ∈ g'.returned, p ∈ g.returned ∨ Event.finish p.1 p.2 ∈ events
  | [], _, _, h => by cases h; exact fun p hp => .inl hp
  | e :: es, g, g', h => by
    obtain ⟨g₁, h₁, h₂⟩ := (exec_cons_eq_some isCanceled).mp h
    intro p hp
    rcases exec_returned es h₂ p hp with hp | hp
    · rcases step_eq_some isCanceled h₁ with
        ⟨t, ts, -, -, rfl⟩ | ⟨t, r, rfl, -, rfl⟩ | ⟨-, -, rfl⟩ | ⟨-, -, -, -, rfl⟩
      · exact .inl hp
      · rcases (by simpa using hp : p ∈ g.returned ∨ p = (t, r)) with hp | rfl
        · exact .inl hp
        · exact .inr (List.mem_cons_self _ _)
      · exact .inl hp
      · exact .inl hp
    · exact .inr (List.mem_cons_of_mem _ hp)

/-- A step cancels the context only by a task's error that is not a cancellation, the parent, or
`Wait`. -/
theorem step_canceled {g g' : Group T E} {e : Event T E} (h : g.step isCanceled e = some g')
    (hg : g.canceled = true → (firstError isCanceled g.returned).isSome) :
    e = .cancelParent ∨ e = .wait ∨
      (g'.canceled = true → (firstError isCanceled g'.returned).isSome) := by
  rcases step_eq_some isCanceled h with
    ⟨t, ts, -, -, rfl⟩ | ⟨t, r, rfl, -, rfl⟩ | ⟨rfl, -, rfl⟩ | ⟨rfl, -, -, -, rfl⟩
  · exact .inr (.inr hg)
  · refine .inr (.inr fun hc => ?_)
    rw [finish_returned, firstError_append_one, Option.isSome_or]
    simp only [finish_canceled, Bool.or_eq_true, Bool.and_eq_true] at hc
    rcases hc with hc | ⟨-, hr⟩
    · simp [hg hc]
    · simp [hr]
  · exact .inl rfl
  · exact .inr (.inl rfl)

/-- **In a run, the context is canceled only by an error that is not a cancellation, the parent, or
`Wait`.** -/
theorem exec_canceled : ∀ (events : List (Event T E)) {g g' : Group T E},
    g.exec isCanceled events = some g' →
      (g.canceled = true → (firstError isCanceled g.returned).isSome) → g'.canceled = true →
      (firstError isCanceled g'.returned).isSome ∨ .cancelParent ∈ events ∨ .wait ∈ events
  | [], _, _, h, hg, hc => by cases h; exact .inl (hg hc)
  | e :: es, _, _, h, hg, hc => by
    obtain ⟨g₁, h₁, h₂⟩ := (exec_cons_eq_some isCanceled).mp h
    rcases step_canceled isCanceled h₁ hg with rfl | rfl | hg₁
    · exact .inr (.inl (List.mem_cons_self _ _))
    · exact .inr (.inr (List.mem_cons_self _ _))
    · rcases exec_canceled es h₂ hg₁ hc with h | h | h
      · exact .inl h
      · exact .inr (.inl (List.mem_cons_of_mem _ h))
      · exact .inr (.inr (List.mem_cons_of_mem _ h))

/-! ## Runs end -/

theorem exec_append (events events' : List (Event T E)) (g : Group T E) :
    g.exec isCanceled (events ++ events') =
      (g.exec isCanceled events).bind fun g' => g'.exec isCanceled events' := by
  induction events generalizing g with
  | nil => rfl
  | cons e es ih => simp only [List.cons_append, exec, List.append_eq, ih, Option.bind_assoc]

/-- The `Go` calls still to come start every task still to start. -/
theorem exec_go_all : ∀ (ts : List T) (g : Group T E), g.toStart = ts →
    g.exec isCanceled (ts.map fun _ => .go) =
      some { g with toStart := [], running := g.running ++ ts }
  | [], g, h => by cases g; cases h; simp [exec]
  | t :: ts, g, h => by
    simp only [List.map_cons, exec, step, h, Option.some_bind]
    rw [exec_go_all ts _ rfl]
    simp

/-- Every running task returns `nil`, in order. -/
theorem exec_finish_all : ∀ (ts : List T) (g : Group T E), g.running = ts →
    ∃ g', g.exec isCanceled (ts.map fun t => .finish t none) = some g' ∧
      g'.toStart = g.toStart ∧ g'.running = [] ∧ g'.result = g.result ∧
      g.returned <+: g'.returned
  | [], g, h => ⟨g, rfl, rfl, h, rfl, List.prefix_refl _⟩
  | t :: ts, g, h => by
    obtain ⟨g', h', h₁, h₂, h₃, h₄⟩ :=
      exec_finish_all ts (g.finish isCanceled t none) (by simp [h])
    refine ⟨g', (exec_cons_eq_some isCanceled).mpr ⟨_, by simp [step, h], h'⟩, by simpa using h₁,
      h₂, by simpa using h₃, ?_⟩
    exact (List.prefix_append _ _).trans (by simpa using h₄)

/-- **Every run can go on to `Wait` returning**: the `Go` calls still to come, every running
task returning `nil`, then `Wait`; what the tasks returned so far stays recorded. -/
theorem exists_exec_wait (g : Group T E) :
    ∃ more g', g.exec isCanceled more = some g' ∧ g'.result.isSome ∧
      g.returned <+: g'.returned := by
  cases hr : g.result with
  | some r => exact ⟨[], g, rfl, by simp [hr], List.prefix_refl _⟩
  | none =>
    obtain ⟨g₁, h₁, hts, hrun, hres, hpre⟩ := exec_finish_all isCanceled (g.running ++ g.toStart)
      { g with toStart := [], running := g.running ++ g.toStart } rfl
    refine ⟨g.toStart.map (fun _ => .go) ++ (g.running ++ g.toStart).map (fun t => .finish t none) ++
      [.wait], { g₁ with canceled := true, result := some g₁.err }, ?_, rfl, hpre⟩
    simp only [exec_append, exec_go_all isCanceled _ g rfl, Option.some_bind, h₁]
    simp [exec, step, hts, hrun, hres, hr]

/-- **A group that can take no step has returned from `Wait`.** -/
theorem stuck_result (g : Group T E) (h : ∀ e, g.step isCanceled e = none) : g.result.isSome := by
  cases hts : g.toStart with
  | cons t ts => simpa [step, hts] using h .go
  | nil =>
    cases hrun : g.running with
    | cons t ts => simpa [step, hrun] using h (.finish t none)
    | nil => simpa [step, hts, hrun, Option.isSome_iff_ne_none] using h .wait

/-- The steps a group can still take at most: each `Go` call starts a task that returns later,
then `Wait` returns, and the parent context may be canceled once. -/
def work (g : Group T E) : ℕ :=
  2 * g.toStart.length + g.running.length + (if g.result.isNone then 1 else 0) +
    (if g.canceled then 0 else 1)

omit [DecidableEq T] in
theorem work_start (tasks : List T) : (start tasks : Group T E).work = 2 * tasks.length + 2 := by
  simp [work, start]

theorem step_work {g g' : Group T E} {e : Event T E} (h : g.step isCanceled e = some g') :
    g'.work < g.work := by
  rcases step_eq_some isCanceled h with
    ⟨t, ts, -, hts, rfl⟩ | ⟨t, r, -, ht, rfl⟩ | ⟨-, hc, rfl⟩ | ⟨-, -, -, hr, rfl⟩
  · simp [work, hts]; omega
  · have h₁ := List.length_erase_of_mem ht
    have h₂ := List.length_pos_of_mem ht
    simp only [work, finish_toStart, finish_running, finish_result, finish_canceled, h₁]
    cases g.canceled <;> simp <;> (try split_ifs) <;> omega
  · simp [work, hc]
  · simp [work, hr]; split_ifs <;> omega

/-- **No run is longer than the work of the group it starts from.** -/
theorem exec_length_le :
    ∀ (events : List (Event T E)) {g g' : Group T E}, g.exec isCanceled events = some g' →
      events.length + g'.work ≤ g.work
  | [], _, _, h => by cases h; simp
  | e :: es, g, g', h => by
    obtain ⟨g₁, h₁, h₂⟩ := (exec_cons_eq_some isCanceled).mp h
    have := exec_length_le es h₂
    have := step_work isCanceled h₁
    simp only [List.length_cons]; omega

end Group

end Uplink.Satellite
