import Uplink.Satellite.New
import Uplink.Satellite.ErrGroup

set_option autoImplicit false

/-!
# Running and closing the core

`Run` makes one `group.Go` call per subsystem, in a fixed order, skipping the graceful exit and
payments chores when their field is `nil`, and then `group.Wait`. Each task is the subsystem's
`Run` through `errs2.IgnoreCanceled`. `Close` is `Core.close`.

* `Core.runTasks`, `Core.run`: the tasks `Run` starts, and `Run` after a list of events;
* `runTasks_mem_iff`, `runTasks_nodup`: on a core from `New`, `Run` starts one task for each
  populated field of `runnable`;
* **`run_returns_first_error`**: for a core from `New`, in every run of `Run`, `Wait` returns once
  every task has returned, with the first error that is not a cancellation, which has canceled
  the context when it was returned, and every run can go on to such a `Wait`;
* **`run_returns_nil_of_benign`**, **`run_canceled_only_by_error`**: subsystems that stop with
  `nil` or a cancellation make `Run` return `nil`, and never cancel the others;
* `close_releases_run_tasks`: `Close` closes the populated fields of `closeOrder` once each,
  which leaves three of `Run`'s tasks unclosed;
* **`close_skips_run_tasks`**: with every optional subsystem enabled, `Close` makes thirteen calls
  for `Run`'s fourteen tasks and never closes the version checker, the garbage collection service
  or the payments chore.
-/

namespace Uplink.Satellite

/-- The subsystems `Run` starts with `group.Go`, in its order. -/
def Core.runTasks (peer : Core) : List Slot :=
  [.metainfoLoop, .version, .repairChecker, .repairRepairer, .dbCleanupChore, .accountingTally,
    .accountingRollup, .auditWorker, .auditChore, .garbageCollectionService] ++
  ((if (peer .gracefulExitChore).isSome then [.gracefulExitChore] else []) ++
    .metricsChore :: (if (peer .paymentsChore).isSome then [.paymentsChore] else []) ++
    [.downtimeTrackingDetectionChore])

/-- `Run` after the steps `events` of its error group, `isCanceled` standing for
`errs2.IsCanceled`. -/
def Core.run {Err : Type} (peer : Core) (isCanceled : Err → Bool)
    (events : List (Event Slot Err)) : Option (Group Slot Err) :=
  (Group.start peer.runTasks).exec isCanceled events

/-- The subsystems with a `Run` method that the core runs. -/
def runnable : List Slot :=
  [.metainfoLoop, .version, .repairChecker, .repairRepairer, .dbCleanupChore, .accountingTally,
    .accountingRollup, .auditWorker, .auditChore, .garbageCollectionService, .gracefulExitChore,
    .metricsChore, .paymentsChore, .downtimeTrackingDetectionChore]

theorem runTasks_nodup (peer : Core) : peer.runTasks.Nodup := by
  unfold Core.runTasks; split_ifs <;> decide

/-- On a core that `New` filled, `Run` starts a task for a field exactly when it is runnable and
populated. -/
theorem runTasks_mem_iff {config : Config} {peer : Core}
    (hfill : ∀ s, (peer s).isSome = config.fills s) (s : Slot) :
    s ∈ peer.runTasks ↔ s ∈ runnable ∧ (peer s).isSome := by
  simp only [Core.runTasks, hfill]
  clear hfill
  revert config s
  show ∀ (config : Config) (s : Slot), _
  refine Config.check _ (fun config h => ?_) ?_
  · rwa [Config.fills_normal] at h
  · decide

theorem runTasks_length {config : Config} {peer : Core}
    (hfill : ∀ s, (peer s).isSome = config.fills s) :
    peer.runTasks.length = 12 + config.gracefulExitEnabled.toNat +
      (decide (config.paymentsProvider = "stripecoinpayments")).toNat := by
  simp only [Core.runTasks, hfill, Config.fills]
  split_ifs <;> simp_all

/-! ## `Run` -/

section Run

variable {Err : Type} (config : Config) (o : Outcomes Err) (closeErr : Slot → Option Err)
  (peer : Core) (isCanceled : Err → Bool)

/-- A run of `Run` whose `Wait` returned `r`: `r` is the first error that is not a cancellation,
and every task has returned, once. -/
theorem run_result {events : List (Event Slot Err)} {g : Group Slot Err}
    (hrun : peer.run isCanceled events = some g) {r : Option Err} (hr : g.result = some r) :
    r = firstError isCanceled g.returned ∧ g.running = [] ∧
      (g.returned.map Prod.fst).Perm peer.runTasks := by
  obtain ⟨h₁, -, h₂, h₃⟩ := Group.result_spec isCanceled
    (Group.exec_inv isCanceled events (Group.inv_start isCanceled peer.runTasks) hrun) hr
  exact ⟨h₁, h₂, h₃⟩

/-- **`Run` waits for every task and returns the first error that is not a cancellation.** For a
core from `New`, with any configuration, and after any events (any results of the subsystems, any
completion order, the parent context canceled or not): `Run` starts one task for each populated
runnable field; once a task has returned an error that is not a cancellation, the context is
canceled; `Wait` returns only when every started task has returned, once each, and it returns
the first such error, or `nil`; every run can go on, keeping what the tasks returned so far, to a
`Wait` that returns; a run that cannot go on has returned, and no run has more than
`2 * peer.runTasks.length + 2` events. -/
theorem run_returns_first_error (hnew : (new config o closeErr).core = some peer)
    (events : List (Event Slot Err)) (g : Group Slot Err)
    (hrun : peer.run isCanceled events = some g) :
    peer.runTasks.Nodup ∧ (∀ s, s ∈ peer.runTasks ↔ s ∈ runnable ∧ (peer s).isSome) ∧
      ((firstError isCanceled g.returned).isSome → g.canceled = true) ∧
      (∀ r, g.result = some r → r = firstError isCanceled g.returned ∧ g.running = [] ∧
        (g.returned.map Prod.fst).Perm peer.runTasks) ∧
      (∃ more g', peer.run isCanceled (events ++ more) = some g' ∧ g.returned <+: g'.returned ∧
        g'.result = some (firstError isCanceled g'.returned) ∧ g'.running = [] ∧
        (g'.returned.map Prod.fst).Perm peer.runTasks) ∧
      ((∀ e, g.step isCanceled e = none) → g.result.isSome) ∧
      events.length ≤ 2 * peer.runTasks.length + 2 := by
  have hinv := Group.exec_inv isCanceled events (Group.inv_start isCanceled peer.runTasks) hrun
  refine ⟨runTasks_nodup peer, runTasks_mem_iff (new_fills hnew),
    Group.canceled_of_firstError isCanceled hinv, fun r hr => run_result peer isCanceled hrun hr,
    ?_, Group.stuck_result isCanceled g, ?_⟩
  · obtain ⟨more, g', hmore, hres, hpre⟩ := Group.exists_exec_wait isCanceled g
    have hrun' : peer.run isCanceled (events ++ more) = some g' := by
      unfold Core.run at hrun ⊢
      rw [Group.exec_append, hrun]
      exact hmore
    obtain ⟨r, hr⟩ := Option.isSome_iff_exists.mp hres
    obtain ⟨h₁, h₂⟩ := run_result peer isCanceled hrun' hr
    exact ⟨more, g', hrun', hpre, h₁ ▸ hr, h₂⟩
  · have := Group.exec_length_le isCanceled events hrun
    rw [Group.work_start] at this
    omega

/-- In the default configuration, the metainfo loop fails with an error that is not a
cancellation while the version checker is still to start, every other task returns `nil`, and
`Wait` returns the metainfo loop's error. -/
theorem run_returns_first_error_early_failure :
    let peer := (built ⟨"", false⟩ fun _ => false).2.peer
    let events : List (Event Slot Unit) := .go :: .finish .metainfoLoop (some ()) ::
      List.replicate 11 .go ++ peer.runTasks.tail.map (fun t => .finish t none) ++ [.wait]
    ∃ g, (new ⟨"", false⟩ (fun _ => none) fun _ => (none : Option Unit)).core = some peer ∧
      peer.run (fun _ => false) events = some g ∧ g.result = some (some ()) ∧
      peer.runTasks.Nodup ∧ (∀ s, s ∈ peer.runTasks ↔ s ∈ runnable ∧ (peer s).isSome) ∧
      ((firstError (fun _ => false) g.returned).isSome → g.canceled = true) ∧
      (∀ r, g.result = some r → r = firstError (fun _ => false) g.returned ∧ g.running = [] ∧
        (g.returned.map Prod.fst).Perm peer.runTasks) ∧
      (∃ more g', peer.run (fun _ => false) (events ++ more) = some g' ∧
        g.returned <+: g'.returned ∧ g'.result = some (firstError (fun _ => false) g'.returned) ∧
        g'.running = [] ∧ (g'.returned.map Prod.fst).Perm peer.runTasks) ∧
      ((∀ e, g.step (fun _ => false) e = none) → g.result.isSome) ∧
      events.length ≤ 2 * peer.runTasks.length + 2 := by
  intro peer events
  have h : (peer.run (fun _ => false) events).map Group.result = some (some (some ())) := by
    decide
  obtain ⟨g, hg, hres⟩ := Option.map_eq_some'.mp h
  have hnew := new_no_failure ⟨"", false⟩ fun _ => (none : Option Unit)
  exact ⟨g, hnew, hg, hres, run_returns_first_error _ _ _ _ _ hnew _ g hg⟩

/-- **When every subsystem returns `nil` or a cancellation, `Run` returns `nil`**: for
instance when the caller cancels the parent context and every subsystem stops with a
cancellation error. -/
theorem run_returns_nil_of_benign (events : List (Event Slot Err)) (g : Group Slot Err)
    (hrun : peer.run isCanceled events = some g)
    (hbenign : ∀ t e, Event.finish t (some e) ∈ events → isCanceled e = true)
    (r : Option Err) (hr : g.result = some r) : r = none := by
  rw [(run_result peer isCanceled hrun hr).1, firstError, List.findSome?_eq_none_iff]
  rintro ⟨t, _ | e⟩ hp
  · rfl
  · rcases Group.exec_returned isCanceled events hrun _ hp with hp | hp
    · simp [Group.start] at hp
    · simp [Option.filter, hbenign t e hp]

/-- In the default configuration, every task is started, the parent context is canceled, every
subsystem returns a cancellation error, and `Wait` returns `nil`. -/
theorem run_returns_nil_after_cancel :
    let peer := (built ⟨"", false⟩ fun _ => false).2.peer
    let events : List (Event Slot Unit) := List.replicate 12 .go ++
      .cancelParent :: peer.runTasks.map (fun t => .finish t (some ())) ++ [.wait]
    ∃ g, peer.run (fun _ => true) events = some g ∧
      (∀ t e, Event.finish t (some e) ∈ events → (fun _ => true) e = true) ∧
      g.result = some none ∧ none = (none : Option Unit) := by
  intro peer events
  have h : (peer.run (fun _ => true) events).map Group.result = some (some none) := by decide
  obtain ⟨g, hg, hres⟩ := Option.map_eq_some'.mp h
  have hbenign : ∀ t e, Event.finish t (some e) ∈ events → (fun _ => true) e = true :=
    fun _ _ _ => rfl
  exact ⟨g, hg, hbenign, hres, run_returns_nil_of_benign peer _ events g hg hbenign _ hres⟩

/-- **Only an error that is not a cancellation, the caller or `Wait` cancels `Run`'s context.**
For every core and in every run of `Run`: once the group's context is canceled, a subsystem has
returned an error that is not a cancellation, or the parent context was canceled, or `Wait` has
returned. So a subsystem that stops with `nil` or with a cancellation error, which
`errs2.IgnoreCanceled` turns into `nil`, does not stop the others. -/
theorem run_canceled_only_by_error (events : List (Event Slot Err)) (g : Group Slot Err)
    (hrun : peer.run isCanceled events = some g) (hc : g.canceled = true) :
    (firstError isCanceled g.returned).isSome ∨ Event.cancelParent ∈ events ∨
      Event.wait ∈ events :=
  Group.exec_canceled isCanceled events hrun (fun h => by simp [Group.start] at h) hc

/-- In the default configuration, the caller cancels the parent context after the first task
starts. -/
theorem run_canceled_only_by_error_parent :
    let peer := (built ⟨"", false⟩ fun _ => false).2.peer
    let events : List (Event Slot Unit) := [.go, .cancelParent]
    ∃ g, peer.run (fun _ => true) events = some g ∧ g.canceled = true ∧
      ((firstError (fun _ => true) g.returned).isSome ∨ Event.cancelParent ∈ events ∨
        Event.wait ∈ events) := by
  intro peer events
  have h : (peer.run (fun _ => true) events).map Group.canceled = some true := by decide
  obtain ⟨g, hg, hc⟩ := Option.map_eq_some'.mp h
  exact ⟨g, hg, hc, run_canceled_only_by_error peer _ events g hg hc⟩

end Run

/-! ## `Close` -/

/-- `Close` on a core from `New`, whatever each close returns: it calls the `Close` of the
populated fields of `closeOrder`, in that order, once each; of `Run`'s tasks, it closes every one
but the version checker, the garbage collection service and the payments chore, once; `Run` has
twelve tasks, one more with graceful exit enabled and one more for `stripecoinpayments`, and
`Close` makes twelve calls, one more with graceful exit enabled. -/
theorem close_releases_run_tasks {Err : Type} (config : Config) (o : Outcomes Err)
    (closeErr closeErr' : Slot → Option Err) (peer : Core)
    (hnew : (new config o closeErr).core = some peer) :
    (peer.close closeErr').closed = closeOrder.filter config.fills ∧
      (∀ s ∈ peer.runTasks, (peer.close closeErr').closed.count s =
        if s = .version ∨ s = .garbageCollectionService ∨ s = .paymentsChore then 0 else 1) ∧
      peer.runTasks.length = 12 + config.gracefulExitEnabled.toNat +
        (decide (config.paymentsProvider = "stripecoinpayments")).toNat ∧
      (peer.close closeErr').closed.length = 12 + config.gracefulExitEnabled.toNat := by
  have hfill := new_fills hnew
  have hclosed : (peer.close closeErr').closed = closeOrder.filter config.fills := by
    simp only [Core.close, hfill]
  refine ⟨hclosed, fun s hs => ?_, runTasks_length hfill, ?_⟩
  · obtain ⟨hr, hp⟩ := (runTasks_mem_iff hfill s).mp hs
    rw [close_closed_count, hp]
    revert hr; cases s <;> decide
  · rw [hclosed]
    rcases config with ⟨p, _ | _⟩ <;> simp [closeOrder, Config.fills]

/-- **`Close` leaves three of the subsystems `Run` started unclosed.** With the payments provider
`stripecoinpayments` and graceful exit enabled, `New` succeeds; `Run` starts fourteen tasks, and
`Close` makes thirteen calls, none of them on the version checker, the garbage collection service
or the payments chore, which are among `Run`'s tasks. -/
theorem close_skips_run_tasks :
    let config : Config := ⟨"stripecoinpayments", true⟩
    let peer := (built config fun _ => false).2.peer
    let closed := (peer.close fun _ => (none : Option Unit)).closed
    (new config (fun _ => none) fun _ => (none : Option Unit)).core = some peer ∧
      peer.runTasks.length = 14 ∧ closed.length = 13 ∧
      ∀ s ∈ [Slot.version, .garbageCollectionService, .paymentsChore],
        s ∈ peer.runTasks ∧ closed.count s = 0 := by
  intro config peer closed
  have hnew := new_no_failure config fun _ => (none : Option Unit)
  obtain ⟨-, hcount, hrun, hclose⟩ := close_releases_run_tasks _ _ _ (fun _ => none) _ hnew
  refine ⟨hnew, by simpa using hrun, by simpa using hclose, fun s hs => ?_⟩
  have hmem : s ∈ peer.runTasks := by revert s; decide
  exact ⟨hmem, (hcount s hmem).trans (if_pos (by simpa using hs))⟩

end Uplink.Satellite
