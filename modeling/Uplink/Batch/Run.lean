import Uplink.Batch.Aggregator

set_option autoImplicit false

/-!
# Runs of the aggregator

Concurrent callers take the aggregator's mutex one after another, so what they do together is
a sequence of whole method calls. `run` replays such a sequence on an aggregator made by `New`
and records the lists the calls hand to `Batch`.

* `Call.apply_conserves`: a call hands to `Batch` exactly what was scheduled before it, with
  its own item, and is no longer scheduled after it;
* **`run_hands_each_item_to_batch_once`**: whatever the batcher answers, the lists handed to
  `Batch`, followed by the list still scheduled, are the scheduled items in call order; no list
  handed to `Batch` is empty; and every flushing call leaves nothing scheduled.
-/

namespace Uplink.BatchAggregator

variable {Item Resp Err : Type}

/-- A method call, with what `Batch` answers should the call reach it. -/
inductive Call (Item Resp Err : Type)
  | schedule (batchItem : Item)
  | scheduleAndFlush (batchItem : Item) (answer : BatchResult Resp Err)
  | flush (answer : BatchResult Resp Err)

namespace Call

/-- The aggregator after the call, and the items the call handed to `Batch`. -/
def apply : Call Item Resp Err → Aggregator Item → Aggregator Item × Option (List Item)
  | .schedule x, a => (a.schedule x, none)
  | .scheduleAndFlush x answer, a =>
    ((a.scheduleAndFlush x answer).agg, (a.scheduleAndFlush x answer).issued)
  | .flush answer, a => ((a.flush answer).agg, (a.flush answer).issued)

/-- The item the call schedules. -/
def item? : Call Item Resp Err → Option Item
  | .schedule x | .scheduleAndFlush x _ => some x
  | .flush _ => none

/-- The call flushes. -/
def Flushes : Call Item Resp Err → Prop
  | .schedule _ => False
  | .scheduleAndFlush _ _ | .flush _ => True

theorem filterMap_item_cons (c : Call Item Resp Err) (cs : List (Call Item Resp Err)) :
    (c :: cs).filterMap item? = c.item?.toList ++ cs.filterMap item? := by
  cases c <;> rfl

/-- One call: what it hands to `Batch`, then what stays scheduled, is what was scheduled with
the call's own item. -/
theorem apply_conserves (c : Call Item Resp Err) (a : Aggregator Item) :
    (c.apply a).2.toList.flatten ++ (c.apply a).1.scheduled = a.scheduled ++ c.item?.toList := by
  rcases a with ⟨_ | ⟨b, bs⟩⟩ <;> cases c <;> simp [apply, item?, new]

theorem apply_issued_ne_nil (c : Call Item Resp Err) (a : Aggregator Item) :
    ∀ b ∈ (c.apply a).2, b ≠ [] := by
  rcases a with ⟨_ | ⟨b, bs⟩⟩ <;> cases c <;> simp [apply]

theorem apply_flushes (c : Call Item Resp Err) (a : Aggregator Item) (h : c.Flushes) :
    (c.apply a).1.scheduled = [] := by
  cases c with
  | schedule x => exact h.elim
  | scheduleAndFlush x answer | flush answer => simp [apply, new]

end Call

/-- A run so far: the aggregator, and the lists handed to `Batch` (a record of the model). -/
structure Trace (Item : Type) where
  agg : Aggregator Item
  batches : List (List Item)

/-- One more call. -/
def Trace.step (t : Trace Item) (c : Call Item Resp Err) : Trace Item :=
  ⟨(c.apply t.agg).1, t.batches ++ (c.apply t.agg).2.toList⟩

/-- The calls, in order, on an aggregator made by `New`. -/
def run (calls : List (Call Item Resp Err)) : Trace Item :=
  calls.foldl Trace.step ⟨new, []⟩

/-! ## Runs -/

theorem foldl_step_conserves (calls : List (Call Item Resp Err)) (t : Trace Item) :
    (calls.foldl Trace.step t).batches.flatten ++ (calls.foldl Trace.step t).agg.scheduled =
      t.batches.flatten ++ t.agg.scheduled ++ calls.filterMap Call.item? := by
  induction calls generalizing t with
  | nil => simp
  | cons c cs ih =>
    rw [List.foldl_cons, ih, Call.filterMap_item_cons]
    have h := Call.apply_conserves c t.agg
    simp only [Trace.step, List.flatten_append, List.append_assoc] at h ⊢
    rw [← List.append_assoc _ _ (List.filterMap _ _), h, List.append_assoc]

theorem foldl_step_batches_ne_nil (calls : List (Call Item Resp Err)) (t : Trace Item)
    (ht : ∀ b ∈ t.batches, b ≠ []) :
    ∀ b ∈ (calls.foldl Trace.step t).batches, b ≠ [] := by
  induction calls generalizing t with
  | nil => exact ht
  | cons c cs ih =>
    refine ih _ fun b hb => ?_
    rcases List.mem_append.mp hb with hb | hb
    · exact ht b hb
    · exact Call.apply_issued_ne_nil c t.agg b (Option.mem_toList.mp hb)

/-- **Every scheduled item reaches `Batch` once, in order.** For any sequence of calls and any
answers of the batcher, the lists handed to `Batch`, followed by the list still scheduled, are the
items of the `Schedule` and `ScheduleAndFlush` calls in call order; `Batch` never gets an empty
list; and right after each `Flush` or `ScheduleAndFlush` nothing is scheduled. -/
theorem run_hands_each_item_to_batch_once (calls : List (Call Item Resp Err)) :
    (run calls).batches.flatten ++ (run calls).agg.scheduled = calls.filterMap Call.item? ∧
      (∀ b ∈ (run calls).batches, b ≠ []) ∧
      ∀ pre c rest, calls = pre ++ c :: rest → c.Flushes →
        (run (pre ++ [c])).agg.scheduled = [] := by
  refine ⟨?_, foldl_step_batches_ne_nil calls _ (by simp), fun pre c _ _ hc => ?_⟩
  · simpa [new] using foldl_step_conserves calls ⟨new, []⟩
  · rw [run, List.foldl_append, List.foldl_cons, List.foldl_nil]
    exact Call.apply_flushes c _ hc

end Uplink.BatchAggregator
