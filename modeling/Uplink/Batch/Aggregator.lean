import Mathlib.Data.List.Basic

set_option autoImplicit false

/-!
# The batch aggregator

`batchaggregator.Aggregator` collects the batch items of an upload and hands them to a
`metaclient.Batcher` in one `Batch` call when it is flushed. Every method holds the mutex for
its whole body, so callers see the methods as atomic.

The batcher is not modelled: what `Batch` returns to a call is an input of the method
(`BatchResult`), so what is proved holds for every batcher, answering or failing.

* `Aggregator.schedule`, `Aggregator.issueBatchLocked`, `Aggregator.scheduleAndFlush`,
  `Aggregator.flush`: the methods, each with the items it hands to `Batch` (`Outcome.issued`);
* `issueBatchLocked_agg`, `issueBatchLocked_issued`: the one place that empties the list and
  calls the batcher, used by both flushing methods;
* **`scheduleAndFlush_reply`**: `ScheduleAndFlush` returns an error, or the last response of the
  batch; that response is the one at the new item's position when the batcher answers each item;
* **`scheduleAndFlush_returns_first_items_response`**: when the batcher answers fewer responses
  than items, the call returns another item's response with a `nil` error.
-/

namespace Uplink.BatchAggregator

variable {Item Resp Err : Type}

/-- What `batcher.Batch` returns to one call: the responses and the error (`nil` is `none`). -/
structure BatchResult (Resp Err : Type) where
  resp : List Resp
  err : Option Err

/-- An `Aggregator`: the batch items scheduled since the last flush. -/
structure Aggregator (Item : Type) where
  scheduled : List Item

/-- `New`: an aggregator with nothing scheduled. -/
def new : Aggregator Item := ⟨[]⟩

/-- A method call: the aggregator after it, the items it handed to `batcher.Batch` (`none` when
it made no call), and what it returned. -/
structure Outcome (Item α : Type) where
  agg : Aggregator Item
  issued : Option (List Item)
  ret : α

/-- An `error` of the aggregator: the batcher's, or one made by `errs.New`. -/
inductive Error (Err : Type)
  | batcher (err : Err)
  | new (msg : String)

/-- What `ScheduleAndFlush` returns: a response (`nil` is `none`) and an error. -/
structure Reply (Resp Err : Type) where
  resp : Option Resp
  err : Option (Error Err)

/-- The statements of `ScheduleAndFlush` after `resp, err := a.issueBatchLocked(ctx)`: the
batcher's error, the error `missing batch responses` if there is no response, or else
`&resp[len(resp)-1]`. -/
def Reply.ofBatch (o : BatchResult Resp Err) : Reply Resp Err :=
  match o.err, o.resp.getLast? with
  | some err, _ => ⟨none, some (.batcher err)⟩
  | none, none => ⟨none, some (.new "missing batch responses")⟩
  | none, some r => ⟨some r, none⟩

namespace Aggregator

/-- `Schedule`: append `batchItem` to the scheduled items. -/
def schedule (a : Aggregator Item) (batchItem : Item) : Aggregator Item :=
  ⟨a.scheduled ++ [batchItem]⟩

/-- `issueBatchLocked`: empty the scheduled list; return `nil, nil` if it held nothing, and
otherwise hand its items to `Batch`, which answers `answer`. -/
def issueBatchLocked (a : Aggregator Item) (answer : BatchResult Resp Err) :
    Outcome Item (BatchResult Resp Err) :=
  match a.scheduled with
  | [] => ⟨new, none, ⟨[], none⟩⟩
  | b :: bs => ⟨new, some (b :: bs), answer⟩

/-- `ScheduleAndFlush`: schedule `batchItem`, issue the batch, and return `Reply.ofBatch` of what
`issueBatchLocked` returned. -/
def scheduleAndFlush (a : Aggregator Item) (batchItem : Item) (answer : BatchResult Resp Err) :
    Outcome Item (Reply Resp Err) :=
  let o := (a.schedule batchItem).issueBatchLocked answer
  ⟨o.agg, o.issued, Reply.ofBatch o.ret⟩

/-- `Flush`: issue the scheduled items and return the batcher's error. -/
def flush (a : Aggregator Item) (answer : BatchResult Resp Err) : Outcome Item (Option Err) :=
  let o := a.issueBatchLocked answer
  ⟨o.agg, o.issued, o.ret.err⟩

/-! ## The methods, one lemma each -/

@[simp] theorem schedule_scheduled (a : Aggregator Item) (batchItem : Item) :
    (a.schedule batchItem).scheduled = a.scheduled ++ [batchItem] := rfl

@[simp] theorem issueBatchLocked_agg (a : Aggregator Item) (answer : BatchResult Resp Err) :
    (a.issueBatchLocked answer).agg = new := by
  unfold issueBatchLocked; split <;> rfl

/-- `issueBatchLocked` calls `Batch` exactly when something is scheduled, with all of it. -/
theorem issueBatchLocked_issued (a : Aggregator Item) (answer : BatchResult Resp Err) :
    (a.issueBatchLocked answer).issued =
      if a.scheduled.isEmpty then none else some a.scheduled := by
  unfold issueBatchLocked; split <;> simp_all

/-- On a non-empty list, `issueBatchLocked` returns what the batcher returned. -/
theorem issueBatchLocked_ret (a : Aggregator Item) (answer : BatchResult Resp Err)
    (h : a.scheduled ≠ []) : (a.issueBatchLocked answer).ret = answer := by
  unfold issueBatchLocked; split <;> simp_all

@[simp] theorem scheduleAndFlush_agg (a : Aggregator Item) (batchItem : Item)
    (answer : BatchResult Resp Err) : (a.scheduleAndFlush batchItem answer).agg = new :=
  issueBatchLocked_agg _ _

/-- `ScheduleAndFlush` always calls `Batch`, with the scheduled items and then its own. -/
@[simp] theorem scheduleAndFlush_issued (a : Aggregator Item) (batchItem : Item)
    (answer : BatchResult Resp Err) :
    (a.scheduleAndFlush batchItem answer).issued = some (a.scheduled ++ [batchItem]) := by
  simp [scheduleAndFlush, issueBatchLocked_issued]

@[simp] theorem flush_agg (a : Aggregator Item) (answer : BatchResult Resp Err) :
    (a.flush answer).agg = new :=
  issueBatchLocked_agg _ _

@[simp] theorem flush_issued (a : Aggregator Item) (answer : BatchResult Resp Err) :
    (a.flush answer).issued = if a.scheduled.isEmpty then none else some a.scheduled :=
  issueBatchLocked_issued _ _

/-- What `ScheduleAndFlush` returns, from what the batcher returned. -/
theorem scheduleAndFlush_ret (a : Aggregator Item) (batchItem : Item)
    (answer : BatchResult Resp Err) :
    (a.scheduleAndFlush batchItem answer).ret = Reply.ofBatch answer := by
  rw [scheduleAndFlush, issueBatchLocked_ret (a.schedule batchItem) answer (by simp)]

/-! ## What `ScheduleAndFlush` returns -/

/-- **`ScheduleAndFlush` returns an error, or the last response of its batch.** The call hands
`Batch` the scheduled items and its own. Then either the response is `nil` and the error is
not, or the response is the last one the batcher returned and the error is `nil`. When the
batcher returns one response per item of the batch, that last response is the one at the
position of the item the call scheduled. -/
theorem scheduleAndFlush_reply (a : Aggregator Item) (batchItem : Item)
    (answer : BatchResult Resp Err) :
    let r := (a.scheduleAndFlush batchItem answer).ret
    (a.scheduleAndFlush batchItem answer).issued = some (a.scheduled ++ [batchItem]) ∧
      ((r.resp = none ∧ r.err.isSome) ∨
        (r.resp.isSome ∧ r.resp = answer.resp.getLast? ∧ r.err = none ∧
          (answer.resp.length = a.scheduled.length + 1 →
            r.resp = answer.resp[a.scheduled.length]?))) := by
  refine ⟨scheduleAndFlush_issued a batchItem answer, ?_⟩
  rw [scheduleAndFlush_ret, Reply.ofBatch]
  rcases answer with ⟨resp, _ | err⟩
  · dsimp only
    rcases h : resp.getLast? with _ | r
    · simp
    · refine .inr ⟨rfl, rfl, rfl, fun hl => ?_⟩
      show some r = _
      rw [← h, List.getLast?_eq_getElem?, hl, Nat.add_sub_cancel]
  · simp

/-- **`ScheduleAndFlush` can return another item's response.** After `Schedule(0)`, a
`ScheduleAndFlush(1)` whose `Batch` answers the batch `[0, 1]` with the one response `7` and no
error returns `7` with a `nil` error: the response at item `0`'s position, while the batcher gave
none at item `1`'s. -/
theorem scheduleAndFlush_returns_first_items_response :
    let a : Aggregator ℕ := new.schedule 0
    let answer : BatchResult ℕ Unit := ⟨[7], none⟩
    (a.scheduleAndFlush 1 answer).issued = some [0, 1] ∧
      (a.scheduleAndFlush 1 answer).ret.resp = some 7 ∧
      (a.scheduleAndFlush 1 answer).ret.err = none ∧
      answer.resp[0]? = some 7 ∧ answer.resp[1]? = none := by
  intro a answer
  obtain ⟨hissued, ⟨hresp, -⟩ | ⟨-, hresp, herr, -⟩⟩ := scheduleAndFlush_reply a 1 answer
  · exact absurd hresp (by decide)
  · exact ⟨hissued, hresp, herr, rfl, rfl⟩

end Aggregator

end Uplink.BatchAggregator
