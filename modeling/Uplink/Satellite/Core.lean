import Mathlib.Data.List.Count
import Mathlib.Tactic.DeriveFintype

set_option autoImplicit false

/-!
# The satellite core

`satellite.Core` holds the dependencies of a satellite (its log, identity and database) and one
handle per subsystem. `New` fills the handles block by block, `Run` runs the subsystems in an
error group and `Close` closes them.

The subsystems themselves are outside the model. A handle is named by the call or the value that
made it (`Handle`), and a core is the handle each of its fields holds (`Slot`), `none` for `nil`.

* `Slot`, `Handle`, `Core`: the fields and what they hold;
* `Error`, `groupErr`, `combine`: `errs.Group` and `errs.Combine`;
* `closeOrder`, `Core.close`: `Close` closes every populated field of a fixed list, in order and
  whatever the earlier closes returned (`close_closed_count`), and returns the group of their
  errors.
-/

namespace Uplink.Satellite

/-- The subsystem fields of `Core`, in the order of the struct. -/
inductive Slot
  | dialer | version | contactService | overlayDB | overlayService | metainfoDatabase
  | metainfoService | metainfoLoop | ordersService | repairChecker | repairRepairer | auditQueue
  | auditWorker | auditChore | auditVerifier | auditReporter | garbageCollectionService
  | dbCleanupChore | accountingTally | accountingRollup | accountingProjectUsage
  | liveAccountingCache | paymentsAccounts | paymentsChore | gracefulExitChore | metricsChore
  | downtimeTrackingDetectionChore | downtimeTrackingService
  deriving DecidableEq, Repr, Fintype

/-- A handle `New` stores or passes on, named by the call or the value that made it:
`contactNewService` is what `contact.NewService` returned, `liveAccounting` and `pointerDB` are
arguments of `New`, `nodeDossier` is the contact service's `self`. -/
inductive Handle
  | versionCheckerNewService | tlsoptsNewOptions | rpcNewDefaultDialer | versionInfoProto
  | nodeDossier | contactNewService | overlayNewCombinedCache | overlayNewService | liveAccounting
  | accountingNewService | ordersNewService | pointerDB | metainfoNewService | metainfoNewLoop
  | checkerNewChecker | repairerNewSegmentRepairer | repairerNewService | auditQueue
  | auditNewVerifier | auditNewReporter | auditNewWorker | auditNewChore | gcNewService
  | dbcleanupNewChore | tallyNew | rollupNew | mockpaymentsAccounts
  | stripecoinpaymentsNewService | serviceAccounts | stripecoinpaymentsNewChore
  | gracefulexitNewChore | metricsNewChore | downtimeNewService | downtimeNewDetectionChore
  deriving DecidableEq, Repr

/-- A `Core`: the handle each subsystem field holds, `none` for `nil`. -/
abbrev Core := Slot → Option Handle

/-! ## Errors -/

/-- An `error` of the core: one returned by a subsystem or a call of `New`, or several
combined by `errs`. -/
inductive Error (Err : Type)
  | of (err : Err)
  | combined (errs : List (Error Err))

variable {Err : Type}

/-- `errs.Group.Err`: `nil` for no error, the error itself for one, their combination for more. -/
def groupErr : List (Error Err) → Option (Error Err)
  | [] => none
  | [e] => some e
  | e₁ :: e₂ :: es => some (.combined (e₁ :: e₂ :: es))

/-- `errs.Combine`: the group of the errors that are not `nil`. -/
def combine (errs : List (Option (Error Err))) : Option (Error Err) :=
  groupErr (errs.filterMap id)

/-! ## `Close` -/

/-- The fields `Close` closes, in its order: the downtime detection, metrics and graceful exit
chores, then the services, the metainfo loop last. -/
def closeOrder : List Slot :=
  [.downtimeTrackingDetectionChore, .metricsChore, .gracefulExitChore, .auditChore, .auditWorker,
    .accountingRollup, .accountingTally, .dbCleanupChore, .repairRepairer, .repairChecker,
    .overlayService, .contactService, .metainfoLoop]

theorem closeOrder_nodup : closeOrder.Nodup := by decide

/-- What `Close` did: the fields whose `Close` it called, in order, and what it returned. -/
structure Closed (Err : Type) where
  closed : List Slot
  err : Option (Error Err)

/-- `Close`: for each field of `closeOrder` that is not `nil`, `errlist.Add(peer.s.Close())`;
then `errlist.Err()`. `closeErr s` is what the `Close` of the subsystem in `s` returns. -/
def Core.close (peer : Core) (closeErr : Slot → Option Err) : Closed Err :=
  let closed := closeOrder.filter fun s => (peer s).isSome
  ⟨closed, groupErr (closed.filterMap fun s => (closeErr s).map .of)⟩

/-- `Close` calls the `Close` of each populated field of `closeOrder` once, and no other,
whatever the closes return. -/
theorem close_closed_count (peer : Core) (closeErr : Slot → Option Err) (s : Slot) :
    (peer.close closeErr).closed.count s =
      if s ∈ closeOrder ∧ (peer s).isSome then 1 else 0 := by
  have hnd : (closeOrder.filter fun s => (peer s).isSome).Nodup := closeOrder_nodup.filter _
  split_ifs with h
  · exact List.count_eq_one_of_mem hnd (List.mem_filter.mpr ⟨h.1, by simpa using h.2⟩)
  · refine List.count_eq_zero_of_not_mem fun hs => h ?_
    simpa using List.mem_filter.mp hs

end Uplink.Satellite
