import Uplink.Satellite.Core

set_option autoImplicit false

/-!
# Building the core

`New` runs a fixed sequence of setup blocks. Each block calls constructors with handles it reads
from the fields filled so far, and stores what they return. Three calls can fail
(`tlsopts.NewOptions`, `versionInfo.Proto`, `audit.NewWorker`); on a failure `New` closes the
partly built core and returns the error combined with what `Close` returned. Two blocks depend
on the configuration: the payments provider, and whether graceful exit is enabled.

`build` is `New`'s body as a computation over `Build`, the core so far and the calls made with
the handles they were passed; `new` adds the teardown on failure.

* `Config`, `Outcomes`, `build`, `built`, `new`;
* `Config.check`, `built_cases`: `New` reads the configuration only through two branches, so a
  fact decided on the four configurations it tells apart and the eight ways its fallible calls
  turn out holds for every configuration and every failure;
* **`built_contact_overlay_nil`**: `contact.NewService` is passed the overlay service before it
  is built, while every other call is passed only built handles (`built_args_isSome`);
* `new_fills`: a successful `New` fills every field, but for the graceful exit chore when
  graceful exit is disabled and the payments chore when the provider is not
  `stripecoinpayments`.
-/

namespace Uplink.Satellite

/-- The fields of `Config` that `New` branches on: `Payments.Provider` and `GracefulExit.Enabled`.
The other fields are only passed on to constructors. -/
structure Config where
  paymentsProvider : String
  gracefulExitEnabled : Bool

/-- The calls of `New` that can fail: `tlsopts.NewOptions`, `versionInfo.Proto` and
`audit.NewWorker`. -/
inductive Fallible
  | newOptions | proto | newWorker
  deriving DecidableEq, Repr, Fintype

/-- What the calls of `New` that can fail return: an error, or `none` for `nil`. -/
abbrev Outcomes (Err : Type) := Fallible → Option Err

/-- A call `New` makes: the function, and the handles among its arguments, in order. -/
structure Call where
  fn : Handle
  args : List (Option Handle)
  deriving DecidableEq, Repr

/-- `New` so far: the core, and the calls made (a record of the model). -/
structure Build where
  peer : Core
  calls : List Call

/-- `&Core{Log: log, Identity: full, DB: db}`: no subsystem yet. -/
def Build.init : Build := ⟨fun _ => none, []⟩

/-- `New`'s computations: they change the build, and may stop at a call that failed. -/
abbrev BuildM := ExceptT Fallible (StateM Build)

/-- Call `fn` with the handles `args`; the value is the handle `fn`. -/
def call (fn : Handle) (args : List (Option Handle)) : BuildM (Option Handle) :=
  modifyGet fun b => (some fn, { b with calls := b.calls ++ [⟨fn, args⟩] })

/-- `peer.s = h`. -/
def assign (s : Slot) (h : Option Handle) : BuildM Unit :=
  modify fun b => { b with peer := Function.update b.peer s h }

/-- `peer.s`. -/
def field (s : Slot) : BuildM (Option Handle) :=
  return (← get).peer s

/-- `if err != nil { return ... }` after the call `f`, where `failed` says whether it failed. -/
def check (f : Fallible) (failed : Bool) : BuildM Unit :=
  if failed then throw f else pure ()

/-- `setup version control` (the log line for a non-zero version is not modelled). -/
def setupVersionControl : BuildM Unit := do
  assign .version (← call .versionCheckerNewService [])

/-- `setup listener and server`. -/
def setupListenerAndServer (fails : Fallible → Bool) : BuildM Unit := do
  let tlsOptions ← call .tlsoptsNewOptions []
  check .newOptions (fails .newOptions)
  assign .dialer (← call .rpcNewDefaultDialer [tlsOptions])

/-- `setup contact service`. -/
def setupContactService (fails : Fallible → Bool) : BuildM Unit := do
  let pbVersion ← call .versionInfoProto []
  check .proto (fails .proto)
  let self ← call .nodeDossier [pbVersion]
  assign .contactService
    (← call .contactNewService [self, ← field .overlayService, ← field .dialer])

/-- `setup overlay`, `setup live accounting`, `setup accounting project usage` and
`setup orders`. -/
def setupOverlayAndOrders : BuildM Unit := do
  assign .overlayDB (← call .overlayNewCombinedCache [])
  assign .overlayService (← call .overlayNewService [← field .overlayDB])
  assign .liveAccountingCache (some .liveAccounting)
  assign .accountingProjectUsage (← call .accountingNewService [← field .liveAccountingCache])
  assign .ordersService (← call .ordersNewService [← field .overlayService])

/-- `setup metainfo`. -/
def setupMetainfo : BuildM Unit := do
  assign .metainfoDatabase (some .pointerDB)
  assign .metainfoService (← call .metainfoNewService [← field .metainfoDatabase])
  assign .metainfoLoop (← call .metainfoNewLoop [← field .metainfoDatabase])

/-- `setup datarepair`. -/
def setupDatarepair : BuildM Unit := do
  assign .repairChecker (← call .checkerNewChecker
    [← field .metainfoService, ← field .metainfoLoop, ← field .overlayService])
  let segmentRepairer ← call .repairerNewSegmentRepairer
    [← field .metainfoService, ← field .ordersService, ← field .overlayService, ← field .dialer]
  assign .repairRepairer (← call .repairerNewService [segmentRepairer])

/-- `setup audit`; `audit.NewWorker` returns a `nil` worker with its error. -/
def setupAudit (fails : Fallible → Bool) : BuildM Unit := do
  assign .auditQueue (some .auditQueue)
  assign .auditVerifier (← call .auditNewVerifier
    [← field .metainfoService, ← field .dialer, ← field .overlayService, ← field .ordersService])
  assign .auditReporter (← call .auditNewReporter [← field .overlayService])
  let worker ← call .auditNewWorker
    [← field .auditQueue, ← field .auditVerifier, ← field .auditReporter]
  assign .auditWorker (if fails .newWorker then none else worker)
  check .newWorker (fails .newWorker)
  assign .auditChore (← call .auditNewChore [← field .auditQueue, ← field .metainfoLoop])

/-- `setup garbage collection`, `setup db cleanup` and `setup accounting`. -/
def setupChores : BuildM Unit := do
  assign .garbageCollectionService (← call .gcNewService
    [← field .dialer, ← field .overlayDB, ← field .metainfoLoop])
  assign .dbCleanupChore (← call .dbcleanupNewChore [])
  assign .accountingTally
    (← call .tallyNew [← field .liveAccountingCache, ← field .metainfoLoop])
  assign .accountingRollup (← call .rollupNew [])

/-- `setup payments`: the provider selects the accounts, and a chore for `stripecoinpayments`. -/
def setupPayments (provider : String) : BuildM Unit := do
  if provider = "stripecoinpayments" then
    let service ← call .stripecoinpaymentsNewService []
    assign .paymentsAccounts (← call .serviceAccounts [service])
    assign .paymentsChore (← call .stripecoinpaymentsNewChore [service])
  else
    assign .paymentsAccounts (← call .mockpaymentsAccounts [])

/-- `setup graceful exit`: the chore only when enabled (else a log line, not modelled). -/
def setupGracefulExit (enabled : Bool) : BuildM Unit := do
  if enabled then
    assign .gracefulExitChore (← call .gracefulexitNewChore
      [← field .overlayDB, ← field .metainfoLoop])

/-- `setup metrics service` and `setup downtime tracking`. -/
def setupMetricsAndDowntime : BuildM Unit := do
  assign .metricsChore (← call .metricsNewChore [← field .metainfoLoop])
  assign .downtimeTrackingService (← call .downtimeNewService
    [← field .overlayService, ← field .contactService])
  assign .downtimeTrackingDetectionChore (← call .downtimeNewDetectionChore
    [← field .overlayService, ← field .downtimeTrackingService])

/-- The blocks of `New`, in order. -/
def build (config : Config) (fails : Fallible → Bool) : BuildM Unit := do
  setupVersionControl
  setupListenerAndServer fails
  setupContactService fails
  setupOverlayAndOrders
  setupMetainfo
  setupDatarepair
  setupAudit fails
  setupChores
  setupPayments config.paymentsProvider
  setupGracefulExit config.gracefulExitEnabled
  setupMetricsAndDowntime

/-- Where `build` ends from `Build.init`: the call it stopped at, if any, and the build. -/
def built (config : Config) (fails : Fallible → Bool) : Except Fallible Unit × Build :=
  (build config fails).run.run Build.init

/-! ## Where `build` ends -/

/-- The failures given by one `Bool` per fallible call. -/
def Fallible.pattern (a b c : Bool) : Fallible → Bool
  | .newOptions => a
  | .proto => b
  | .newWorker => c

theorem Fallible.pattern_self (fails : Fallible → Bool) :
    Fallible.pattern (fails .newOptions) (fails .proto) (fails .newWorker) = fails := by
  funext f; cases f <;> rfl

/-- The configuration `New` cannot tell from `config`: a provider other than
`stripecoinpayments` is as good as the empty one. -/
def Config.normal (config : Config) : Config :=
  ⟨if config.paymentsProvider = "stripecoinpayments" then "stripecoinpayments" else "",
    config.gracefulExitEnabled⟩

/-- The four configurations `New` tells apart. -/
def Config.normals : List Config :=
  [⟨"stripecoinpayments", true⟩, ⟨"stripecoinpayments", false⟩, ⟨"", true⟩, ⟨"", false⟩]

theorem Config.normal_mem (config : Config) : config.normal ∈ Config.normals := by
  rcases config with ⟨p, _ | _⟩ <;> by_cases hp : p = "stripecoinpayments" <;>
    simp [normal, normals, hp]

theorem built_normal (config : Config) (fails : Fallible → Bool) :
    built config.normal fails = built config fails := by
  by_cases hp : config.paymentsProvider = "stripecoinpayments" <;>
    simp [built, build, Config.normal, setupPayments, hp]

/-- The fields a successful `New` fills: all but the graceful exit chore, filled when graceful
exit is enabled, and the payments chore, filled for the `stripecoinpayments` provider. -/
def Config.fills (config : Config) : Slot → Bool
  | .gracefulExitChore => config.gracefulExitEnabled
  | .paymentsChore => decide (config.paymentsProvider = "stripecoinpayments")
  | _ => true

theorem Config.fills_normal (config : Config) : config.normal.fills = config.fills := by
  funext s
  by_cases hp : config.paymentsProvider = "stripecoinpayments" <;> cases s <;>
    simp [fills, normal, hp]

/-- **A fact about every configuration, checked on the four that `New` tells apart**, for a
fact that reads the configuration only through what `New` does with it. -/
theorem Config.check (P : Config → Prop) (hP : ∀ config, P config.normal → P config)
    (hcheck : ∀ config ∈ Config.normals, P config) : ∀ config, P config := fun config =>
  hP config (hcheck _ config.normal_mem)

/-- **A fact about every build, checked on the four configurations and the eight ways the
fallible calls can turn out.** -/
theorem built_cases (P : Config → (Fallible → Bool) → Prop)
    (hP : ∀ config fails, P config.normal fails → P config fails)
    (hcheck : ∀ config ∈ Config.normals, ∀ a b c, P config (Fallible.pattern a b c)) :
    ∀ config fails, P config fails := fun config fails =>
  hP config fails (Fallible.pattern_self fails ▸ hcheck _ config.normal_mem _ _ _)

/-- `build` ends without error exactly when no call fails. -/
theorem built_ok_iff (config : Config) (fails : Fallible → Bool) :
    (built config fails).1.toBool ↔ ∀ f, fails f = false := by
  revert config fails
  refine built_cases _ (fun config fails h => ?_) ?_
  · rwa [built_normal] at h
  · decide

/-- **A successful build fills the fields `config.fills` names.** -/
theorem built_ok_peer (config : Config) (s : Slot) :
    ((built config fun _ => false).2.peer s).isSome = config.fills s := by
  revert config s
  refine Config.check _ (fun config h => ?_) ?_
  · rwa [built_normal, Config.fills_normal] at h
  · decide

/-- **`New` hands `contact.NewService` a `nil` overlay service.** Whenever `New` gets to
`setup contact service`, the call gets the node dossier, the overlay service field, still `nil`
since `setup overlay` comes next, and the dialer. -/
theorem built_contact_overlay_nil (config : Config) (fails : Fallible → Bool)
    (h₁ : fails .newOptions = false) (h₂ : fails .proto = false) :
    ⟨.contactNewService, [some .nodeDossier, none, some .rpcNewDefaultDialer]⟩ ∈
      (built config fails).2.calls := by
  revert config fails h₁ h₂
  refine built_cases _ (fun config fails h => ?_) ?_
  · rwa [built_normal] at h
  · decide

/-- In the default configuration with no failure, `contact.NewService` gets a `nil` overlay
service, and the overlay service field is filled afterwards. -/
theorem contact_gets_nil_overlay :
    ⟨.contactNewService, [some .nodeDossier, none, some .rpcNewDefaultDialer]⟩ ∈
        (built ⟨"", false⟩ fun _ => false).2.calls ∧
      (built ⟨"", false⟩ fun _ => false).2.peer .overlayService = some .overlayNewService :=
  ⟨built_contact_overlay_nil _ _ rfl rfl, by decide⟩

/-- **Every other call of `New` gets only handles built before it**, for every configuration and
wherever `New` stops. -/
theorem built_args_isSome (config : Config) (fails : Fallible → Bool) :
    ∀ c ∈ (built config fails).2.calls, c.fn ≠ .contactNewService →
      ∀ a ∈ c.args, a.isSome := by
  revert config fails
  refine built_cases _ (fun config fails h => ?_) ?_
  · rwa [built_normal] at h
  · decide

variable {Err : Type}

/-- What `New` did: the core it returned (`nil` on a failure), its error, and the fields its
teardown closed. -/
structure NewResult (Err : Type) where
  core : Option Core
  err : Option (Error Err)
  closed : List Slot

/-- `New`: the core, or on a failure `nil` and `errs.Combine(err, peer.Close())` on the partly
built core, `err` being the error of the call that failed; `closeErr` is what each `Close`
returns. -/
def new (config : Config) (o : Outcomes Err) (closeErr : Slot → Option Err) : NewResult Err :=
  match built config fun f => (o f).isSome with
  | (.ok (), b) => ⟨some b.peer, none, []⟩
  | (.error f, b) =>
    let c := b.peer.close closeErr
    ⟨none, combine [(o f).map .of, c.err], c.closed⟩

/-- `New` returns a core only when no call failed, and then the core `build` made. -/
theorem new_eq_some {config : Config} {o : Outcomes Err} {closeErr : Slot → Option Err}
    {peer : Core} (h : (new config o closeErr).core = some peer) :
    (∀ f, o f = none) ∧ peer = (built config fun _ => false).2.peer := by
  unfold new at h
  split at h
  · next b hb =>
    have hok := (built_ok_iff config fun f => (o f).isSome).mp (by simp [hb, Except.toBool])
    have hfails : (fun f => (o f).isSome) = fun _ => false := funext hok
    refine ⟨fun f => Option.not_isSome_iff_eq_none.mp (by simp [hok f]), ?_⟩
    rw [← hfails, hb]
    exact (Option.some.inj h).symm
  · cases h

/-- With no call failing, `New` returns the core `build` made. -/
theorem new_no_failure (config : Config) (closeErr : Slot → Option Err) :
    (new config (fun _ => none) closeErr).core = some (built config fun _ => false).2.peer := by
  have hok := (built_ok_iff config fun _ => false).mpr fun _ => rfl
  simp only [new, Option.isSome_none]
  revert hok
  cases built config fun _ => false with
  | mk r b => cases r <;> simp [Except.toBool]

/-- **A core from `New` holds exactly the subsystems `config.fills` names.** -/
theorem new_fills {config : Config} {o : Outcomes Err} {closeErr : Slot → Option Err}
    {peer : Core} (h : (new config o closeErr).core = some peer) (s : Slot) :
    (peer s).isSome = config.fills s := by
  rw [(new_eq_some h).2, built_ok_peer]

end Uplink.Satellite
