import Mathlib.Algebra.BigOperators.Group.List
import Mathlib.Algebra.Order.Ring.Nat
import AiopsBundler.Modules.Context

/-!
# Reputation Handlers

`Reputation` (`pkg/modules/entities`) tracks, per entity address, how many ops naming it
were seen at ingress and how many were included on chain, and derives from these counters a
status `ok`, `throttled` or `banned`. Its handlers are

* `CheckStatus` and `ValidateOpLimit`, ingress checks on the op's sender, factory and
  paymaster;
* `IncOpsSeen`, the last ingress stage, counting one sighting per role an address fills;
* `IncOpsIncluded`, a batch stage, counting the addresses of the submitted batch;
* `Override`, the debug endpoint that overwrites counters.

Each writing handler runs inside one badger transaction, `db.Update(fn)`, which commits when
`fn` returns `nil` and is discarded otherwise (`dbUpdate`).

## Conventions

* The per-entity helpers the handlers call (`getStatus`, `incrementOpsSeenByEntity`,
  `incrementOpsIncludedByEntity`, `overrideEntity`) are not part of the sources at hand.
  They are the fields of `EntityStore σ`: any functions of the transaction's view `σ` of
  the store, each returning the new view and its error, so every result below holds
  whatever they do. `getStatus` only reads.
* `addressCounter` is a Go map from addresses to counts; absent keys read as `0`, so it is
  a function `Address → ℕ`, and `c[a]++` is `bump c a`.

## Main results

* `Reputation.incOpsIncluded_counts_seen_calls`: `IncOpsIncluded` credits each address with
  exactly the number of `incrementOpsSeenByEntity` calls `IncOpsSeen` makes for it over the
  batch.
* `dbUpdate_error`: a failed transaction leaves the store as it was.
* `override_commits_failed_update`: `Override` drops the errors of `overrideEntity`, so it
  returns `nil` and commits the entries written before a failing one.
-/

namespace AiopsBundler

/-- The status of an entity, derived from its reputation counters (§4.3). -/
inductive Status where
  | ok
  | throttled
  | banned
  deriving DecidableEq, Repr

/-- Modelled from the spec: the JSON-RPC code of a banned or throttled entity (§6.1). -/
def bannedOrThrottledEntity : ℤ := -32502

/-- Modelled from the spec: the JSON-RPC code of an entity with an invalid stake (§6.1). -/
def invalidEntityStake : ℤ := -32504

/-- The three roles an entity fills in an op (§3). -/
inductive Role where
  | sender
  | factory
  | paymaster
  deriving DecidableEq, Repr

/-- The address in role `ρ` of `op`: the zero address for a factory or a paymaster the op
does not name. -/
def Role.entity : Role → AiOperation → Address
  | .sender, op => op.sender
  | .factory, op => op.getFactory
  | .paymaster, op => op.getPaymaster

/-- The handlers check the address `E` in role `ρ`: every sender, and a factory or a
paymaster other than the zero address. -/
def Role.Checks (ρ : Role) (E : Address) : Prop := ρ = .sender ∨ E ≠ 0

/-- The pending ops of a context in role `ρ`. -/
def AiOpHandlerCtx.pendingOps (ctx : AiOpHandlerCtx) : Role → List AiOperation
  | .sender => ctx.pendingSenderOps
  | .factory => ctx.pendingFactoryOps
  | .paymaster => ctx.pendingPaymasterOps

/-- Whether the entity of a context in role `ρ` is staked. -/
def AiOpHandlerCtx.isStaked (ctx : AiOpHandlerCtx) : Role → Bool
  | .sender => ctx.senderStaked
  | .factory => ctx.factoryStaked
  | .paymaster => ctx.paymasterStaked

/-- The reputation constants the handlers read (`ReputationConstants`); configured from the
environment with the defaults `10`, `11` and `4`. -/
structure ReputationConstants where
  sameSenderMempoolCount : ℕ
  sameUnstakedEntityMempoolCount : ℕ
  throttledEntityMempoolCount : ℕ

/-- The pending-ops limit `ValidateOpLimit` sets for an unstaked entity. -/
def ReputationConstants.opLimit (rc : ReputationConstants) : Role → ℕ
  | .sender => rc.sameSenderMempoolCount
  | .factory | .paymaster => rc.sameUnstakedEntityMempoolCount

/-- Modelled from the spec: a `debug_bundler_setReputation` entry, setting an address's
counters (§3). -/
structure ReputationOverride where
  address : Address
  opsSeen : ℕ
  opsIncluded : ℕ
  deriving DecidableEq, Repr

/-- The per-entity helpers of the reputation package, over a transaction's view `σ`. -/
structure EntityStore (σ : Type) where
  getStatus : σ → Address → Except GoError Status
  incrementOpsSeenByEntity : σ → Address → σ × Option GoError
  incrementOpsIncludedByEntity : σ → (Address → ℕ) → σ × Option GoError
  overrideEntity : σ → ReputationOverride → σ × Option GoError

/-- `db.Update(fn)`: `fn` runs on a read-write transaction over the store `db`. The
transaction commits when `fn` returns `nil` and the commit succeeds (`commitErr`, a
conflict with a concurrent transaction, comes from outside the model); otherwise it is
discarded and the store is left as it was. -/
def dbUpdate {σ : Type} (db : σ) (commitErr : Option GoError) (fn : σ → σ × Option GoError) :
    σ × Option GoError :=
  match fn db with
  | (_, some e) => (db, some e)
  | (txn, none) =>
    match commitErr with
    | some e => (db, some e)
    | none => (txn, none)

/-- **A failed transaction changes nothing**: whenever `db.Update` returns an error, the store
is the one it started from. -/
theorem dbUpdate_error {σ : Type} (db : σ) (commitErr : Option GoError)
    (fn : σ → σ × Option GoError) {db' : σ} {e : GoError}
    (h : dbUpdate db commitErr fn = (db', some e)) : db' = db := by
  unfold dbUpdate at h
  split at h
  · cases h; rfl
  · split at h <;> cases h; rfl

/-- A transaction reports success exactly when its callback and its commit do. -/
theorem dbUpdate_eq_none_iff {σ : Type} (db : σ) (commitErr : Option GoError)
    (fn : σ → σ × Option GoError) :
    (dbUpdate db commitErr fn).2 = none ↔ (fn db).2 = none ∧ commitErr = none := by
  unfold dbUpdate
  rcases fn db with ⟨txn, _ | e⟩ <;> cases commitErr <;> simp

/-- `c[a]++` on an address counter. -/
def bump (c : Address → ℕ) (a : Address) : Address → ℕ :=
  Function.update c a (c a + 1)

@[simp] theorem bump_apply (c : Address → ℕ) (a b : Address) :
    bump c a b = c b + if a = b then 1 else 0 := by
  by_cases h : a = b <;> simp [bump, Function.update_apply, h, eq_comm]

/-- One call of a per-entity helper, its error joined into the errors so far:
`err = stdErr.Join(err, call(txn))`. -/
def joinCall {σ : Type} (call : σ → σ × Option GoError) (acc : σ × Option GoError) :
    σ × Option GoError :=
  let (txn, e) := call acc.1
  (txn, goJoin [acc.2, e])

/-- The **status check of one entity** in `CheckStatus`: a banned entity is refused, and so is
a throttled one whose pending ops number exactly `ThrottledEntityMempoolCount`. -/
def statusCheck (repConst : ReputationConstants) (status : Status) (pending : ℕ)
    (addr : Address) : Option GoError :=
  if status = .banned then
    some (.rpc bannedOrThrottledEntity ("banned entity: " ++ addressHex addr))
  else if status = .throttled ∧ pending = repConst.throttledEntityMempoolCount then
    some (.rpc bannedOrThrottledEntity ("throttled entity: " ++ addressHex addr))
  else none

/-- The **pending-ops check of one entity** in `ValidateOpLimit`: an unstaked entity whose
pending ops number exactly the role's limit is refused. -/
def stakeLimitCheck (staked : Bool) (pending limit : ℕ) (addr : Address) : Option GoError :=
  if !staked ∧ pending = limit then
    some (.rpc invalidEntityStake ("unstaked entity: " ++ addressHex addr ++
      " exceeds pending ops limit of " ++ toString limit))
  else none

/-- The first error of a check made of the op's sender, then of its factory and of its
paymaster when the op names them: the shape `CheckStatus` and `ValidateOpLimit` share. -/
def firstRoleError (op : AiOperation) (check : Role → Option GoError) : Option GoError :=
  check .sender <|> (if op.getFactory ≠ 0 then check .factory else none) <|>
    (if op.getPaymaster ≠ 0 then check .paymaster else none)

/-- When the three-role check passes, the check of every role whose address it checks passes. -/
theorem check_eq_none_of_firstRoleError {op : AiOperation} {check : Role → Option GoError}
    (h : firstRoleError op check = none) {ρ : Role} (hρ : ρ.Checks (ρ.entity op)) :
    check ρ = none := by
  simp only [firstRoleError, Option.orElse_eq_none] at h
  obtain ⟨hsender, hfactory, hpaymaster⟩ := h
  cases ρ
  case sender => exact hsender
  case factory =>
    rwa [if_pos (show op.getFactory ≠ 0 from hρ.resolve_left (by decide))] at hfactory
  case paymaster =>
    rwa [if_pos (show op.getPaymaster ≠ 0 from hρ.resolve_left (by decide))] at hpaymaster

/-- The reputation module: its per-entity helpers and its constants. -/
structure Reputation (σ : Type) where
  store : EntityStore σ
  repConst : ReputationConstants

namespace Reputation

variable {σ : Type} (r : Reputation σ)

/-- The status of `addr` read in the transaction, checked against its pending ops. -/
def entityStatus (txn : σ) (addr : Address) (pending : ℕ) : Option GoError :=
  match r.store.getStatus txn addr with
  | .error e => some e
  | .ok status => statusCheck r.repConst status pending addr

/-- `CheckStatus`: the status check of the sender, then of the factory and the paymaster
when the op names them; the first refusal is returned. -/
def checkStatus (commitErr : Option GoError) (db : σ) (ctx : AiOpHandlerCtx) :
    σ × Option GoError :=
  dbUpdate db commitErr fun txn =>
    (txn, firstRoleError ctx.aiOp fun ρ =>
      r.entityStatus txn (ρ.entity ctx.aiOp) (ctx.pendingOps ρ).length)

/-- `ValidateOpLimit`: the sender against `SameSenderMempoolCount`, then the factory and the
paymaster, when the op names them, against `SameUnstakedEntityMempoolCount`. -/
def validateOpLimit (ctx : AiOpHandlerCtx) : Option GoError :=
  firstRoleError ctx.aiOp fun ρ =>
    stakeLimitCheck (ctx.isStaked ρ) (ctx.pendingOps ρ).length (r.repConst.opLimit ρ)
      (ρ.entity ctx.aiOp)

/-- The callback of `IncOpsSeen`: one `incrementOpsSeenByEntity` call for the sender, and one
for the factory and the paymaster when the op names them, every error joined. -/
def incOpsSeenTxn (op : AiOperation) (txn : σ) : σ × Option GoError :=
  let acc := joinCall (r.store.incrementOpsSeenByEntity · op.sender) (txn, none)
  let factory := op.getFactory
  let acc := if factory ≠ 0 then joinCall (r.store.incrementOpsSeenByEntity · factory) acc
    else acc
  let paymaster := op.getPaymaster
  if paymaster ≠ 0 then joinCall (r.store.incrementOpsSeenByEntity · paymaster) acc else acc

/-- `IncOpsSeen`. -/
def incOpsSeen (commitErr : Option GoError) (db : σ) (op : AiOperation) : σ × Option GoError :=
  dbUpdate db commitErr (r.incOpsSeenTxn op)

end Reputation

/-- The body of the loop of `IncOpsIncluded` over the batch: one count for the op's sender,
and one for its factory and its paymaster when it names them. -/
def countOp (c : Address → ℕ) (op : AiOperation) : Address → ℕ :=
  let c := bump c op.sender
  let factory := op.getFactory
  let c := if factory ≠ 0 then bump c factory else c
  let paymaster := op.getPaymaster
  if paymaster ≠ 0 then bump c paymaster else c

/-- The counter `IncOpsIncluded` builds over the batch. -/
def includedCounter (batch : List AiOperation) : Address → ℕ :=
  batch.foldl countOp (fun _ => 0)

namespace Reputation

variable {σ : Type} (r : Reputation σ)

/-- `IncOpsIncluded`: one `incrementOpsIncludedByEntity` call with the batch's counter. -/
def incOpsIncluded (commitErr : Option GoError) (db : σ) (ctx : BatchHandlerCtx) :
    σ × Option GoError :=
  dbUpdate db commitErr (r.store.incrementOpsIncludedByEntity · (includedCounter ctx.batch))

/-- `Override`: one `overrideEntity` call per entry. The code writes
`stdErr.Join(err, overrideEntity(txn, entry))` without assigning the result, so every error
of `overrideEntity` is dropped and the callback returns the `nil` it started with. -/
def override (commitErr : Option GoError) (db : σ) (entries : List ReputationOverride) :
    σ × Option GoError :=
  dbUpdate db commitErr fun txn =>
    entries.foldl (fun acc entry => ((r.store.overrideEntity acc.1 entry).1, acc.2))
      (txn, none)

end Reputation

/-! ### Refusals at the limit -/

namespace Reputation

variable {σ : Type} (r : Reputation σ)

/-- **CheckStatus refuses a throttled entity at the limit**: an op naming a throttled `E` in a
role it checks is refused when `E` has `ThrottledEntityMempoolCount` pending ops there. -/
theorem checkStatus_refuses_throttled (commitErr : Option GoError) (db : σ)
    {ctx : AiOpHandlerCtx} {ρ : Role} {E : Address} (hρ : ρ.Checks E)
    (hE : ρ.entity ctx.aiOp = E) (hs : r.store.getStatus db E = .ok .throttled)
    (hp : (ctx.pendingOps ρ).length = r.repConst.throttledEntityMempoolCount) :
    (r.checkStatus commitErr db ctx).2 ≠ none := by
  subst hE
  rw [checkStatus, Ne, dbUpdate_eq_none_iff]
  rintro ⟨h, -⟩
  dsimp only at h
  have := check_eq_none_of_firstRoleError h hρ
  simp [entityStatus, hs, statusCheck, hp] at this

/-- **ValidateOpLimit refuses an unstaked entity at the limit**: an op naming an unstaked `E`
in a role it checks is refused when `E` has its role's limit of pending ops there. -/
theorem validateOpLimit_refuses_unstaked {ctx : AiOpHandlerCtx} {ρ : Role} {E : Address}
    (hρ : ρ.Checks E) (hE : ρ.entity ctx.aiOp = E) (hst : ctx.isStaked ρ = false)
    (hp : (ctx.pendingOps ρ).length = r.repConst.opLimit ρ) :
    r.validateOpLimit ctx ≠ none := by
  subst hE
  intro h
  have := check_eq_none_of_firstRoleError h hρ
  simp [stakeLimitCheck, hst, hp] at this

end Reputation

/-! ### Counting in the same units -/

/-- A store that records, in order, the addresses `incrementOpsSeenByEntity` is called with. -/
def seenCallLog : EntityStore (List Address) where
  getStatus _ _ := .ok .ok
  incrementOpsSeenByEntity log a := (log ++ [a], none)
  incrementOpsIncludedByEntity log _ := (log, none)
  overrideEntity log _ := (log, none)

/-- The addresses `IncOpsSeen` calls `incrementOpsSeenByEntity` with, for one op. -/
def seenCalls (op : AiOperation) : List Address :=
  ((Reputation.mk seenCallLog ⟨0, 0, 0⟩).incOpsSeenTxn op []).1

/-- Counting one op adds, at each address, its number of `IncOpsSeen` calls. -/
theorem countOp_apply (c : Address → ℕ) (op : AiOperation) (a : Address) :
    countOp c op a = c a + (seenCalls op).count a := by
  simp only [countOp, seenCalls, Reputation.incOpsSeenTxn, joinCall, seenCallLog]
  split_ifs <;> simp [List.count_cons, add_assoc, add_comm, add_left_comm]

/-- The counter built from `c` over `batch` adds to `c` the `IncOpsSeen` calls of the batch. -/
theorem foldl_countOp (batch : List AiOperation) (c : Address → ℕ) (a : Address) :
    batch.foldl countOp c a = c a + (batch.map fun op => (seenCalls op).count a).sum := by
  induction batch generalizing c with
  | nil => simp
  | cons op ops ih =>
    rw [List.foldl_cons, ih, countOp_apply, List.map_cons, List.sum_cons, add_assoc]

/-- The counter of a batch gives each address its `IncOpsSeen` calls over the batch. -/
theorem includedCounter_eq_seen_calls (batch : List AiOperation) (a : Address) :
    includedCounter batch a = (batch.map fun op => (seenCalls op).count a).sum := by
  rw [includedCounter, foldl_countOp, Nat.zero_add]

namespace Reputation

variable {σ : Type} (r : Reputation σ)

/-- **Included and seen are counted in the same units**: for every batch, `IncOpsIncluded`
makes its one `incrementOpsIncludedByEntity` call with the counter that gives each address
the number of `incrementOpsSeenByEntity` calls `IncOpsSeen` makes with it, summed over the
ops of the batch. -/
theorem incOpsIncluded_counts_seen_calls (commitErr : Option GoError) (db : σ)
    (ctx : BatchHandlerCtx) :
    r.incOpsIncluded commitErr db ctx = dbUpdate db commitErr fun txn =>
      r.store.incrementOpsIncludedByEntity txn fun a =>
        (ctx.batch.map fun op => (seenCalls op).count a).sum := by
  rw [incOpsIncluded, funext (includedCounter_eq_seen_calls ctx.batch)]

end Reputation

/-! ### All or nothing -/

/-- A joined pair of errors is `nil` exactly when both are. -/
@[simp] theorem goJoin_pair_eq_none (a b : Option GoError) :
    goJoin [a, b] = none ↔ a = none ∧ b = none := by
  cases a <;> cases b <;> simp [goJoin, List.reduceOption]

/-- `CallsSucceed f txn as`: calling `f` with each of `as` in turn, from the view `txn`, every
call returns `nil`. -/
def CallsSucceed {σ α : Type} (f : σ → α → σ × Option GoError) : σ → List α → Prop
  | _, [] => True
  | txn, a :: as => (f txn a).2 = none ∧ CallsSucceed f (f txn a).1 as

/-- Joining the errors of calls made in turn gives `nil` exactly when every call does. -/
theorem foldl_joinCall_eq_none {σ α : Type} (f : σ → α → σ × Option GoError)
    (as : List α) :
    ∀ acc : σ × Option GoError,
      (as.foldl (fun acc a => joinCall (f · a) acc) acc).2 = none ↔
        acc.2 = none ∧ CallsSucceed f acc.1 as := by
  induction as with
  | nil => simp [CallsSucceed]
  | cons a as ih =>
    intro acc
    rw [List.foldl_cons, ih]
    simp only [joinCall, goJoin_pair_eq_none, CallsSucceed, and_assoc]

/-- The addresses `IncOpsSeen` counts for an op, in the order it counts them. -/
def seenAddresses (op : AiOperation) : List Address :=
  op.sender :: (if op.getFactory ≠ 0 then [op.getFactory] else []) ++
    (if op.getPaymaster ≠ 0 then [op.getPaymaster] else [])

namespace Reputation

variable {σ : Type} (r : Reputation σ)

/-- The callback of `IncOpsSeen` makes one joined call per address of `seenAddresses`. -/
theorem incOpsSeenTxn_eq_foldl (op : AiOperation) (txn : σ) :
    r.incOpsSeenTxn op txn = (seenAddresses op).foldl
      (fun acc a => joinCall (r.store.incrementOpsSeenByEntity · a) acc) (txn, none) := by
  simp only [incOpsSeenTxn, seenAddresses]
  split_ifs <;> rfl

/-- **IncOpsSeen is all or nothing**: it returns `nil` exactly when every
`incrementOpsSeenByEntity` call it makes succeeds and the transaction commits, and when it
returns an error the store is as it was. -/
theorem incOpsSeen_all_or_nothing (commitErr : Option GoError) (db : σ) (op : AiOperation) :
    ((r.incOpsSeen commitErr db op).2 = none ↔
      CallsSucceed r.store.incrementOpsSeenByEntity db (seenAddresses op) ∧ commitErr = none) ∧
    ∀ db' e, r.incOpsSeen commitErr db op = (db', some e) → db' = db := by
  refine ⟨?_, fun _ _ h => dbUpdate_error _ _ _ h⟩
  rw [incOpsSeen, dbUpdate_eq_none_iff, incOpsSeenTxn_eq_foldl, foldl_joinCall_eq_none]
  simp

/-- **IncOpsIncluded is all or nothing**: it returns `nil` exactly when its
`incrementOpsIncludedByEntity` call succeeds and the transaction commits, and when it returns
an error the store is as it was. -/
theorem incOpsIncluded_all_or_nothing (commitErr : Option GoError) (db : σ)
    (ctx : BatchHandlerCtx) :
    ((r.incOpsIncluded commitErr db ctx).2 = none ↔
      (r.store.incrementOpsIncludedByEntity db (includedCounter ctx.batch)).2 = none ∧
        commitErr = none) ∧
    ∀ db' e, r.incOpsIncluded commitErr db ctx = (db', some e) → db' = db :=
  ⟨dbUpdate_eq_none_iff _ _ _, fun _ _ h => dbUpdate_error _ _ _ h⟩

end Reputation

/-- **Override commits the entries before a failing one, and reports success**: with a store
whose `overrideEntity` fails on address `2`, overriding `[e₁, e₂]` (addresses `1` and `2`)
returns `nil` and commits the write of `e₁`, although the write of `e₂` failed. -/
theorem override_commits_failed_update :
    let e₁ : ReputationOverride := ⟨1, 5, 0⟩
    let e₂ : ReputationOverride := ⟨2, 5, 0⟩
    let store : EntityStore (List ReputationOverride) :=
      { getStatus := fun _ _ => .ok .ok
        incrementOpsSeenByEntity := fun txn _ => (txn, none)
        incrementOpsIncludedByEntity := fun txn _ => (txn, none)
        overrideEntity := fun txn e =>
          if e.address = 2 then (txn, some (.text "write failed")) else (txn ++ [e], none) }
    (store.overrideEntity [e₁] e₂).2 = some (.text "write failed") ∧
      (Reputation.mk store ⟨10, 11, 4⟩).override none [] [e₁, e₂] = ([e₁], none) :=
  ⟨rfl, rfl⟩

end AiopsBundler
