import AiopsBundler.Modules.Context

/-!
# Gas Estimation and the Estimate-and-Drop Loop

Both submitters, `BuilderClient.SendAiOperation` (searcher mode) and
`Relayer.SendAiOperation` (private mode), open with the same loop:

```
opts := transaction.Opts{..., Batch: ctx.Batch, ...}
for len(ctx.Batch) > 0 {
    est, revert, err := transaction.EstimateHandleOpsGas(&opts)
    if err != nil { return err }
    else if revert != nil { ctx.MarkOpIndexForRemoval(revert.OpIndex, revert.Reason) }
    else { opts.GasLimit = est; break }
}
```

The loop tests `ctx.Batch`, and drops from `ctx.Batch`, but the middleware is asked about
`opts.Batch`, which is the batch as it was when `opts` was built and is never refreshed.
`estimateLoop` keeps that split: the batch handed to the estimator is an argument of its
own that the recursion never changes.

## Conventions

* `pkg/aimiddleware/transaction` is not part of the sources at hand. `EstimateHandleOpsGas`
  is any function of the batch it is given (`Network.estimateHandleOpsGas`), returning the
  three results of the Go function; `HandleOps` is modelled from the spec (§4.6): it builds
  the `handleOps(opts.Batch, beneficiary)` transaction from the options, or fails.
* The loop may run forever, so `estimateLoop` takes a fuel bound on the number of estimator
  calls and returns `none` when the loop has not finished within it.

## Main results

* `estimateLoop_estimated`: a loop that ends with an estimate has dropped nothing.
* `estimateLoop_revert_zero`: a `FailedOp` at index `0` drains the whole batch into the
  pending removals.
* `estimateLoop_revert_succ`: a `FailedOp` at any other index never lets the loop end.
-/

namespace AiopsBundler

/-- A decoded `FailedOp` revert of the middleware: the index of the failing op in the batch
it was given, and the reason. -/
structure FailedOpRevert where
  opIndex : ℕ
  reason : String
  deriving DecidableEq, Repr

/-- The three results of `transaction.EstimateHandleOpsGas`: the estimate, the decoded
revert, and the error. -/
structure EstimateHandleOpsGasResult where
  est : ℕ
  revert : Option FailedOpRevert
  err : Option GoError

/-- The options `SendAiOperation` passes to the transaction helpers (`transaction.Opts`), with
the fields the model reads. -/
structure Opts where
  batch : List AiOperation
  baseFee : Option ℤ
  tip : Option ℤ
  gasPrice : Option ℤ
  gasLimit : ℕ
  noSend : Bool
  deriving DecidableEq, Repr

/-- A `handleOps` transaction: the batch it carries, its gas limit and its fee parameters. -/
structure Txn where
  batch : List AiOperation
  gasLimit : ℕ
  baseFee : Option ℤ
  tip : Option ℤ
  deriving DecidableEq, Repr

/-- What a submitter learns from the outside world, each answer as a function of the
request: the middleware's gas estimate for a batch, the node's block number, whether
building (and, without `NoSend`, sending) a transaction fails, every builder's answer to
`eth_sendBundle` for a target block, the wait for inclusion, and a transaction's hash. -/
structure Network where
  estimateHandleOpsGas : List AiOperation → EstimateHandleOpsGasResult
  blockNumber : Except GoError ℕ
  handleOpsErr : Opts → Option GoError
  broadcastBundle : Txn → ℕ → List (Option GoError)
  wait : Txn → Option GoError
  txnHash : Txn → String

/-- Modelled from the spec: `transaction.HandleOps` builds the `handleOps(opts.Batch,
beneficiary)` transaction with the options' gas limit and fees (§4.6), unless the network
makes it fail. -/
def handleOps (net : Network) (opts : Opts) : Except GoError Txn :=
  match net.handleOpsErr opts with
  | some e => .error e
  | none => .ok { batch := opts.batch, gasLimit := opts.gasLimit, baseFee := opts.baseFee,
                  tip := opts.tip }

/-- How the estimate-and-drop loop ends: with an estimate (`break`), with an empty batch
(the loop condition fails), or with the estimator's error (`return err`). -/
inductive EstimateOutcome where
  | estimated (ctx : BatchHandlerCtx) (est : ℕ)
  | emptied (ctx : BatchHandlerCtx)
  | failed (ctx : BatchHandlerCtx) (err : GoError)

/-- The context an outcome leaves. -/
def EstimateOutcome.ctx : EstimateOutcome → BatchHandlerCtx
  | .estimated ctx _ => ctx
  | .emptied ctx => ctx
  | .failed ctx _ => ctx

/-- The **estimate-and-drop loop** of `SendAiOperation`, with at most `fuel` estimator calls.
Every call asks about `optsBatch`, the batch `opts` was built with. -/
def estimateLoop (estimate : List AiOperation → EstimateHandleOpsGasResult)
    (optsBatch : List AiOperation) : ℕ → BatchHandlerCtx → Option EstimateOutcome
  | 0, ctx => if 0 < ctx.batch.length then none else some (.emptied ctx)
  | fuel + 1, ctx =>
      if 0 < ctx.batch.length then
        let r := estimate optsBatch
        match r.err, r.revert with
        | some e, _ => some (.failed ctx e)
        | none, some rev =>
            estimateLoop estimate optsBatch fuel (ctx.markOpIndexForRemoval rev.opIndex rev.reason)
        | none, none => some (.estimated ctx r.est)
      else some (.emptied ctx)

section Loop

variable {estimate : List AiOperation → EstimateHandleOpsGasResult}
  {optsBatch : List AiOperation}

/-- An empty batch ends the loop at once, with no estimator call. -/
@[simp] theorem estimateLoop_nil (fuel : ℕ) {ctx : BatchHandlerCtx} (h : ctx.batch = []) :
    estimateLoop estimate optsBatch fuel ctx = some (.emptied ctx) := by
  cases fuel <;> simp [estimateLoop, h]

/-- One turn of the loop on a non-empty batch. -/
theorem estimateLoop_succ (fuel : ℕ) {ctx : BatchHandlerCtx} (h : ctx.batch ≠ []) :
    estimateLoop estimate optsBatch (fuel + 1) ctx =
      match (estimate optsBatch).err, (estimate optsBatch).revert with
      | some e, _ => some (.failed ctx e)
      | none, some rev =>
          estimateLoop estimate optsBatch fuel (ctx.markOpIndexForRemoval rev.opIndex rev.reason)
      | none, none => some (.estimated ctx (estimate optsBatch).est) := by
  simp [estimateLoop, List.length_pos.mpr h]

/-- A reverting estimator never lets the loop return an estimate: it answers the same batch
on every call, so it reverts on every call. -/
theorem estimateLoop_ne_estimated_of_revert (herr : (estimate optsBatch).err = none)
    (hrev : (estimate optsBatch).revert ≠ none) :
    ∀ fuel ctx ctx' est, estimateLoop estimate optsBatch fuel ctx ≠ some (.estimated ctx' est)
  | 0, ctx, _, _ => by
    by_cases hb : ctx.batch = [] <;> simp [estimateLoop, hb, List.length_pos]
  | fuel + 1, ctx, ctx', est => by
    by_cases hb : ctx.batch = []
    · simp [hb]
    · rw [estimateLoop_succ _ hb]
      split
      · simp_all
      · exact estimateLoop_ne_estimated_of_revert herr hrev fuel _ ctx' est
      · simp_all

/-- **An estimate means nothing was dropped**: the estimator answers the same batch on every
call, so once it has reported a revert it can never return an estimate; a loop that ends
with an estimate ended on its first call, on the context it started from. -/
theorem estimateLoop_estimated {fuel : ℕ} {ctx ctx' : BatchHandlerCtx} {est : ℕ}
    (h : estimateLoop estimate optsBatch fuel ctx = some (.estimated ctx' est)) :
    ctx' = ctx ∧ (estimate optsBatch).err = none ∧ (estimate optsBatch).revert = none ∧
      est = (estimate optsBatch).est := by
  cases fuel with
  | zero =>
    by_cases hb : ctx.batch = [] <;> simp [estimateLoop, hb, List.length_pos] at h
  | succ fuel =>
    by_cases hb : ctx.batch = []
    · simp [hb] at h
    · rw [estimateLoop_succ _ hb] at h
      split at h
      · cases h
      · rename_i rev herr hrev
        exact absurd h (estimateLoop_ne_estimated_of_revert herr (by simp [hrev]) fuel _ ctx' est)
      · rename_i herr hrev
        cases h
        exact ⟨rfl, herr, hrev, rfl⟩

/-- **A revert at index `0` drains the batch**: every call reports the first op of the
stale batch, and every call drops whatever op is first in the current one, until none is
left. -/
theorem estimateLoop_revert_zero {reason : String}
    (herr : (estimate optsBatch).err = none)
    (hrev : (estimate optsBatch).revert = some ⟨0, reason⟩) (ctx : BatchHandlerCtx) :
    estimateLoop estimate optsBatch ctx.batch.length ctx =
      some (.emptied
        { ctx with batch := [],
                   pendingRemoval := ctx.pendingRemoval ++ ctx.batch.map (⟨·, reason⟩) }) := by
  obtain ⟨batch, pending, mw, cid, bf, tip, gp, data⟩ := ctx
  induction batch generalizing pending with
  | nil => simp
  | cons op ops ih =>
    simp only [List.length_cons]
    rw [estimateLoop_succ _ (List.cons_ne_nil op ops), herr, hrev]
    simp only
    rw [BatchHandlerCtx.markOpIndexForRemoval_of_lt _ (by simp)]
    have := ih (pending ++ [⟨op, reason⟩])
    rw [List.append_assoc, List.singleton_append] at this
    simpa using this

/-- **A revert at any other index never ends the loop**: the estimator keeps naming the same
index of the stale batch, and once the current batch is no longer than that index the
removal names no op and the batch stops shrinking without emptying. -/
theorem estimateLoop_revert_succ {i : ℕ} {reason : String}
    (herr : (estimate optsBatch).err = none)
    (hrev : (estimate optsBatch).revert = some ⟨i + 1, reason⟩) :
    ∀ (fuel : ℕ) (ctx : BatchHandlerCtx), ctx.batch ≠ [] →
      estimateLoop estimate optsBatch fuel ctx = none := by
  intro fuel
  induction fuel with
  | zero => intro ctx hb; simp [estimateLoop, List.length_pos.mpr hb]
  | succ fuel ih =>
    intro ctx hb
    rw [estimateLoop_succ _ hb, herr, hrev]
    refine ih _ ?_
    rcases Nat.lt_or_ge (i + 1) ctx.batch.length with hl | hl
    · rw [BatchHandlerCtx.markOpIndexForRemoval_of_lt _ hl]
      intro he
      have := congrArg List.length he
      simp [List.length_eraseIdx, hl] at this
      omega
    · rwa [BatchHandlerCtx.markOpIndexForRemoval_of_le _ hl]

end Loop

end AiopsBundler
