import AiopsBundler.Modules.Builder

/-!
# The Private-Mode Submitter, and the Stale Estimate Batch

`Relayer.SendAiOperation` (`pkg/modules/relay`) shares the estimate-and-drop loop of the
searcher-mode submitter and then sends the `handleOps` transaction itself, as a regular
EOA transaction.

Both submitters build `opts` once, with `Batch: ctx.Batch`, and never refresh it, so every
gas estimate is asked about the batch the handler started with while the ops are dropped
from the current one. `sendAiOperation_drops_unreported_op` runs both submitters on a
two-op batch whose first op the middleware rejects: each drops the second op as well,
which the middleware would have accepted, and sends nothing.

## Main results

* `sendAiOperation_drops_unreported_op`: both submitters drop an op the middleware never
  reported.
-/

namespace AiopsBundler

namespace Relayer

/-- What `SendAiOperation` does after the estimate loop: send `handleOps` when ops are left. -/
def submit (net : Network) (opts : Opts) (ctx : BatchHandlerCtx) :
    BatchHandlerCtx × Option GoError :=
  if 0 < ctx.batch.length then
    match handleOps net opts with
    | .error e => (ctx, some e)
    | .ok txn => (ctx.setData "txn_hash" (net.txnHash txn), none)
  else (ctx, none)

/-- `Relayer.SendAiOperation`, with at most `fuel` gas estimates: `none` when the estimate
loop has not ended within them. -/
def sendAiOperation (net : Network) (fuel : ℕ) (ctx : BatchHandlerCtx) :
    Option (BatchHandlerCtx × Option GoError) :=
  let opts : Opts := { batch := ctx.batch, baseFee := ctx.baseFee, tip := ctx.tip,
                       gasPrice := ctx.gasPrice, gasLimit := 0, noSend := false }
  (estimateLoop net.estimateHandleOpsGas opts.batch fuel ctx).map fun
    | .failed ctx e => (ctx, some e)
    | .emptied ctx => submit net opts ctx
    | .estimated ctx est => submit net { opts with gasLimit := est } ctx

end Relayer

/-- **Both submitters drop an op the middleware never reported**: on the batch `[op₀, op₁]`,
with a middleware that rejects `op₀` (a `FailedOp` at index `0` of `[op₀, op₁]`) and
accepts `[op₁]`, the searcher and the private submitter each move both ops to the pending
removals and send nothing, because the second estimate is asked about `[op₀, op₁]` again. -/
theorem sendAiOperation_drops_unreported_op :
    let op₀ : AiOperation := ⟨1, 0, [], [], 0, 0, 0, 0, 0, [], []⟩
    let op₁ : AiOperation := ⟨2, 0, [], [], 0, 0, 0, 0, 0, [], []⟩
    let net : Network :=
      { estimateHandleOpsGas := fun batch =>
          if batch = [op₀, op₁] then ⟨0, some ⟨0, "AA23 reverted"⟩, none⟩ else ⟨60000, none, none⟩
        blockNumber := .ok 1, handleOpsErr := fun _ => none, broadcastBundle := fun _ _ => [none],
        wait := fun _ => none, txnHash := fun _ => "0x01" }
    let ctx := BatchHandlerCtx.new [op₀, op₁] 0 1 (some 1) (some 1) (some 1)
    let dropped : BatchHandlerCtx :=
      { ctx with batch := [], pendingRemoval := [⟨op₀, "AA23 reverted"⟩, ⟨op₁, "AA23 reverted"⟩] }
    (net.estimateHandleOpsGas [op₁]).revert = none ∧
      BuilderClient.sendAiOperation ⟨6⟩ net 2 ctx = some (dropped, none) ∧
      Relayer.sendAiOperation net 2 ctx = some (dropped, none) := by
  intro op₀ op₁ net ctx dropped
  have hloop : estimateLoop net.estimateHandleOpsGas ctx.batch 2 ctx = some (.emptied dropped) :=
    @estimateLoop_revert_zero net.estimateHandleOpsGas [op₀, op₁] "AA23 reverted"
      (by simp [net]) (by simp [net]) ctx
  refine ⟨by simp [net, op₀, op₁], ?_, ?_⟩
  · unfold BuilderClient.sendAiOperation; dsimp only; rw [hloop]; rfl
  · unfold Relayer.sendAiOperation; dsimp only; rw [hloop]; rfl

end AiopsBundler
