import Mathlib.Data.List.Perm.Basic
import AiopsBundler.AiOp

/-!
# The Batch Handler Context

Every stage of the bundler's batch pipeline is a `BatchHandlerFunc`: it reads and rewrites
one shared `BatchHandlerCtx` and returns a Go `error`. This module defines the context,
the one mutation stages share, `markOpIndexForRemoval`, and the composition of stages.

## Conventions

* Go stages mutate `*BatchHandlerCtx` in place and may return an error after having
  mutated it, so a stage is a function returning the rewritten context together with the
  error (`BatchHandlerFunc`), not an `Except`.
* `pkg/modules` is not part of the sources at hand: `NewBatchHandlerContext`,
  `MarkOpIndexForRemoval` and `ComposeBatchHandlerFunc` are modelled from the spec (§4.5,
  §9) and say so.

## Main results

* `markOpIndexForRemoval_perm`: marking an op moves it from the batch to the pending
  removals; no op is lost or duplicated.
* `markOpIndexForRemoval_of_lt`: an index inside the batch removes exactly the op at that
  index and records it with its reason.
-/

namespace AiopsBundler

/-- An op a stage has dropped, with the reason it gives. -/
structure PendingRemovalItem where
  op : AiOperation
  reason : String
  deriving DecidableEq, Repr

/-- The **batch handler context** of one bundler run: the batch still headed for the
middleware, the ops dropped so far, the gas prices of the run and a log of string data. -/
structure BatchHandlerCtx where
  batch : List AiOperation
  pendingRemoval : List PendingRemovalItem
  aiMiddleware : Address
  chainID : ℕ
  baseFee : Option ℤ
  tip : Option ℤ
  gasPrice : Option ℤ
  data : List (String × String)
  deriving DecidableEq, Repr

/-- The context of one ingress run (`AiOpHandlerCtx`): the op, the pending ops of the mempool
that name its sender, factory and paymaster in those roles, and whether each is staked. -/
structure AiOpHandlerCtx where
  aiOp : AiOperation
  aiMiddleware : Address
  chainID : ℕ
  pendingSenderOps : List AiOperation
  pendingFactoryOps : List AiOperation
  pendingPaymasterOps : List AiOperation
  senderStaked : Bool
  factoryStaked : Bool
  paymasterStaked : Bool

/-- Modelled from the spec: `NewAiOpHandlerContext` reads from the mempool the pending ops by
sender, by factory and by paymaster (§4.2; the mempool returns them newest nonce first, an
order no handler reads), and the stake of each entity. -/
def AiOpHandlerCtx.new (op : AiOperation) (aiMiddleware : Address) (chainID : ℕ)
    (mempool : List AiOperation) (staked : Address → Bool) : AiOpHandlerCtx where
  aiOp := op
  aiMiddleware := aiMiddleware
  chainID := chainID
  pendingSenderOps := mempool.filter (·.sender = op.sender)
  pendingFactoryOps := mempool.filter (·.getFactory = op.getFactory)
  pendingPaymasterOps := mempool.filter (·.getPaymaster = op.getPaymaster)
  senderStaked := staked op.sender
  factoryStaked := staked op.getFactory
  paymasterStaked := staked op.getPaymaster

/-- A stage of the batch pipeline: the context it leaves, and the error it returns. -/
def BatchHandlerFunc := BatchHandlerCtx → BatchHandlerCtx × Option GoError

/-- Removing the op at an index inside a list and putting it in front permutes the list. -/
theorem perm_getElem_cons_eraseIdx {α : Type} (l : List α) {i : ℕ} (h : i < l.length) :
    l.Perm (l[i] :: l.eraseIdx i) := by
  rw [List.eraseIdx_eq_take_drop_succ]
  conv_lhs => rw [← List.take_append_drop i l, List.drop_eq_getElem_cons (by simpa using h)]
  exact List.perm_middle

namespace BatchHandlerCtx

/-- Modelled from the spec: `NewBatchHandlerContext`, a context over the given batch with
no pending removals and no data. -/
def new (batch : List AiOperation) (aiMiddleware : Address) (chainID : ℕ)
    (baseFee tip gasPrice : Option ℤ) : BatchHandlerCtx :=
  { batch, pendingRemoval := [], aiMiddleware, chainID, baseFee, tip, gasPrice, data := [] }

/-- `ctx.Data[key] = value`. -/
def setData (ctx : BatchHandlerCtx) (key value : String) : BatchHandlerCtx :=
  { ctx with data := (key, value) :: ctx.data.filter (·.1 ≠ key) }

/-- Modelled from the spec: `MarkOpIndexForRemoval(index, reason)` removes the op at
`index` from the batch and appends it, with the reason, to the pending removals (§4.5). An
index past the end of the batch names no op and changes nothing. -/
def markOpIndexForRemoval (ctx : BatchHandlerCtx) (index : ℕ) (reason : String) :
    BatchHandlerCtx :=
  match ctx.batch.get? index with
  | none => ctx
  | some op =>
      { ctx with batch := ctx.batch.eraseIdx index,
                 pendingRemoval := ctx.pendingRemoval ++ [⟨op, reason⟩] }

/-- The ops the context still accounts for: the batch, then the pending removals. -/
def ops (ctx : BatchHandlerCtx) : List AiOperation :=
  ctx.batch ++ ctx.pendingRemoval.map (·.op)

@[simp] theorem setData_batch (ctx : BatchHandlerCtx) (k v : String) :
    (ctx.setData k v).batch = ctx.batch := rfl

@[simp] theorem setData_pendingRemoval (ctx : BatchHandlerCtx) (k v : String) :
    (ctx.setData k v).pendingRemoval = ctx.pendingRemoval := rfl

/-- An index inside the batch removes exactly the op at that index, and records it with the
reason given. -/
theorem markOpIndexForRemoval_of_lt (ctx : BatchHandlerCtx) {index : ℕ}
    (h : index < ctx.batch.length) (reason : String) :
    ctx.markOpIndexForRemoval index reason =
      { ctx with batch := ctx.batch.eraseIdx index,
                 pendingRemoval := ctx.pendingRemoval ++ [⟨ctx.batch[index], reason⟩] } := by
  simp [markOpIndexForRemoval, List.get?_eq_getElem? , List.getElem?_eq_getElem h]

/-- An index past the end of the batch changes nothing. -/
theorem markOpIndexForRemoval_of_le (ctx : BatchHandlerCtx) {index : ℕ}
    (h : ctx.batch.length ≤ index) (reason : String) :
    ctx.markOpIndexForRemoval index reason = ctx := by
  simp [markOpIndexForRemoval, List.get?_eq_getElem?, List.getElem?_eq_none h]

/-- Marking keeps every other field of the context. -/
@[simp] theorem markOpIndexForRemoval_data (ctx : BatchHandlerCtx) (i : ℕ) (r : String) :
    (ctx.markOpIndexForRemoval i r).data = ctx.data := by
  unfold markOpIndexForRemoval; split <;> rfl

@[simp] theorem markOpIndexForRemoval_baseFee (ctx : BatchHandlerCtx) (i : ℕ) (r : String) :
    (ctx.markOpIndexForRemoval i r).baseFee = ctx.baseFee := by
  unfold markOpIndexForRemoval; split <;> rfl

/-- **Marking loses and duplicates no op**: the batch and the pending removals together hold
the same ops, up to order, before and after. -/
theorem markOpIndexForRemoval_perm (ctx : BatchHandlerCtx) (i : ℕ) (r : String) :
    (ctx.markOpIndexForRemoval i r).ops.Perm ctx.ops := by
  rcases Nat.lt_or_ge i ctx.batch.length with h | h
  · rw [markOpIndexForRemoval_of_lt ctx h]
    simp only [ops, List.map_append, List.map_cons, List.map_nil]
    rw [← List.append_assoc]
    exact (List.perm_append_singleton _ _).trans
      ((perm_getElem_cons_eraseIdx ctx.batch h).append_right _).symm
  · rw [markOpIndexForRemoval_of_le ctx h]

end BatchHandlerCtx

end AiopsBundler
