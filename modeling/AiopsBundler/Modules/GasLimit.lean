import AiopsBundler.Gas.Overhead
import AiopsBundler.Modules.Context

/-!
# Keeping a Batch Under the Gas Limit

`MaintainGasLimit(maxBatchGasLimit)` (`pkg/modules/batch/gaslimit.go`) walks the batch in
order, adding up for each op the gas it may use in the bundle,
`maxGasAvailable - preVerificationGas + staticPVG`, and stops before the first op whose
running total reaches the limit. The batch becomes the ops before it; the ops after it are
neither in the batch nor marked for removal, so they stay in the mempool for a later run.

## Main results

* `maintainGasLimitWith_spec`: on success the batch becomes the longest prefix of the batch
  all of whose running totals are strictly below the limit, and nothing else changes. It
  fails only when pricing an op it reached fails, and then leaves the context as it was.
  With the default overhead, as `MaintainGasLimit` has it, it always succeeds.
-/

namespace AiopsBundler

/-- The gas an op may use in the bundle, given its static PVG. -/
def opGas (op : AiOperation) (static : ℕ) : ℤ :=
  (op.getMaxGasAvailable : ℤ) - op.preVerificationGas + static

/-- The running total of the gas of `ops`, each op priced by the overhead model `ov`; the
first error of the model when it has one. -/
def totalGas (ov : Overhead) (ops : List AiOperation) : Except GoError ℤ :=
  ops.foldlM (fun sum op => do
    let static ← ov.calcPreVerificationGas op
    pure (sum + opGas op static)) 0

/-- `pre` is a prefix of `batch` all of whose running totals are below `limit`, and is the
longest: the next running total, if there is a next op, reaches the limit. -/
def IsLongestPrefixBelow (ov : Overhead) (limit : ℤ) (batch pre : List AiOperation) : Prop :=
  pre <+: batch ∧
    (∀ j, 0 < j → j ≤ pre.length → ∃ t, totalGas ov (batch.take j) = .ok t ∧ t < limit) ∧
    (pre.length < batch.length →
      ∃ t, totalGas ov (batch.take (pre.length + 1)) = .ok t ∧ limit ≤ t)

/-- The loop of `MaintainGasLimit`: `sum` and `bat` are the running total and the ops kept so
far, `ops` the ops not yet reached. -/
def gasLimitLoop (ov : Overhead) (maxBatchGasLimit : ℤ) :
    ℤ → List AiOperation → List AiOperation → Except GoError (List AiOperation)
  | _, bat, [] => .ok bat
  | sum, bat, op :: ops =>
    match ov.calcPreVerificationGas op with
    | .error e => .error e
    | .ok static =>
      let sum := sum + opGas op static
      if maxBatchGasLimit ≤ sum then .ok bat
      else gasLimitLoop ov maxBatchGasLimit sum (bat ++ [op]) ops

/-- `MaintainGasLimit`, with the overhead model it prices ops with as a parameter. -/
def maintainGasLimitWith (staticOv : Overhead) (maxBatchGasLimit : ℤ) : BatchHandlerFunc :=
  fun ctx =>
    match gasLimitLoop staticOv maxBatchGasLimit 0 [] ctx.batch with
    | .error e => (ctx, some e)
    | .ok bat => ({ ctx with batch := bat }, none)

/-- `MaintainGasLimit(maxBatchGasLimit)`, which prices ops with `NewDefaultOverhead()`. -/
def maintainGasLimit (maxBatchGasLimit : ℤ) : BatchHandlerFunc :=
  maintainGasLimitWith Overhead.newDefault maxBatchGasLimit

/-- Adding an op to a priced prefix adds its gas to the running total. -/
theorem totalGas_append_singleton {ov : Overhead} {ops : List AiOperation} {sum : ℤ}
    (h : totalGas ov ops = .ok sum) (op : AiOperation) :
    totalGas ov (ops ++ [op]) = (do
      let static ← ov.calcPreVerificationGas op
      pure (sum + opGas op static)) := by
  simp only [totalGas, List.foldlM_append] at h ⊢
  rw [h]
  simp only [List.foldlM_cons, List.foldlM_nil]
  cases ov.calcPreVerificationGas op <;> rfl

/-- `e` is the error of **pricing an op the loop reaches**: the op follows a prefix of `batch`
all of whose running totals are below `limit`. -/
def FailsToPriceReachedOp (ov : Overhead) (limit : ℤ) (batch : List AiOperation)
    (e : GoError) : Prop :=
  ∃ pre op, pre ++ [op] <+: batch ∧
    (∀ j, 0 < j → j ≤ pre.length → ∃ t, totalGas ov (batch.take j) = .ok t ∧ t < limit) ∧
    ov.calcPreVerificationGas op = .error e

/-- **The loop keeps the longest prefix below the limit, or fails on an op it reaches.**
Started from a kept prefix `bat` of `batch = bat ++ ops` whose running totals are all below
the limit, with total `sum`, a loop that succeeds keeps the longest such prefix of `batch`,
and a loop that fails returns the error of pricing the op after a prefix below the limit. -/
theorem gasLimitLoop_spec (ov : Overhead) (limit : ℤ) (batch : List AiOperation) :
    ∀ (ops bat : List AiOperation) (sum : ℤ), batch = bat ++ ops → totalGas ov bat = .ok sum →
      (∀ j, 0 < j → j ≤ bat.length → ∃ t, totalGas ov (batch.take j) = .ok t ∧ t < limit) →
      (∀ pre, gasLimitLoop ov limit sum bat ops = .ok pre →
        IsLongestPrefixBelow ov limit batch pre) ∧
      (∀ e, gasLimitLoop ov limit sum bat ops = .error e →
        FailsToPriceReachedOp ov limit batch e) := by
  intro ops
  induction ops with
  | nil =>
    intro bat sum hb _ hbelow
    subst hb
    refine ⟨fun pre h => ?_, fun _ h => nomatch h⟩
    cases h
    exact ⟨by simp, by simpa using hbelow, by simp⟩
  | cons op ops ih =>
    intro bat sum hb hsum hbelow
    have htake : batch.take (bat.length + 1) = bat ++ [op] := by
      rw [hb, List.take_append]; rfl
    rcases hstatic : ov.calcPreVerificationGas op with e | static
    · rw [gasLimitLoop, hstatic]
      dsimp only
      refine ⟨fun _ h => (nomatch h), fun _ h => ?_⟩
      cases h
      exact ⟨bat, op, ⟨ops, by simp [hb]⟩, hbelow, hstatic⟩
    · have hnext : totalGas ov (batch.take (bat.length + 1)) = .ok (sum + opGas op static) := by
        rw [htake, totalGas_append_singleton hsum, hstatic]; rfl
      rw [gasLimitLoop, hstatic]
      dsimp only
      split_ifs with hge
      · refine ⟨fun pre h => ?_, fun _ h => nomatch h⟩
        cases h
        exact ⟨⟨op :: ops, hb.symm⟩, hbelow, fun _ => ⟨_, hnext, hge⟩⟩
      · refine ih (bat ++ [op]) _ (by simp [hb]) (htake ▸ hnext) fun j hj hjl => ?_
        rcases Nat.lt_or_ge j (bat.length + 1) with hl | hl
        · exact hbelow j hj (by omega)
        · simp only [List.length_append, List.length_singleton] at hjl
          rw [show j = bat.length + 1 by omega]
          exact ⟨_, hnext, lt_of_not_le hge⟩

/-- The loop of `MaintainGasLimit`, run over the whole batch from nothing kept. -/
theorem gasLimitLoop_batch_spec (ov : Overhead) (limit : ℤ) (batch : List AiOperation) :
    (∀ pre, gasLimitLoop ov limit 0 [] batch = .ok pre →
      IsLongestPrefixBelow ov limit batch pre) ∧
    (∀ e, gasLimitLoop ov limit 0 [] batch = .error e → FailsToPriceReachedOp ov limit batch e) :=
  gasLimitLoop_spec ov limit batch batch [] 0 rfl rfl fun j hj hjl => by
    simp only [List.length_nil] at hjl; omega

/-- `MaintainGasLimit` without error leaves the longest prefix of the batch under the
limit. -/
theorem maintainGasLimitWith_eq_none {ov : Overhead} {limit : ℤ} {ctx ctx' : BatchHandlerCtx}
    (h : maintainGasLimitWith ov limit ctx = (ctx', none)) :
    ∃ pre, ctx' = { ctx with batch := pre } ∧ IsLongestPrefixBelow ov limit ctx.batch pre := by
  unfold maintainGasLimitWith at h
  split at h
  · cases h
  · rename_i pre hloop
    cases h
    exact ⟨pre, rfl, (gasLimitLoop_batch_spec ov limit ctx.batch).1 pre hloop⟩

/-- `MaintainGasLimit` with an error leaves the context as it was; the error is that of
pricing an op it reached. -/
theorem maintainGasLimitWith_eq_some {ov : Overhead} {limit : ℤ} {ctx ctx' : BatchHandlerCtx}
    {e : GoError} (h : maintainGasLimitWith ov limit ctx = (ctx', some e)) :
    ctx' = ctx ∧ FailsToPriceReachedOp ov limit ctx.batch e := by
  unfold maintainGasLimitWith at h
  split at h
  · rename_i e' hloop
    cases h
    exact ⟨rfl, (gasLimitLoop_batch_spec ov limit ctx.batch).2 e hloop⟩
  · cases h

/-- **MaintainGasLimit keeps the longest prefix under the limit.** When it returns `nil` it
has set the batch to the longest prefix of the batch all of whose running totals of
`maxGasAvailable - preVerificationGas + staticPVG` are strictly below the limit, changing
nothing else (the ops after the prefix are not marked for removal, and stay in the
mempool). It returns an error only when pricing an op it reached fails, and then leaves the
context as it was. With the default overhead, as `MaintainGasLimit` has it, pricing never
fails: it always returns `nil`, with that prefix. -/
theorem maintainGasLimitWith_spec (ov : Overhead) (maxBatchGasLimit : ℤ)
    (ctx : BatchHandlerCtx) :
    (∀ ctx', maintainGasLimitWith ov maxBatchGasLimit ctx = (ctx', none) →
      ∃ pre, ctx' = { ctx with batch := pre } ∧
        IsLongestPrefixBelow ov maxBatchGasLimit ctx.batch pre) ∧
    (∀ ctx' e, maintainGasLimitWith ov maxBatchGasLimit ctx = (ctx', some e) →
      ctx' = ctx ∧ FailsToPriceReachedOp ov maxBatchGasLimit ctx.batch e) ∧
    ∃ pre, maintainGasLimit maxBatchGasLimit ctx = ({ ctx with batch := pre }, none) ∧
      IsLongestPrefixBelow Overhead.newDefault maxBatchGasLimit ctx.batch pre := by
  refine ⟨fun _ h => maintainGasLimitWith_eq_none h, fun _ _ h => maintainGasLimitWith_eq_some h,
    ?_⟩
  rcases h : maintainGasLimit maxBatchGasLimit ctx with ⟨ctx', _ | e⟩
  · obtain ⟨pre, rfl, hpre⟩ := maintainGasLimitWith_eq_none h
    exact ⟨pre, rfl, hpre⟩
  · obtain ⟨-, _, op, -, -, hop⟩ := maintainGasLimitWith_eq_some h
    simp at hop

end AiopsBundler
