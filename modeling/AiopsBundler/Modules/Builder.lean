import Mathlib.Logic.Function.Iterate
import AiopsBundler.Modules.Transaction

/-!
# The Searcher-Mode Submitter

`BuilderClient.SendAiOperation` (`pkg/modules/builder`) turns the batch into a `handleOps`
transaction and broadcasts it, as a sealed bundle, to every block builder for each of the
next `blocksInTheFuture` blocks. After the estimate-and-drop loop of
`AiopsBundler.Modules.Transaction` it

1. reads the block number `bn` and targets the blocks `bn + 1, bn + 2, …`;
2. projects the base fee `blocksInTheFuture` blocks ahead, `mbf ← ⌊mbf × 1125 / 1000⌋ + 1`,
   and builds the transaction with that fee cap (`maxBaseFee`);
3. broadcasts it for every target block and reads every builder's answer
   (`broadcastLoop`), failing with `ErrFlashbotsBroadcastBundle` when no answer was a
   success;
4. otherwise waits for inclusion and records the transaction hash.

## Main results

* `maxBaseFee_covers`: the projected fee cap is at least the highest base fee EIP-1559
  allows at every block the bundle targets.
* `sendAiOperation_broadcast`: once a transaction is built, the handler fails with an
  error wrapping `ErrFlashbotsBroadcastBundle` and every builder error exactly when no
  builder accepted the bundle for any block, and otherwise returns what the wait for
  inclusion returns.
* `sendAiOperation_drops_unreported_op`, `sendAiOperation_revert_succ`: the estimate loop
  asks the middleware about a stale batch, so a `FailedOp` at index `0` drops every op of
  the batch, and a `FailedOp` at any other index makes the handler never return.
-/

namespace AiopsBundler

/-- `ErrFlashbotsBroadcastBundle`, the sentinel of a broadcast no builder accepted. -/
def errFlashbotsBroadcastBundle : GoError := .sentinel "ErrFlashbotsBroadcastBundle"

/-- The configuration `BuilderClient.SendAiOperation` reads. -/
structure BuilderClient where
  blocksInTheFuture : ℤ

/-! ### Base-fee projection -/

/-- One turn of the projection loop: `mbf * 1125 / 1000 + 1`, `big.Int` division being
Euclidean as `Int`'s is. -/
def projectStep (mbf : ℤ) : ℤ := mbf * 1125 / 1000 + 1

/-- The projection loop, `blocksInTheFuture` turns from the base fee `bf`. -/
def projectBaseFee (blocksInTheFuture bf : ℤ) : ℤ :=
  projectStep^[blocksInTheFuture.toNat] bf

/-- The fee cap `SendAiOperation` builds the transaction with: the projection of the
context's base fee, or `nil` when that is `nil` and the loop does not run. -/
def maxBaseFee (blocksInTheFuture : ℤ) : Option ℤ → Except GoError (Option ℤ)
  | none => if blocksInTheFuture ≤ 0 then .ok none else .error nilDereference
  | some bf => .ok (some (projectBaseFee blocksInTheFuture bf))

/-- The highest base fee EIP-1559 allows one block after a block with base fee `x`: the
base fee rises by at most an eighth, and by at least one when it rises at all. -/
def eip1559MaxNextBaseFee (x : ℤ) : ℤ := x + max 1 (x / 8)

/-- The projection step adds an eighth and one. -/
theorem projectStep_eq (x : ℤ) : projectStep x = x + x / 8 + 1 := by
  unfold projectStep; omega

/-- One projection step covers one block of EIP-1559 growth. -/
theorem eip1559MaxNextBaseFee_le_projectStep {x : ℤ} (hx : 0 ≤ x) :
    eip1559MaxNextBaseFee x ≤ projectStep x := by
  rw [projectStep_eq]; unfold eip1559MaxNextBaseFee; omega

theorem eip1559MaxNextBaseFee_mono {x y : ℤ} (h : x ≤ y) :
    eip1559MaxNextBaseFee x ≤ eip1559MaxNextBaseFee y := by
  unfold eip1559MaxNextBaseFee; omega

/-- A non-negative fee grows under projection. -/
theorem le_projectStep {x : ℤ} (hx : 0 ≤ x) : x ≤ projectStep x := by
  rw [projectStep_eq]; omega

theorem projectStep_iterate_nonneg {x : ℤ} (hx : 0 ≤ x) (k : ℕ) :
    0 ≤ projectStep^[k] x := by
  induction k with
  | zero => exact hx
  | succ k ih => rw [Function.iterate_succ_apply']; exact Int.le_trans ih (le_projectStep ih)

/-- `k` projection steps cover `k` blocks of EIP-1559 growth. -/
theorem eip1559_iterate_le_projectStep_iterate {x : ℤ} (hx : 0 ≤ x) (k : ℕ) :
    eip1559MaxNextBaseFee^[k] x ≤ projectStep^[k] x := by
  induction k with
  | zero => exact Int.le_refl x
  | succ k ih =>
    rw [Function.iterate_succ_apply', Function.iterate_succ_apply']
    exact Int.le_trans (eip1559MaxNextBaseFee_mono ih)
      (eip1559MaxNextBaseFee_le_projectStep (projectStep_iterate_nonneg hx k))

/-- More projection steps never lower a non-negative fee. -/
theorem projectStep_iterate_mono {x : ℤ} (hx : 0 ≤ x) {k n : ℕ} (h : k ≤ n) :
    projectStep^[k] x ≤ projectStep^[n] x := by
  induction n, h using Nat.le_induction with
  | base => exact Int.le_refl _
  | succ n _ ih =>
    rw [Function.iterate_succ_apply']
    exact Int.le_trans ih (le_projectStep (projectStep_iterate_nonneg hx n))

/-- **The fee cap covers every target block**: from a non-nil base fee `b ≥ 0`, the fee
`SendAiOperation` projects over `n ≥ 0` blocks is at least the highest base fee EIP-1559
allows `k` blocks later, for every `k ≤ n`. -/
theorem maxBaseFee_covers (b : ℤ) (hb : 0 ≤ b) (n : ℕ) :
    ∃ mbf, maxBaseFee n (some b) = .ok (some mbf) ∧
      ∀ k ≤ n, eip1559MaxNextBaseFee^[k] b ≤ mbf :=
  ⟨projectStep^[n] b, by simp [maxBaseFee, projectBaseFee], fun k hk =>
    Int.le_trans (eip1559_iterate_le_projectStep_iterate hb k) (projectStep_iterate_mono hb hk)⟩

/-- The projection from base fee `1000` over six blocks. -/
theorem maxBaseFee_covers_thousand :
    (0 : ℤ) ≤ 1000 ∧ ∃ mbf, maxBaseFee (6 : ℕ) (some 1000) = .ok (some mbf) ∧
      ∀ k ≤ 6, eip1559MaxNextBaseFee^[k] 1000 ≤ mbf :=
  ⟨by decide, maxBaseFee_covers 1000 (by decide) 6⟩

/-- Six turns from `1000` give `2032`. -/
example : projectBaseFee 6 1000 = 2032 := by decide

/-! ### Broadcast -/

/-- One builder's answer, read by the broadcast loop: an error is joined into `errs`, a
success clears `shouldFail`. -/
def collectResult : Bool × Option GoError → Option GoError → Bool × Option GoError
  | (_, errs), none => (false, errs)
  | (shouldFail, errs), some e => (shouldFail, goJoin [errs, some e])

/-- Every builder's answer for every target block, in the order the loop reads them. -/
def broadcastResults (results : ℕ → List (Option GoError)) (nbn n : ℕ) :
    List (Option GoError) :=
  (List.range n).flatMap fun i => results (nbn + i)

/-- The **broadcast loop**: `shouldFail` and the joined errors after reading every builder's
answer for the blocks `nbn, …, nbn + n - 1`. -/
def broadcastLoop (results : ℕ → List (Option GoError)) (nbn n : ℕ) :
    Bool × Option GoError :=
  (List.range n).foldl (fun acc i => (results (nbn + i)).foldl collectResult acc) (true, none)

/-- `fmt.Errorf("%w: \n\n%w", ErrFlashbotsBroadcastBundle, errs)`: `%w` wraps the sentinel,
and `errs` when it is not `nil`. -/
def flashbotsBroadcastBundleError (errs : Option GoError) : GoError :=
  .wrap "%w: \n\n%w" (errFlashbotsBroadcastBundle :: errs.toList)

/-- The nested loop reads the answers in one sequence. -/
theorem broadcastLoop_eq (results : ℕ → List (Option GoError)) (nbn n : ℕ) :
    broadcastLoop results nbn n =
      (broadcastResults results nbn n).foldl collectResult (true, none) := by
  simp [broadcastLoop, broadcastResults, List.flatMap, List.foldl_flatten, List.foldl_map]

/-- `shouldFail` survives exactly the answers that are all errors. -/
theorem foldl_collectResult_fst (rs : List (Option GoError)) (acc : Bool × Option GoError) :
    (rs.foldl collectResult acc).1 = (acc.1 && rs.all Option.isSome) := by
  induction rs generalizing acc with
  | nil => simp
  | cons r rs ih =>
    obtain ⟨sf, errs⟩ := acc
    cases r <;> simp [collectResult, ih]

/-- `errs` wraps every error of the answers read, and whatever it wrapped before. -/
theorem foldl_collectResult_snd (rs : List (Option GoError)) (acc : Bool × Option GoError)
    (e : GoError) (he : some e ∈ rs ∨ ∃ x, acc.2 = some x ∧ x.Is e) :
    ∃ x, (rs.foldl collectResult acc).2 = some x ∧ x.Is e := by
  induction rs generalizing acc with
  | nil => simpa using he
  | cons r rs ih =>
    obtain ⟨sf, errs⟩ := acc
    apply ih
    cases r with
    | none =>
      simp only [List.mem_cons, reduceCtorEq, false_or] at he
      exact he
    | some r =>
      simp only [List.mem_cons, Option.some.injEq] at he
      rcases he with (rfl | hr) | ⟨x, hx, hxe⟩
      · right
        cases errs <;> exact ⟨_, rfl, .join (by simp) (.refl _)⟩
      · exact .inl hr
      · right
        subst hx
        exact ⟨_, rfl, .join (by simp) hxe⟩

/-! ### The handler -/

/-- What `SendAiOperation` does after the estimate loop, with the options `opts` and the
context the loop left. -/
def BuilderClient.submit (b : BuilderClient) (net : Network) (opts : Opts)
    (ctx : BatchHandlerCtx) : BatchHandlerCtx × Option GoError :=
  if ctx.batch.length = 0 then (ctx, none) else
  match net.blockNumber with
  | .error e => (ctx, some e)
  | .ok bn =>
    match maxBaseFee b.blocksInTheFuture ctx.baseFee with
    | .error e => (ctx, some e)
    | .ok mbf =>
      match handleOps net { opts with baseFee := mbf } with
      | .error e => (ctx, some e)
      | .ok txn =>
        let (shouldFail, errs) := broadcastLoop (net.broadcastBundle txn) (bn + 1)
          b.blocksInTheFuture.toNat
        if shouldFail then (ctx, some (flashbotsBroadcastBundleError errs))
        else
          match net.wait txn with
          | some e => (ctx, some e)
          | none => (ctx.setData "txn_hash" (net.txnHash txn), none)

/-- `BuilderClient.SendAiOperation`, with at most `fuel` gas estimates: `none` when the
estimate loop has not ended within them. -/
def BuilderClient.sendAiOperation (b : BuilderClient) (net : Network) (fuel : ℕ)
    (ctx : BatchHandlerCtx) : Option (BatchHandlerCtx × Option GoError) :=
  let opts : Opts := { batch := ctx.batch, baseFee := ctx.baseFee, tip := ctx.tip,
                       gasPrice := ctx.gasPrice, gasLimit := 0, noSend := true }
  (estimateLoop net.estimateHandleOpsGas opts.batch fuel ctx).map fun
    | .failed ctx e => (ctx, some e)
    | .emptied ctx => b.submit net opts ctx
    | .estimated ctx est => b.submit net { opts with gasLimit := est } ctx

/-- Once the estimate loop ends with an estimate, the block number is read and the
transaction is built, `SendAiOperation` broadcasts it and acts on the builders' answers. -/
theorem sendAiOperation_of_estimated (b : BuilderClient) (net : Network) {fuel : ℕ}
    {ctx ctx₁ : BatchHandlerCtx} {est bn : ℕ} {mbf : Option ℤ}
    (hloop :
      estimateLoop net.estimateHandleOpsGas ctx.batch fuel ctx = some (.estimated ctx₁ est))
    (hbn : net.blockNumber = .ok bn)
    (hmbf : maxBaseFee b.blocksInTheFuture ctx.baseFee = .ok mbf)
    (htxn : net.handleOpsErr ⟨ctx.batch, mbf, ctx.tip, ctx.gasPrice, est, true⟩ = none)
    (txn : Txn)
    (htxn_eq : txn = { batch := ctx.batch, gasLimit := est, baseFee := mbf, tip := ctx.tip })
    (results : List (Option GoError))
    (hresults :
      results = broadcastResults (net.broadcastBundle txn) (bn + 1) b.blocksInTheFuture.toNat) :
    b.sendAiOperation net fuel ctx = some (
      let (shouldFail, errs) := results.foldl collectResult (true, none)
      if shouldFail then (ctx, some (flashbotsBroadcastBundleError errs))
      else match net.wait txn with
        | some e => (ctx, some e)
        | none => (ctx.setData "txn_hash" (net.txnHash txn), none)) := by
  obtain ⟨hctx, -, -, -⟩ := estimateLoop_estimated hloop
  subst ctx₁ htxn_eq hresults
  have hne : ctx.batch ≠ [] := fun h0 => by rw [estimateLoop_nil _ h0] at hloop; cases hloop
  simp [BuilderClient.sendAiOperation, hloop, BuilderClient.submit, hne, hbn, hmbf, handleOps,
    htxn, broadcastLoop_eq]

/-- **The broadcast verdict**: once the estimate loop ends with an estimate, the block number
is read and the transaction is built, `SendAiOperation` fails with an error wrapping
`ErrFlashbotsBroadcastBundle` and every builder's error when no builder accepted the bundle
for any target block; when one did, it returns what the wait for inclusion returns. -/
theorem sendAiOperation_broadcast (b : BuilderClient) (net : Network) {fuel : ℕ}
    {ctx ctx₁ : BatchHandlerCtx} {est bn : ℕ} {mbf : Option ℤ}
    (hloop : estimateLoop net.estimateHandleOpsGas ctx.batch fuel ctx = some (.estimated ctx₁ est))
    (hbn : net.blockNumber = .ok bn)
    (hmbf : maxBaseFee b.blocksInTheFuture ctx.baseFee = .ok mbf)
    (htxn : net.handleOpsErr ⟨ctx.batch, mbf, ctx.tip, ctx.gasPrice, est, true⟩ = none) :
    let txn : Txn := { batch := ctx.batch, gasLimit := est, baseFee := mbf, tip := ctx.tip }
    let results := broadcastResults (net.broadcastBundle txn) (bn + 1) b.blocksInTheFuture.toNat
    (results.all Option.isSome = true →
      ∃ e, b.sendAiOperation net fuel ctx = some (ctx, some e) ∧
        e.Is errFlashbotsBroadcastBundle ∧ ∀ e', some e' ∈ results → e.Is e') ∧
    (results.all Option.isSome = false →
      b.sendAiOperation net fuel ctx = some (match net.wait txn with
        | some e => (ctx, some e)
        | none => (ctx.setData "txn_hash" (net.txnHash txn), none))) := by
  intro txn results
  have hsub := sendAiOperation_of_estimated b net hloop hbn hmbf htxn txn rfl results rfl
  have hfst := foldl_collectResult_fst results (true, none)
  have hsnd := foldl_collectResult_snd results (true, none)
  generalize results.foldl collectResult (true, none) = res at hsub hfst hsnd
  obtain ⟨shouldFail, errs⟩ := res
  simp only [Bool.true_and] at hfst hsnd
  subst hfst
  refine ⟨fun hall => ⟨_, by simpa [hall] using hsub, .wrap (by simp) (.refl _), ?_⟩,
    fun hsome => by simpa [hsome] using hsub⟩
  intro e' he'
  obtain ⟨x, hx, hxe⟩ := hsnd e' (.inl he')
  exact .wrap (by simp [flashbotsBroadcastBundleError, hx]) hxe

/-- One target block, two builders, one of which fails: the handler waits for inclusion and
records the transaction hash. -/
theorem sendAiOperation_broadcast_partial_failure :
    let net : Network :=
      { estimateHandleOpsGas := fun _ => ⟨60000, none, none⟩, blockNumber := .ok 1,
        handleOpsErr := fun _ => none,
        broadcastBundle := fun _ _ => [some (.text "builder unavailable"), none],
        wait := fun _ => none, txnHash := fun _ => "0x01" }
    let ctx := BatchHandlerCtx.new [⟨1, 0, [], [], 0, 0, 0, 0, 0, [], []⟩] 0 1 (some 1) none none
    estimateLoop net.estimateHandleOpsGas ctx.batch 1 ctx = some (.estimated ctx 60000) ∧
      BuilderClient.sendAiOperation ⟨1⟩ net 1 ctx = some (ctx.setData "txn_hash" "0x01", none) := by
  intro net ctx
  have hloop : estimateLoop net.estimateHandleOpsGas ctx.batch 1 ctx =
      some (.estimated ctx 60000) := rfl
  exact ⟨hloop, (sendAiOperation_broadcast ⟨1⟩ net hloop rfl rfl rfl).2 rfl⟩

/-! ### The stale batch of the estimate loop -/

/-- **A `FailedOp` at any index but `0` hangs the handler**: on a non-empty batch whose
estimate reverts at index `i + 1`, `SendAiOperation` does not return, whatever the fuel. -/
theorem sendAiOperation_revert_succ (b : BuilderClient) (net : Network) {ctx : BatchHandlerCtx}
    (hb : ctx.batch ≠ []) {i : ℕ} {reason : String}
    (herr : (net.estimateHandleOpsGas ctx.batch).err = none)
    (hrev : (net.estimateHandleOpsGas ctx.batch).revert = some ⟨i + 1, reason⟩) (fuel : ℕ) :
    b.sendAiOperation net fuel ctx = none := by
  simp [BuilderClient.sendAiOperation, estimateLoop_revert_succ herr hrev fuel ctx hb]

end AiopsBundler
