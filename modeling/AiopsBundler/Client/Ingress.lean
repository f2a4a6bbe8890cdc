import AiopsBundler.Entities.Reputation

/-!
# The Ingress Pipeline and the Pending-Op Limits

`eth_sendAiOperation` runs the client's handlers in the order `SearcherMode` installs them,
`CheckStatus`, `ValidateOpLimit`, `ValidateOpValues`, `SimulateOp` and `IncOpsSeen`, on a
context holding the op's pending ops by sender, by factory and by paymaster; the op enters the
mempool when every handler returns `nil`. Between requests the bundler removes submitted and
dropped ops, and entities' reputation counters and stakes change.

`CheckStatus` refuses a throttled entity when its pending ops number *exactly*
`ThrottledEntityMempoolCount`, and `ValidateOpLimit` an unstaked one when they number exactly
its role's limit. So a limit holds along a run only while the entity stays throttled (or
unstaked) from a state within it: an entity that becomes throttled with more pending ops than
the limit is admitted again.

## Conventions

* `Client.SendAiOperation` and the mempool are not part of the sources at hand; they are
  modelled from the spec (§4.2, §4.4): the mempool of one middleware is a list of ops.
* `ValidateOpValues` and `SimulateOp` are parameters of the client: any checks of the context.
* Requests run one at a time, so every transaction commits.

## Main results

* `pendingIn_run_le`: along a run in which every state refuses `E` at `L` pending ops, `E`'s
  pending ops stay within `L`.
* `admitted_below_throttled_limit`, `admitted_below_stake_limit`: an entity that stays
  throttled (unstaked) along a run, from a state within the limit, is admitted only below it.
* `sendAiOperation_admits_throttled_over_limit`: a sender that becomes throttled with five
  pending ops is admitted a sixth.
-/

namespace AiopsBundler

/-- Modelled from the spec: `Mempool.AddOp` for one middleware, inserting the op after the
pending ones, the pending op of the same sender and nonce replaced (§4.2). The spec's
replacement-fee rule is left out: by its own open question (c) the source does not enforce it. -/
def addOp (mempool : List AiOperation) (op : AiOperation) : List AiOperation :=
  mempool.filter (fun p => ¬(p.sender = op.sender ∧ p.nonce = op.nonce)) ++ [op]

/-- The number of pending ops of `mempool` naming `E` in role `ρ`: the length of what
`GetBySender`, `GetByFactory` or `GetByPaymaster` returns. -/
def pendingIn (ρ : Role) (mempool : List AiOperation) (E : Address) : ℕ :=
  (mempool.filter (fun p => ρ.entity p = E)).length

/-- A context read from the mempool holds, in each role, the pending ops naming the op's
entity in that role. -/
@[simp] theorem AiOpHandlerCtx.new_pendingOps_length (op : AiOperation) (mw : Address)
    (chainID : ℕ) (mempool : List AiOperation) (staked : Address → Bool) (ρ : Role) :
    ((AiOpHandlerCtx.new op mw chainID mempool staked).pendingOps ρ).length =
      pendingIn ρ mempool (ρ.entity op) := by
  cases ρ <;> rfl

@[simp] theorem AiOpHandlerCtx.new_isStaked (op : AiOperation) (mw : Address) (chainID : ℕ)
    (mempool : List AiOperation) (staked : Address → Bool) (ρ : Role) :
    (AiOpHandlerCtx.new op mw chainID mempool staked).isStaked ρ = staked (ρ.entity op) := by
  cases ρ <;> rfl

theorem pendingIn_le_of_sublist {l₁ l₂ : List AiOperation} (h : l₁.Sublist l₂) (ρ : Role)
    (E : Address) : pendingIn ρ l₁ E ≤ pendingIn ρ l₂ E :=
  (h.filter _).length_le

@[simp] theorem pendingIn_append (ρ : Role) (l₁ l₂ : List AiOperation) (E : Address) :
    pendingIn ρ (l₁ ++ l₂) E = pendingIn ρ l₁ E + pendingIn ρ l₂ E := by
  simp [pendingIn]

@[simp] theorem pendingIn_singleton (ρ : Role) (op : AiOperation) (E : Address) :
    pendingIn ρ [op] E = if ρ.entity op = E then 1 else 0 := by
  by_cases h : ρ.entity op = E <;> simp [pendingIn, h]

/-- Adding an op adds at most one pending op, and only to the entities it names. -/
theorem pendingIn_addOp_le (mempool : List AiOperation) (op : AiOperation) (ρ : Role)
    (E : Address) :
    pendingIn ρ (addOp mempool op) E ≤
      pendingIn ρ mempool E + if ρ.entity op = E then 1 else 0 := by
  rw [addOp, pendingIn_append, pendingIn_singleton]
  exact Nat.add_le_add_right (pendingIn_le_of_sublist (List.filter_sublist _) ρ E) _

/-! ### Requests and runs -/

/-- The state the ingress pipeline reads and writes: the pending ops of the mempool, the
reputation store, and each address's stake. -/
structure IngressState (σ : Type) where
  mempool : List AiOperation
  db : σ
  staked : Address → Bool

/-- What happens to the ingress state: a request, a removal of ops by the bundler, any
change of the reputation store (inclusions, decay, overrides), and a change of stake. -/
inductive IngressEvent (σ : Type) where
  | send (op : AiOperation)
  | remove (ops : List AiOperation)
  | setReputation (db : σ)
  | setStake (addr : Address) (staked : Bool)

/-- The client: its reputation module, its middleware and chain, and the checks of
`ValidateOpValues` and `SimulateOp`. -/
structure Client (σ : Type) where
  reputation : Reputation σ
  aiMiddleware : Address
  chainID : ℕ
  validateOpValues : AiOpHandlerCtx → Option GoError
  simulateOp : AiOpHandlerCtx → Option GoError

namespace Client

variable {σ : Type} (c : Client σ)

/-- Modelled from the spec: `Client.SendAiOperation`, the handlers run in order on the op's
context, the first error returned, and the op added to the mempool when all pass (§4.4). -/
def sendAiOperation (s : IngressState σ) (op : AiOperation) : IngressState σ × Option GoError :=
  let ctx := AiOpHandlerCtx.new op c.aiMiddleware c.chainID s.mempool s.staked
  match c.reputation.checkStatus none s.db ctx with
  | (db, some e) => ({ s with db := db }, some e)
  | (db, none) =>
    match c.reputation.validateOpLimit ctx <|> c.validateOpValues ctx <|> c.simulateOp ctx with
    | some e => ({ s with db := db }, some e)
    | none =>
      match c.reputation.incOpsSeen none db op with
      | (db, some e) => ({ s with db := db }, some e)
      | (db, none) => ({ s with db := db, mempool := addOp s.mempool op }, none)

/-- One event. -/
def step (s : IngressState σ) : IngressEvent σ → IngressState σ
  | .send op => (c.sendAiOperation s op).1
  | .remove ops => { s with mempool := s.mempool.filter (· ∉ ops) }
  | .setReputation db => { s with db := db }
  | .setStake addr staked => { s with staked := Function.update s.staked addr staked }

/-- A run of events. -/
def run (evs : List (IngressEvent σ)) (s : IngressState σ) : IngressState σ :=
  evs.foldl c.step s

/-- **What a request can do to the mempool**: it is refused and leaves the mempool as it was,
or both reputation checks passed and the op is added. -/
theorem sendAiOperation_cases (s : IngressState σ) (op : AiOperation) :
    let ctx := AiOpHandlerCtx.new op c.aiMiddleware c.chainID s.mempool s.staked
    ((c.sendAiOperation s op).1.mempool = s.mempool ∧ (c.sendAiOperation s op).2 ≠ none) ∨
      ((c.reputation.checkStatus none s.db ctx).2 = none ∧
        c.reputation.validateOpLimit ctx = none ∧
        (c.sendAiOperation s op).1.mempool = addOp s.mempool op ∧
        (c.sendAiOperation s op).2 = none) := by
  dsimp only [sendAiOperation]
  split
  · exact .inl ⟨rfl, by simp⟩
  · rename_i hcs
    split
    · exact .inl ⟨rfl, by simp⟩
    · rename_i hchecks
      split
      · exact .inl ⟨rfl, by simp⟩
      · exact .inr ⟨by rw [hcs], (Option.orElse_eq_none _ _).1 hchecks |>.1, rfl, rfl⟩

/-! ### Holding an entity at a limit -/

/-- In state `s`, `E` is **held at `L` pending ops in role `ρ`**: every op naming `E` in that
role sent while `E` has `L` pending ops there is refused. -/
def HeldAt (ρ : Role) (E : Address) (L : ℕ) (s : IngressState σ) : Prop :=
  ∀ op, ρ.entity op = E → pendingIn ρ s.mempool E = L → (c.sendAiOperation s op).2 ≠ none

/-- **A throttled entity is held at `ThrottledEntityMempoolCount`**, by `CheckStatus`. -/
theorem heldAt_of_throttled {ρ : Role} {E : Address} {s : IngressState σ} (hρ : ρ.Checks E)
    (hs : c.reputation.store.getStatus s.db E = .ok .throttled) :
    c.HeldAt ρ E c.reputation.repConst.throttledEntityMempoolCount s := by
  intro op hop hp hadm
  rcases c.sendAiOperation_cases s op with ⟨-, hne⟩ | ⟨hcs, -, -, -⟩
  · exact hne hadm
  · refine c.reputation.checkStatus_refuses_throttled none s.db hρ hop hs ?_ hcs
    rw [AiOpHandlerCtx.new_pendingOps_length, hop, hp]

/-- **An unstaked entity is held at its role's limit**, by `ValidateOpLimit`. -/
theorem heldAt_of_unstaked {ρ : Role} {E : Address} {s : IngressState σ} (hρ : ρ.Checks E)
    (hst : s.staked E = false) : c.HeldAt ρ E (c.reputation.repConst.opLimit ρ) s := by
  intro op hop hp hadm
  rcases c.sendAiOperation_cases s op with ⟨-, hne⟩ | ⟨-, hvol, -, -⟩
  · exact hne hadm
  · refine c.reputation.validateOpLimit_refuses_unstaked hρ hop ?_ ?_ hvol
    · rw [AiOpHandlerCtx.new_isStaked, hop, hst]
    · rw [AiOpHandlerCtx.new_pendingOps_length, hop, hp]

/-- **One event keeps a held entity within its limit.** -/
theorem pendingIn_step_le {ρ : Role} {E : Address} {L : ℕ} {s : IngressState σ}
    (hheld : c.HeldAt ρ E L s) (hle : pendingIn ρ s.mempool E ≤ L) (e : IngressEvent σ) :
    pendingIn ρ (c.step s e).mempool E ≤ L := by
  cases e with
  | send op =>
    rcases c.sendAiOperation_cases s op with ⟨hm, -⟩ | ⟨-, -, hm, hadm⟩
    · rwa [step, hm]
    · have hadd := pendingIn_addOp_le s.mempool op ρ E
      rw [step, hm]
      split_ifs at hadd with hop
      · have hne : pendingIn ρ s.mempool E ≠ L := fun heq => hheld op hop heq hadm
        omega
      · omega
  | remove ops => exact (pendingIn_le_of_sublist (List.filter_sublist _) ρ E).trans hle
  | setReputation db => exact hle
  | setStake addr staked => exact hle

/-- **A run keeps a held entity within its limit**: from a state where `E` has at most `L`
pending ops in role `ρ`, along a run every state of which holds `E` at `L`. -/
theorem pendingIn_run_le {ρ : Role} {E : Address} {L : ℕ} :
    ∀ (evs : List (IngressEvent σ)) (s : IngressState σ), pendingIn ρ s.mempool E ≤ L →
      (∀ k < evs.length, c.HeldAt ρ E L (c.run (evs.take k) s)) →
      pendingIn ρ (c.run evs s).mempool E ≤ L
  | [], _, hle, _ => hle
  | e :: evs, s, hle, hheld =>
    pendingIn_run_le evs (c.step s e) (c.pendingIn_step_le (hheld 0 (by simp)) hle e)
      fun k hk => hheld (k + 1) (by simpa using hk)

/-- An op naming `E` admitted after such a run found fewer than `L` pending ops. -/
theorem sendAiOperation_admitted_below {ρ : Role} {E : Address} {L : ℕ}
    (evs : List (IngressEvent σ)) (s₀ : IngressState σ) (op : AiOperation)
    (h0 : pendingIn ρ s₀.mempool E ≤ L)
    (hheld : ∀ k ≤ evs.length, c.HeldAt ρ E L (c.run (evs.take k) s₀))
    (hop : ρ.entity op = E) (hadm : (c.sendAiOperation (c.run evs s₀) op).2 = none) :
    pendingIn ρ (c.run evs s₀).mempool E < L := by
  have hle := c.pendingIn_run_le evs s₀ h0 fun k hk => hheld k hk.le
  have hlast := hheld evs.length le_rfl
  rw [List.take_length] at hlast
  have hne : pendingIn ρ (c.run evs s₀).mempool E ≠ L := fun heq => hlast op hop heq hadm
  omega

/-- **While an entity stays throttled, it is admitted only below the throttled limit**: along
a run in every state of which `E` is throttled, from a state where it has at most
`ThrottledEntityMempoolCount` pending ops in a role the handlers check, an op naming it there
is admitted only when it has fewer. -/
theorem admitted_below_throttled_limit (evs : List (IngressEvent σ)) (s₀ : IngressState σ)
    (op : AiOperation) {ρ : Role} {E : Address} (hρ : ρ.Checks E)
    (h0 : pendingIn ρ s₀.mempool E ≤ c.reputation.repConst.throttledEntityMempoolCount)
    (hthr : ∀ k ≤ evs.length,
      c.reputation.store.getStatus (c.run (evs.take k) s₀).db E = .ok .throttled)
    (hop : ρ.entity op = E) (hadm : (c.sendAiOperation (c.run evs s₀) op).2 = none) :
    pendingIn ρ (c.run evs s₀).mempool E < c.reputation.repConst.throttledEntityMempoolCount :=
  c.sendAiOperation_admitted_below evs s₀ op h0
    (fun k hk => c.heldAt_of_throttled hρ (hthr k hk)) hop hadm

/-- **While an entity stays unstaked, it is admitted only below its role's limit**: along a
run in every state of which `E` is unstaked, from a state where it has at most its role's
limit of pending ops, an op naming it there is admitted only when it has fewer. -/
theorem admitted_below_stake_limit (evs : List (IngressEvent σ)) (s₀ : IngressState σ)
    (op : AiOperation) {ρ : Role} {E : Address} (hρ : ρ.Checks E)
    (h0 : pendingIn ρ s₀.mempool E ≤ c.reputation.repConst.opLimit ρ)
    (hst : ∀ k ≤ evs.length, (c.run (evs.take k) s₀).staked E = false)
    (hop : ρ.entity op = E) (hadm : (c.sendAiOperation (c.run evs s₀) op).2 = none) :
    pendingIn ρ (c.run evs s₀).mempool E < c.reputation.repConst.opLimit ρ :=
  c.sendAiOperation_admitted_below evs s₀ op h0
    (fun k hk => c.heldAt_of_unstaked hρ (hst k hk)) hop hadm

end Client

/-! ### Throttled after the fact -/

/-- **A sender throttled over the limit is admitted again**: a staked sender sends five ops
while its status is `ok`; its status then becomes `throttled`, with five pending ops against a
`ThrottledEntityMempoolCount` of four, and its sixth op is admitted, because `CheckStatus`
refuses only at exactly four. -/
theorem sendAiOperation_admits_throttled_over_limit :
    let store : EntityStore (Address → Status) :=
      { getStatus := fun db a => .ok (db a)
        incrementOpsSeenByEntity := fun db _ => (db, none)
        incrementOpsIncludedByEntity := fun db _ => (db, none)
        overrideEntity := fun db _ => (db, none) }
    let c : Client (Address → Status) :=
      ⟨⟨store, ⟨10, 11, 4⟩⟩, 0, 1, fun _ => none, fun _ => none⟩
    let op : ℕ → AiOperation := fun n => ⟨1, n, [], [], 0, 0, 0, 0, 0, [], []⟩
    let s := c.run ((List.range 5).map (fun n => .send (op n)) ++
      [.setReputation fun _ => .throttled]) ⟨[], fun _ => .ok, fun _ => true⟩
    s.db 1 = .throttled ∧ pendingIn .sender s.mempool 1 = 5 ∧
      (c.sendAiOperation s (op 5)).2 = none ∧ op 5 ∈ (c.sendAiOperation s (op 5)).1.mempool :=
  ⟨rfl, by decide, rfl, by decide⟩

end AiopsBundler
