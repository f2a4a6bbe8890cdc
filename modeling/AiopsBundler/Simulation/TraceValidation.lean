import AiopsBundler.Entities.Reputation
import AiopsBundler.Simulation.StorageSlots

/-!
# Trace Validation of the Known Entities

`TraceSimulateValidation` (`pkg/aimiddleware/simulation/tracevalidation.go`) traces
`simulateValidation(op)` with the bundler's collector and checks the report. `newKnownEntity`
first sorts the top-level frames the middleware called into the three known entities, the
account, the factory and the paymaster, by a `switch` on each frame's target: a frame
targeting the sender is the account's, one targeting the paymaster the paymaster's, and one
calling `createSender` the factory's. Each entity keeps one frame, so a later frame of a role
replaces an earlier one, and when the paymaster is the sender both of its frames are the
account's. The checks then run on each entity's frame: no out-of-gas, no `EXTCODE*` access to
the middleware, no banned opcode; then the `CREATE2` counts, the storage rules of `Process`
and the call-stack rules.

## Conventions

* The tracer's report is the input: the RPC and the transaction it traces are a value
  `Except GoError BundlerCollectorReturn`. `newCallStack`, the method selectors, the opcode
  sets other than `bannedOpCodes`, `Keccak256`, the ABI decoder of
  `validatePaymasterAiOp`'s output and the op hash are not part of the sources at hand: they
  are the fields of `TraceEnv`.
* A Go map is a list in the order of its iteration; the two loops over `knownEntity` meet
  the roles in the orders `order₁` and `order₂`.

## Main results

* `newKnownEntity_info_of_last`: an entity's frame is the last frame of its role.
* `traceSimulateValidation_checks_last_frames`: a last frame of a role that is out of gas,
  probes the middleware's code or uses a banned opcode makes the validation fail.
* `traceSimulateValidation_misses_account_frame`: with the sender as its own paymaster, both
  frames are the account's, the account's frame using `TIMESTAMP` is replaced by the
  paymaster's, and validation succeeds.
-/

namespace AiopsBundler

/-! ### The tracer's report -/

/-- A `CallFromAiMiddlewareInfo` of the tracer: one top-level frame the middleware called. -/
structure CallFromAiMiddlewareInfo where
  topLevelMethodSig : String
  topLevelTargetAddress : Address
  opcodes : List (String × ℕ)
  access : List (Address × AccessInfo)
  contractSize : List (Address × ContractSizeInfo)
  extCodeAccessInfo : List (Address × String)
  oog : Bool
  deriving DecidableEq, Repr

/-- The empty frame, `tracer.CallFromAiMiddlewareInfo{}`. -/
def CallFromAiMiddlewareInfo.empty : CallFromAiMiddlewareInfo :=
  ⟨"", 0, [], [], [], [], false⟩

/-- An entry of the call stack `newCallStack` builds from the tracer's calls; `To`, `From` and
`Return`, keywords of Lean, are `target`, `caller` and `output`. -/
structure CallEntry where
  target : Address
  caller : Address
  method : String
  output : List UInt8
  value : ℕ
  deriving DecidableEq, Repr

/-- The tracer's report, `BundlerCollectorReturn`, with the call stack built from its calls. -/
structure BundlerCollectorReturn where
  callsFromAiMiddleware : List CallFromAiMiddlewareInfo
  keccak : List String
  callStack : List CallEntry
  deriving DecidableEq, Repr

/-- Modelled from the spec: `bannedOpCodes`, the opcodes no entity may use (§4.4). -/
def bannedOpCodes : List String :=
  ["GASPRICE", "GASLIMIT", "DIFFICULTY", "TIMESTAMP", "BASEFEE", "BLOCKHASH", "NUMBER",
    "SELFBALANCE", "BALANCE", "ORIGIN", "GAS", "CREATE", "COINBASE", "SELFDESTRUCT"]

/-- Modelled from the spec: `create2OpCode` (§4.4). -/
def create2OpCode : String := "CREATE2"

/-- What trace validation takes from code that is not part of the sources at hand; the
decoder of `validatePaymasterAiOp`'s output gives the paymaster's context, or the text of its
error. -/
structure TraceEnv where
  createSenderSelector : String
  validatePaymasterAiOpSelector : String
  balanceOfSelector : String
  bannedUnstakedOpCodes : List String
  rip7212precompile : Address
  keccak256 : List UInt8 → List UInt8
  decodeValidatePaymasterAiOpOutput : List UInt8 → Except String (List UInt8)
  getAiOpHash : AiOperation → Address → ℕ → String

/-- `TraceInput`, without the RPC client: `stakes` lists each address of `EntityStakes` with
its `Staked` flag, `none` for a `nil` entry. -/
structure TraceInput where
  aiMiddleware : Address
  op : AiOperation
  chainID : ℕ
  isRIP7212Supported : Bool
  stakes : List (Address × Option Bool)
  altMempools : String → String → String → List String

/-- `stakes[addr] != nil && stakes[addr].Staked`. -/
def TraceInput.isStaked (input : TraceInput) (addr : Address) : Bool :=
  (input.stakes.lookup addr).join.getD false

/-- `TraceOutput`. -/
structure TraceOutput where
  touchedContracts : List Address
  altMempoolIds : List String
  deriving DecidableEq, Repr

/-! ### Known entities -/

/-- The map key of a known entity. -/
def Role.title : Role → String
  | .sender => "account"
  | .factory => "factory"
  | .paymaster => "paymaster"

/-- The `switch` of `newKnownEntity` on one frame: its target is the sender, else the
paymaster, else the frame calls `createSender`. -/
def classifyFrame (env : TraceEnv) (op : AiOperation) (c : CallFromAiMiddlewareInfo) :
    Option Role :=
  if c.topLevelTargetAddress = op.sender then some .sender
  else if c.topLevelTargetAddress = op.getPaymaster then some .paymaster
  else if c.topLevelMethodSig = env.createSenderSelector then some .factory
  else none

/-- A known entity: its address, its frame, and whether it is staked. -/
structure KnownEntity where
  address : Address
  info : CallFromAiMiddlewareInfo
  isStaked : Bool

/-- One turn of the loop of `newKnownEntity`: the frame replaces the one of its role. -/
def assignFrame (env : TraceEnv) (op : AiOperation) (infos : Role → CallFromAiMiddlewareInfo)
    (c : CallFromAiMiddlewareInfo) : Role → CallFromAiMiddlewareInfo :=
  match classifyFrame env op c with
  | some ρ => Function.update infos ρ c
  | none => infos

/-- `newKnownEntity`: the account, the factory and the paymaster, each with the frame the loop
left for its role. -/
def newKnownEntity (env : TraceEnv) (input : TraceInput) (res : BundlerCollectorReturn) :
    Role → KnownEntity :=
  let infos := res.callsFromAiMiddleware.foldl (assignFrame env input.op)
    fun _ => CallFromAiMiddlewareInfo.empty
  fun ρ => ⟨ρ.entity input.op, infos ρ, input.isStaked (ρ.entity input.op)⟩

/-! ### The checks -/

/-- The opcode check of one entity: a banned opcode, or one banned to unstaked entities. -/
def opcodeCheck (env : TraceEnv) (title : String) (isStaked : Bool) (opcode : String) :
    Option GoError :=
  if opcode ∈ bannedOpCodes then some (.text (title ++ " uses banned opcode: " ++ opcode))
  else if !isStaked ∧ opcode ∈ env.bannedUnstakedOpCodes then
    some (.text ("unstaked " ++ title ++ " uses banned opcode: " ++ opcode))
  else none

/-- The checks of one entity's frame: out of gas, `EXTCODE*` on the middleware, opcodes. -/
def entityCheck (env : TraceEnv) (input : TraceInput) (ρ : Role) (entity : KnownEntity) :
    Option GoError :=
  if entity.info.oog then some (.text (ρ.title ++ " OOG"))
  else if (entity.info.extCodeAccessInfo.lookup input.aiMiddleware).isSome then
    some (.text (ρ.title ++ " has forbidden EXTCODE* access to the AiMiddleware"))
  else entity.info.opcodes.findSome? fun (opcode, _) =>
    opcodeCheck env ρ.title entity.isStaked opcode

/-- One turn of the first loop over the known entities: the checks, then the entity's address
and the addresses it probed join the touched contracts. -/
def entityStep (env : TraceEnv) (input : TraceInput) (known : Role → KnownEntity)
    (ic : List Address) (ρ : Role) : Except GoError (List Address) :=
  match entityCheck env input ρ (known ρ) with
  | some e => .error e
  | none => .ok (((known ρ).info.contractSize.map Prod.fst).foldl (fun ic a => ic.insert a)
      (ic.insert (known ρ).address))

/-- The `CREATE2` checks: the factory at most once and only with an `initCode`, the account
and the paymaster never. -/
def create2Check (input : TraceInput) (known : Role → KnownEntity) : Option GoError :=
  let factoryCheck : Option GoError :=
    match (known .factory).info.opcodes.lookup create2OpCode with
    | some n =>
      if 1 < n ∨ input.op.initCode.length = 0 then
        some (.text ("factory with too many " ++ create2OpCode))
      else none
    | none => none
  factoryCheck <|>
    ((known .sender).info.opcodes.lookup create2OpCode).map (fun _ =>
      GoError.text ("account uses banned opcode: " ++ create2OpCode)) <|>
    ((known .paymaster).info.opcodes.lookup create2OpCode).map fun _ =>
      GoError.text ("paymaster uses banned opcode: " ++ create2OpCode)

/-- The orders in which one run iterates its maps: the two loops over `knownEntity`, and the
loop over `{read, write}` of `Process` for each entity and address. -/
structure MapOrders where
  checks : List Role
  storage : List Role
  modes : Role → Address → Bool

/-- One turn of the second loop over the known entities: `Process` on the entity's accesses. -/
def storageStep (env : TraceEnv) (input : TraceInput) (known : Role → KnownEntity)
    (slots : Address → List String) (modes : Role → Address → Bool) (ids : List String)
    (ρ : Role) : Except GoError (List String) :=
  let v : StorageSlotsValidator :=
    { op := input.op, aiMiddleware := input.aiMiddleware,
      isRIP7212Supported := input.isRIP7212Supported, altMempools := input.altMempools,
      senderSlots := slots input.op.sender, factoryIsStaked := (known .factory).isStaked,
      entityName := ρ.title, entityAddr := (known ρ).address,
      entityAccessMap := (known ρ).info.access,
      entityContractSizeMap := (known ρ).info.contractSize,
      entitySlots := slots (known ρ).address, entityIsStaked := (known ρ).isStaked }
  match v.process env.rip7212precompile (modes ρ) with
  | (_, some e) => .error e
  | (newIds, none) => .ok (ids ++ newIds)

/-- The checks of one entry of the call stack: the paymaster's context, `balanceOf` on the
middleware, and value transfers. -/
def callCheck (env : TraceEnv) (input : TraceInput) (known : Role → KnownEntity)
    (call : CallEntry) : Option GoError :=
  if call.method = env.validatePaymasterAiOpSelector then
    match env.decodeValidatePaymasterAiOpOutput call.output with
    | .error err =>
      some (.text ("unexpected tracing result for op: " ++
        env.getAiOpHash input.op input.aiMiddleware input.chainID ++ ", " ++ err))
    | .ok context =>
      if context.length ≠ 0 ∧ (known .paymaster).isStaked = false then
        some (.text "unstaked paymaster must not return context")
      else none
  else if call.target = input.aiMiddleware ∧ call.method = env.balanceOfSelector then
    some (.text (addr2KnownEntity input.op call.caller ++ " cannot call balanceOf on AiMiddleware"))
  else if call.target ≠ input.aiMiddleware ∧ 0 < call.value then
    some (.text (addr2KnownEntity input.op call.caller ++ " has a forbidden value transfer to " ++
      addr2KnownEntity input.op call.target))
  else none

/-- `TraceSimulateValidation`, from the result of the traced call. -/
def traceSimulateValidation (env : TraceEnv) (input : TraceInput) (orders : MapOrders)
    (rpc : Except GoError BundlerCollectorReturn) : Except GoError TraceOutput := do
  let res ← rpc
  let known := newKnownEntity env input res
  let ic ← orders.checks.foldlM (entityStep env input known) []
  match create2Check input known with
  | some e => .error e
  | none =>
    let slots := newStorageSlotsByEntity env.keccak256 (input.stakes.map Prod.fst) res.keccak
    let ids ← orders.storage.foldlM (storageStep env input known slots orders.modes) []
    match res.callStack.findSome? (callCheck env input known) with
    | some e => .error e
    | none => .ok ⟨ic, ids⟩

/-! ### Which frame an entity keeps -/

/-- The frame the loop of `newKnownEntity` leaves for role `ρ`, starting from `d`: the last
frame of that role. -/
def lastFrameOf (env : TraceEnv) (op : AiOperation) (ρ : Role)
    (calls : List CallFromAiMiddlewareInfo) (d : CallFromAiMiddlewareInfo) :
    CallFromAiMiddlewareInfo :=
  calls.foldl (fun acc c => if classifyFrame env op c = some ρ then c else acc) d

theorem assignFrame_apply (env : TraceEnv) (op : AiOperation)
    (infos : Role → CallFromAiMiddlewareInfo) (c : CallFromAiMiddlewareInfo) (ρ : Role) :
    assignFrame env op infos c ρ = if classifyFrame env op c = some ρ then c else infos ρ := by
  unfold assignFrame
  cases classifyFrame env op c with
  | none => simp
  | some ρ' => by_cases h : ρ = ρ' <;> simp [Function.update_apply, h, eq_comm]

/-- The loop of `newKnownEntity`, read at one role, keeps the last frame of that role. -/
theorem foldl_assignFrame (env : TraceEnv) (op : AiOperation) (ρ : Role) :
    ∀ (calls : List CallFromAiMiddlewareInfo) (infos : Role → CallFromAiMiddlewareInfo),
      (calls.foldl (assignFrame env op) infos) ρ = lastFrameOf env op ρ calls (infos ρ)
  | [], _ => rfl
  | c :: calls, infos => by
    rw [List.foldl_cons, foldl_assignFrame env op ρ calls, assignFrame_apply]
    rfl

/-- Frames of other roles leave the frame kept so far. -/
theorem lastFrameOf_of_forall_ne (env : TraceEnv) (op : AiOperation) (ρ : Role) :
    ∀ (calls : List CallFromAiMiddlewareInfo) (d : CallFromAiMiddlewareInfo),
      (∀ g ∈ calls, classifyFrame env op g ≠ some ρ) → lastFrameOf env op ρ calls d = d
  | [], _, _ => rfl
  | c :: calls, d, h => by
    rw [lastFrameOf, List.foldl_cons, if_neg (h c (List.mem_cons_self _ _))]
    exact lastFrameOf_of_forall_ne env op ρ calls d fun g hg => h g (List.mem_cons_of_mem _ hg)

/-- **An entity keeps the last frame of its role**: the frame `newKnownEntity` gives role `ρ`
is `f` when `f` is of role `ρ` and no later frame is. -/
theorem newKnownEntity_info_of_last (env : TraceEnv) (input : TraceInput)
    (res : BundlerCollectorReturn) {pre post : List CallFromAiMiddlewareInfo}
    {f : CallFromAiMiddlewareInfo} {ρ : Role}
    (hcalls : res.callsFromAiMiddleware = pre ++ f :: post)
    (hrole : classifyFrame env input.op f = some ρ)
    (hlast : ∀ g ∈ post, classifyFrame env input.op g ≠ some ρ) :
    (newKnownEntity env input res ρ).info = f := by
  show (res.callsFromAiMiddleware.foldl (assignFrame env input.op) _) ρ = f
  rw [foldl_assignFrame, hcalls, lastFrameOf, List.foldl_append, List.foldl_cons, if_pos hrole]
  exact lastFrameOf_of_forall_ne env input.op ρ post f hlast

/-! ### The checks of an entity's frame -/

/-- A frame that is out of gas, probes the middleware's code or uses a banned opcode fails the
checks of the entity that keeps it. -/
theorem entityCheck_ne_none (env : TraceEnv) (input : TraceInput) (ρ : Role)
    {entity : KnownEntity}
    (hbad : entity.info.oog = true ∨
      input.aiMiddleware ∈ entity.info.extCodeAccessInfo.map Prod.fst ∨
      ∃ opc ∈ entity.info.opcodes, opc.1 ∈ bannedOpCodes) :
    entityCheck env input ρ entity ≠ none := by
  unfold entityCheck
  split_ifs with hoog hext
  · simp
  · simp
  · rcases hbad with h | h | ⟨⟨opcode, n⟩, hmem, hban⟩
    · exact absurd h hoog
    · obtain ⟨p, hp, hp1⟩ := List.mem_map.1 h
      exact absurd (List.lookup_isSome_iff.2 ⟨p, hp, by simp [hp1]⟩) hext
    · rw [Ne, List.findSome?_eq_none_iff]
      intro hall
      simpa [opcodeCheck, hban] using hall _ hmem

/-- A turn of the first loop over the entities fails exactly when the entity's checks do. -/
theorem entityStep_ok_iff (env : TraceEnv) (input : TraceInput) (known : Role → KnownEntity)
    (ic : List Address) (ρ : Role) :
    (∃ ic', entityStep env input known ic ρ = .ok ic') ↔
      entityCheck env input ρ (known ρ) = none := by
  unfold entityStep
  cases entityCheck env input ρ (known ρ) <;> simp

/-- **The checks run on the last frame of each role, and only on it.** If the last top-level
frame of a role the first loop visits is out of gas, probes the middleware's code or uses a
banned opcode, `TraceSimulateValidation` fails; and two reports with the same last frame of
each role, the same keccak pre-images and the same call stack give the same result, whatever
their earlier frames. -/
theorem traceSimulateValidation_checks_last_frames (env : TraceEnv) (input : TraceInput)
    (orders : MapOrders) (res : BundlerCollectorReturn) {pre post : List CallFromAiMiddlewareInfo}
    {f : CallFromAiMiddlewareInfo} {ρ : Role} (horder : ρ ∈ orders.checks)
    (hcalls : res.callsFromAiMiddleware = pre ++ f :: post)
    (hrole : classifyFrame env input.op f = some ρ)
    (hlast : ∀ g ∈ post, classifyFrame env input.op g ≠ some ρ)
    (hbad : f.oog = true ∨ input.aiMiddleware ∈ f.extCodeAccessInfo.map Prod.fst ∨
      ∃ opc ∈ f.opcodes, opc.1 ∈ bannedOpCodes) :
    (∃ e, traceSimulateValidation env input orders (.ok res) = .error e) ∧
    ∀ res' : BundlerCollectorReturn, res'.keccak = res.keccak → res'.callStack = res.callStack →
      (∀ ρ', lastFrameOf env input.op ρ' res'.callsFromAiMiddleware .empty =
        lastFrameOf env input.op ρ' res.callsFromAiMiddleware .empty) →
      traceSimulateValidation env input orders (.ok res') =
        traceSimulateValidation env input orders (.ok res) := by
  constructor
  · have hinfo := newKnownEntity_info_of_last env input res hcalls hrole hlast
    have hcheck := @entityCheck_ne_none env input ρ (newKnownEntity env input res ρ)
      (by rwa [hinfo])
    have hok := foldlM_ok_iff (entityStep env input (newKnownEntity env input res))
      (fun ρ => entityCheck env input ρ (newKnownEntity env input res ρ) = none) orders.checks
      (fun ρ _ ic => entityStep_ok_iff env input _ ic ρ) []
    rcases hloop : orders.checks.foldlM (entityStep env input (newKnownEntity env input res)) []
      with e | ic
    · exact ⟨e, by simp only [traceSimulateValidation, bind, Except.bind, hloop]⟩
    · exact absurd ((hok.1 ⟨ic, hloop⟩) ρ horder) hcheck
  · intro res' hkeccak hstack hframes
    have hknown : newKnownEntity env input res' = newKnownEntity env input res := by
      funext ρ'
      simp only [newKnownEntity, foldl_assignFrame, hframes ρ']
    simp only [traceSimulateValidation, bind, Except.bind, hknown, hkeccak, hstack]

/-! ### The sender as its own paymaster -/

/-- **An account frame replaced by the paymaster's**: the op's `paymasterAndData` names its
sender (address `1`), so the middleware's two top-level frames, the account's validation,
which uses `TIMESTAMP`, and then the paymaster's, both target the sender and both are sorted
to the account. The paymaster's frame replaces the account's, no check sees `TIMESTAMP`, and
validation succeeds. -/
theorem traceSimulateValidation_misses_account_frame :
    let env : TraceEnv :=
      ⟨"0x01", "0x02", "0x03", [], 0x100, fun _ => [], fun _ => .ok [], fun _ _ _ => ""⟩
    let op : AiOperation := ⟨1, 0, [], [], 0, 0, 0, 0, 0, List.replicate 19 0 ++ [1], []⟩
    let input : TraceInput := ⟨3, op, 1, false, [(1, some true)], fun _ _ _ => []⟩
    let accountFrame : CallFromAiMiddlewareInfo :=
      ⟨"0x0a", 1, [("TIMESTAMP", 1)], [], [], [], false⟩
    let paymasterFrame : CallFromAiMiddlewareInfo := ⟨"0x0b", 1, [], [], [], [], false⟩
    let orders : MapOrders :=
      ⟨[.sender, .factory, .paymaster], [.sender, .factory, .paymaster], fun _ _ => true⟩
    op.getPaymaster = op.sender ∧ "TIMESTAMP" ∈ bannedOpCodes ∧
      classifyFrame env op accountFrame = some .sender ∧
      classifyFrame env op paymasterFrame = some .sender ∧
      ∃ out, traceSimulateValidation env input orders
        (.ok ⟨[accountFrame, paymasterFrame], [], []⟩) = .ok out :=
  ⟨by decide, by decide, rfl, rfl, _, rfl⟩

end AiopsBundler
