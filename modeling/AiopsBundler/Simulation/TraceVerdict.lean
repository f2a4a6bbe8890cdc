import AiopsBundler.Simulation.TraceValidation

/-!
# What Trace Validation Decides, in Any Order of Its Maps

`TraceSimulateValidation` (`pkg/aimiddleware/simulation/tracevalidation.go`) loops twice over
the map `knownEntity`, first for the checks of each entity's frame and then for `Process`,
and `Process` loops over the maps of each entity's frame. Go iterates maps in no fixed order,
and every loop returns at the first failure it meets, so two runs on one report may fail at
different checks with different errors. This module shows that they agree on all else: the
report passes exactly when it meets conditions on the report alone, and the touched contracts
and the alt-mempool ids of a run that passes hold the same members whatever the order.

## Conventions

* `knownEntity` always holds the account, the factory and the paymaster (`newKnownEntity`
  builds the map with the three keys, the zero address standing for an entity the op does
  not name), so each of the two loops meets every role: `MapOrders.MeetsAll`.
* A set (`mapset.Set`, or the slice of alt-mempool ids) is a list read by its members.
* The tracer writes each slot of the access map as a non-empty hexadecimal string. With an
  empty slot, `mustStakeSlot` could not tell a slot that needs a stake from none, and the
  verdict could depend on the order of the slots.

## Main results

* `traceSimulateValidation_eq_ok`: a run passes when its two loops, the `CREATE2` checks
  and the call-stack checks all pass, and returns what the two loops collected.
* `traceSimulateValidation_ok_iff`: in whatever order the maps are iterated, validation
  passes exactly when the report is `Accepts`: every entity passes the checks of its frame,
  the `CREATE2` counts pass, every contract-size probe and every access is permitted, and no
  call of the stack fails.
* `traceSimulateValidation_output_mem`: a run that passes returns as touched contracts the
  three entities' addresses and the addresses their frames probed, and as alt-mempool ids
  those of the excepted accesses outside the sender and the middleware.
-/

namespace AiopsBundler

/-! ### The orders of a run -/

/-- The roles of the known entities, the keys of `knownEntity`. -/
def Role.all : List Role := [.sender, .factory, .paymaster]

theorem Role.mem_all (ρ : Role) : ρ ∈ Role.all := by cases ρ <;> decide

/-- The two loops over `knownEntity` **meet every known entity**, as Go's loops over a map
do. -/
def MapOrders.MeetsAll (orders : MapOrders) : Prop :=
  Role.all ⊆ orders.checks ∧ Role.all ⊆ orders.storage

instance : DecidablePred MapOrders.MeetsAll := fun _ => inferInstanceAs (Decidable (_ ∧ _))

theorem MapOrders.MeetsAll.mem_checks {orders : MapOrders} (h : orders.MeetsAll) (ρ : Role) :
    ρ ∈ orders.checks :=
  h.1 (Role.mem_all ρ)

theorem MapOrders.MeetsAll.mem_storage {orders : MapOrders} (h : orders.MeetsAll) (ρ : Role) :
    ρ ∈ orders.storage :=
  h.2 (Role.mem_all ρ)

/-- `slotsByEntity`, the slots associated with each address of the stakes. -/
def slotsByEntity (env : TraceEnv) (input : TraceInput) (res : BundlerCollectorReturn) :
    Address → List String :=
  newStorageSlotsByEntity env.keccak256 (input.stakes.map Prod.fst) res.keccak

/-- The `storageSlotsValidator` the second loop over the known entities builds for role
`ρ`. -/
def entityValidator (input : TraceInput) (known : Role → KnownEntity)
    (slots : Address → List String) (ρ : Role) : StorageSlotsValidator :=
  { op := input.op, aiMiddleware := input.aiMiddleware,
    isRIP7212Supported := input.isRIP7212Supported, altMempools := input.altMempools,
    senderSlots := slots input.op.sender, factoryIsStaked := (known .factory).isStaked,
    entityName := ρ.title, entityAddr := (known ρ).address,
    entityAccessMap := (known ρ).info.access, entityContractSizeMap := (known ρ).info.contractSize,
    entitySlots := slots (known ρ).address, entityIsStaked := (known ρ).isStaked }

/-! ### One turn of each loop -/

section Steps

variable (env : TraceEnv) (input : TraceInput) (known : Role → KnownEntity)
  (slots : Address → List String) (modes : Role → Address → Bool)

theorem storageStep_eq (ids : List String) (ρ : Role) :
    storageStep env input known slots modes ids ρ =
      match (entityValidator input known slots ρ).process env.rip7212precompile (modes ρ) with
      | (_, some e) => .error e
      | (newIds, none) => .ok (ids ++ newIds) :=
  rfl

/-- A turn of the second loop fails exactly when `Process` does. -/
theorem storageStep_ok_iff (ids : List String) (ρ : Role) :
    (∃ r, storageStep env input known slots modes ids ρ = .ok r) ↔
      ((entityValidator input known slots ρ).process env.rip7212precompile (modes ρ)).2 =
        none := by
  rw [storageStep_eq]
  rcases (entityValidator input known slots ρ).process env.rip7212precompile (modes ρ) with
    ⟨newIds, _ | e⟩ <;> simp

variable {env input known slots modes}

/-- A turn of the second loop adds the ids `Process` returns. -/
theorem mem_storageStep {ids r : List String} {ρ : Role}
    (h : storageStep env input known slots modes ids ρ = .ok r) (x : String) :
    x ∈ r ↔ x ∈ ids ∨
      x ∈ ((entityValidator input known slots ρ).process env.rip7212precompile (modes ρ)).1 := by
  rw [storageStep_eq] at h
  rcases hp : (entityValidator input known slots ρ).process env.rip7212precompile (modes ρ) with
    ⟨newIds, _ | e⟩ <;> rw [hp] at h <;> cases h
  simp

/-- Inserting the members of `l` one by one adds exactly those members. -/
theorem mem_foldl_insert {α : Type} [DecidableEq α] (x : α) :
    ∀ (l acc : List α), x ∈ l.foldl (fun acc a => acc.insert a) acc ↔ x ∈ acc ∨ x ∈ l
  | [], acc => by simp
  | a :: l, acc => by
    rw [List.foldl_cons, mem_foldl_insert x l, List.mem_insert_iff, List.mem_cons,
      or_comm (a := x = a), or_assoc]

/-- A turn of the first loop adds the entity's address and the addresses its frame probed. -/
theorem mem_entityStep {ic r : List Address} {ρ : Role}
    (h : entityStep env input known ic ρ = .ok r) (a : Address) :
    a ∈ r ↔ a ∈ ic ∨ (a = (known ρ).address ∨ ∃ c ∈ (known ρ).info.contractSize, c.1 = a) := by
  unfold entityStep at h
  split at h
  · cases h
  · cases h
    rw [mem_foldl_insert, List.mem_insert_iff, List.mem_map, or_comm (a := a = _), or_assoc]

end Steps

/-! ### A whole run -/

section Run

variable (env : TraceEnv) (input : TraceInput) (res : BundlerCollectorReturn)

/-- **What a run that passes is made of**: the first loop, the `CREATE2` checks, the second
loop and the checks of the call stack all pass, and the output is what the two loops
collected. -/
theorem traceSimulateValidation_eq_ok {orders : MapOrders} {out : TraceOutput} :
    traceSimulateValidation env input orders (.ok res) = .ok out ↔
      ∃ ic ids,
        orders.checks.foldlM (entityStep env input (newKnownEntity env input res)) [] = .ok ic ∧
        create2Check input (newKnownEntity env input res) = none ∧
        orders.storage.foldlM (storageStep env input (newKnownEntity env input res)
          (slotsByEntity env input res) orders.modes) [] = .ok ids ∧
        res.callStack.findSome? (callCheck env input (newKnownEntity env input res)) = none ∧
        out = ⟨ic, ids⟩ := by
  simp only [traceSimulateValidation, bind, Except.bind, slotsByEntity]
  rcases orders.checks.foldlM (entityStep env input (newKnownEntity env input res)) [] with
    _ | ic <;> simp only [reduceCtorEq, Except.ok.injEq, exists_eq_left', false_and, exists_false,
      exists_and_left, iff_false]
  rcases create2Check input (newKnownEntity env input res) with _ | e <;>
    simp only [reduceCtorEq, true_and, false_and, exists_false, iff_false]
  rcases orders.storage.foldlM (storageStep env input (newKnownEntity env input res)
    (newStorageSlotsByEntity env.keccak256 (input.stakes.map Prod.fst) res.keccak) orders.modes) []
    with _ | ids <;> simp only [reduceCtorEq, Except.ok.injEq, exists_eq_left', false_and,
      exists_false, exists_and_left, iff_false]
  rcases res.callStack.findSome? (callCheck env input (newKnownEntity env input res)) with _ | e <;>
    simp [eq_comm]

/-- The frame the loop of `newKnownEntity` leaves for a role is its starting frame or one of
the frames it read. -/
theorem lastFrameOf_eq_or_mem (op : AiOperation) (ρ : Role) :
    ∀ (calls : List CallFromAiMiddlewareInfo) (d : CallFromAiMiddlewareInfo),
      lastFrameOf env op ρ calls d = d ∨ lastFrameOf env op ρ calls d ∈ calls
  | [], _ => .inl rfl
  | c :: calls, d => by
    rcases lastFrameOf_eq_or_mem op ρ calls (if classifyFrame env op c = some ρ then c else d)
      with h | h
    · show lastFrameOf env op ρ calls _ = d ∨ lastFrameOf env op ρ calls _ ∈ c :: calls
      rw [h]
      split_ifs
      · exact .inr (List.mem_cons_self _ _)
      · exact .inl rfl
    · exact .inr (List.mem_cons_of_mem _ h)

/-- An entity's frame is the empty frame or one the tracer reported. -/
theorem newKnownEntity_info_eq_or_mem (ρ : Role) :
    (newKnownEntity env input res ρ).info = .empty ∨
      (newKnownEntity env input res ρ).info ∈ res.callsFromAiMiddleware := by
  show (res.callsFromAiMiddleware.foldl (assignFrame env input.op) _) ρ = _ ∨
    (res.callsFromAiMiddleware.foldl (assignFrame env input.op) _) ρ ∈ _
  rw [foldl_assignFrame]
  exact lastFrameOf_eq_or_mem env input.op ρ _ _

/-- A report **passes every check of trace validation**: each entity passes the checks of
its frame, the `CREATE2` counts pass, each entity's contract-size probes and accesses are
those `Process` permits, and no entry of the call stack fails its checks. -/
structure Accepts : Prop where
  entities : ∀ ρ, entityCheck env input ρ (newKnownEntity env input res ρ) = none
  create2 : create2Check input (newKnownEntity env input res) = none
  probes : ∀ ρ, ∀ e ∈ (newKnownEntity env input res ρ).info.contractSize,
    e.1 = input.op.sender ∨ e.2.contractSize ≠ 0 ∨
      isRIP7212Call env.rip7212precompile input.isRIP7212Supported e.1 = true
  accesses : ∀ ρ addr p,
    (∃ e ∈ (newKnownEntity env input res ρ).info.access, e.1 = addr ∧ p ∈ e.2.accesses) →
      addr ≠ input.op.sender → addr ≠ input.aiMiddleware →
        (entityValidator input (newKnownEntity env input res) (slotsByEntity env input res)
          ρ).Permitted addr p.1 p.2
  calls : ∀ c ∈ res.callStack, callCheck env input (newKnownEntity env input res) c = none

/-- **The verdict of trace validation, in any order**: for a report whose slots are written
as non-empty strings, `TraceSimulateValidation` passes exactly when the report is
`Accepts`, whatever the order in which its loops meet the entities and the access modes. -/
theorem traceSimulateValidation_ok_iff {orders : MapOrders} (horders : orders.MeetsAll)
    (hslots : ∀ c ∈ res.callsFromAiMiddleware, ∀ e ∈ c.access, ∀ p ∈ e.2.accesses, p.2 ≠ "") :
    (∃ out, traceSimulateValidation env input orders (.ok res) = .ok out) ↔
      Accepts env input res := by
  have hne : ∀ ρ, ∀ e ∈ (newKnownEntity env input res ρ).info.access, ∀ p ∈ e.2.accesses,
      p.2 ≠ "" := by
    intro ρ
    rcases newKnownEntity_info_eq_or_mem env input res ρ with h | h
    · simp [h, CallFromAiMiddlewareInfo.empty]
    · exact hslots _ h
  have hprocess := fun ρ => StorageSlotsValidator.process_eq_none_iff_permitted
    (entityValidator input (newKnownEntity env input res) (slotsByEntity env input res) ρ)
    env.rip7212precompile (orders.modes ρ) (hne ρ)
  have hent := foldlM_ok_iff _ _ orders.checks
    (fun ρ _ ic => entityStep_ok_iff env input (newKnownEntity env input res) ic ρ) []
  have hsto := foldlM_ok_iff _ _ orders.storage
    (fun ρ _ ids => storageStep_ok_iff env input (newKnownEntity env input res)
      (slotsByEntity env input res) orders.modes ids ρ) []
  simp only [traceSimulateValidation_eq_ok]
  constructor
  · rintro ⟨_, ic, ids, hic, hc2, hids, hcalls, -⟩
    have hst := fun ρ => (hprocess ρ).1 (hsto.1 ⟨ids, hids⟩ ρ (horders.mem_storage ρ))
    exact ⟨fun ρ => hent.1 ⟨ic, hic⟩ ρ (horders.mem_checks ρ), hc2, fun ρ => (hst ρ).1,
      fun ρ => (hst ρ).2, List.findSome?_eq_none_iff.1 hcalls⟩
  · rintro ⟨hent', hc2, hprobes, hacc, hcalls⟩
    obtain ⟨ic, hic⟩ := hent.2 fun ρ _ => hent' ρ
    obtain ⟨ids, hids⟩ := hsto.2 fun ρ _ => (hprocess ρ).2 ⟨hprobes ρ, hacc ρ⟩
    exact ⟨_, ic, ids, hic, hc2, hids, List.findSome?_eq_none_iff.2 hcalls, rfl⟩

/-- The sender reads slot `0x1` of a foreign contract (address `5`) while unstaked, each loop
meeting the roles in an order of its own. -/
theorem traceSimulateValidation_ok_iff_unstaked_read :
    let env : TraceEnv :=
      ⟨"0x01", "0x02", "0x03", [], 0x100, fun _ => [], fun _ => .ok [], fun _ _ _ => ""⟩
    let input : TraceInput :=
      ⟨3, ⟨1, 0, [], [], 0, 0, 0, 0, 0, [], []⟩, 1, false, [], fun _ _ _ => []⟩
    let res : BundlerCollectorReturn :=
      ⟨[⟨"0x0a", 1, [], [(5, ⟨["0x1"], []⟩)], [], [], false⟩], [], []⟩
    let orders : MapOrders :=
      ⟨[.paymaster, .sender, .factory], [.factory, .paymaster, .sender], fun _ _ => false⟩
    orders.MeetsAll ∧
      (∀ c ∈ res.callsFromAiMiddleware, ∀ e ∈ c.access, ∀ p ∈ e.2.accesses, p.2 ≠ "") ∧
      ((∃ out, traceSimulateValidation env input orders (.ok res) = .ok out) ↔
        Accepts env input res) := by
  intro env input res orders
  exact ⟨by decide, by decide,
    @traceSimulateValidation_ok_iff env input res orders (by decide) (by decide)⟩

/-- A run that passes touches the three entities' addresses and the addresses their frames
probed. -/
theorem mem_touchedContracts_of_ok {orders : MapOrders} (horders : orders.MeetsAll)
    {out : TraceOutput} (h : traceSimulateValidation env input orders (.ok res) = .ok out)
    (a : Address) :
    a ∈ out.touchedContracts ↔ ∃ ρ, a = ρ.entity input.op ∨
      ∃ c ∈ (newKnownEntity env input res ρ).info.contractSize, c.1 = a := by
  obtain ⟨ic, ids, hic, -, -, -, rfl⟩ := (traceSimulateValidation_eq_ok env input res).1 h
  refine (mem_foldlM_of_ok _ id (fun ρ a => a = (newKnownEntity env input res ρ).address ∨
    ∃ c ∈ (newKnownEntity env input res ρ).info.contractSize, c.1 = a)
    (fun ic ρ r h a => mem_entityStep h a) _ [] ic hic a).trans ?_
  simp only [id, List.not_mem_nil, false_or]
  exact ⟨fun ⟨ρ, _, h⟩ => ⟨ρ, h⟩, fun ⟨ρ, h⟩ => ⟨ρ, horders.mem_checks ρ, h⟩⟩

/-- A run that passes returns the ids of the alt mempools that except an access of an
entity outside the sender and the middleware. -/
theorem mem_altMempoolIds_of_ok {orders : MapOrders} (horders : orders.MeetsAll)
    {out : TraceOutput} (h : traceSimulateValidation env input orders (.ok res) = .ok out)
    (x : String) :
    x ∈ out.altMempoolIds ↔ ∃ ρ, ∃ e ∈ (newKnownEntity env input res ρ).info.access,
      e.1 ≠ input.op.sender ∧ e.1 ≠ input.aiMiddleware ∧ ∃ p ∈ e.2.accesses, ∃ amIds,
        (entityValidator input (newKnownEntity env input res) (slotsByEntity env input res)
          ρ).slotOutcome e.1 p.1 p.2 = .altMempool amIds ∧ x ∈ amIds := by
  obtain ⟨ic, ids, -, -, hids, -, rfl⟩ := (traceSimulateValidation_eq_ok env input res).1 h
  have hsto := (foldlM_ok_iff _ _ orders.storage
    (fun ρ _ ids => storageStep_ok_iff env input (newKnownEntity env input res)
      (slotsByEntity env input res) orders.modes ids ρ) []).1 ⟨ids, hids⟩
  refine (mem_foldlM_of_ok _ id (fun ρ x => x ∈ ((entityValidator input
    (newKnownEntity env input res) (slotsByEntity env input res) ρ).process
      env.rip7212precompile (orders.modes ρ)).1)
    (fun ids ρ r h x => mem_storageStep h x) _ [] ids hids x).trans ?_
  simp only [id, List.not_mem_nil, false_or]
  constructor
  · rintro ⟨ρ, hρ, hx⟩
    exact ⟨ρ, (StorageSlotsValidator.mem_process_fst _ _ _ (hsto ρ hρ) x).1 hx⟩
  · rintro ⟨ρ, hx⟩
    exact ⟨ρ, horders.mem_storage ρ,
      (StorageSlotsValidator.mem_process_fst _ _ _ (hsto ρ (horders.mem_storage ρ)) x).2 hx⟩

/-- **The output of trace validation, in any order**: a run that passes returns as touched
contracts the addresses of the three entities (the zero address for an entity the op does
not name) and the addresses their frames probed, and as alt-mempool ids those of the
mempools that except an access outside the sender and the middleware; so two runs that pass
return lists with the same members, whatever the order of their loops. -/
theorem traceSimulateValidation_output_mem {orders : MapOrders} (horders : orders.MeetsAll)
    {out : TraceOutput} (h : traceSimulateValidation env input orders (.ok res) = .ok out) :
    (∀ a, a ∈ out.touchedContracts ↔ ∃ ρ, a = ρ.entity input.op ∨
      ∃ c ∈ (newKnownEntity env input res ρ).info.contractSize, c.1 = a) ∧
    ∀ x, x ∈ out.altMempoolIds ↔ ∃ ρ, ∃ e ∈ (newKnownEntity env input res ρ).info.access,
      e.1 ≠ input.op.sender ∧ e.1 ≠ input.aiMiddleware ∧ ∃ p ∈ e.2.accesses, ∃ amIds,
        (entityValidator input (newKnownEntity env input res) (slotsByEntity env input res)
          ρ).slotOutcome e.1 p.1 p.2 = .altMempool amIds ∧ x ∈ amIds :=
  ⟨mem_touchedContracts_of_ok env input res horders h,
    mem_altMempoolIds_of_ok env input res horders h⟩

end Run

end AiopsBundler
