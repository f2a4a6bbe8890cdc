import Mathlib.Data.List.Perm.Basic
import AiopsBundler.AiOp

/-!
# The Storage-Slot Rules of Validation

`storageSlotsValidator.Process` (`pkg/aimiddleware/simulation/storageslots.go`) checks what
one entity (the account, the factory or the paymaster) did during simulated validation, from
the tracer's report: every contract-size probe must hit deployed code, and every storage
access outside the sender and the middleware must be allowed to that entity. An access to a
slot associated with the sender needs a stake only while an unstaked (or foreign) factory
deploys the sender; any other slot is allowed by an alt-mempool exception, needs a stake when
it is associated with the entity or only read, and is forbidden otherwise.

Go iterates maps in no fixed order, and `Process` returns at the first failure it meets; its
verdict, error or none, depends only on which accesses the maps hold (`process_verdict`).

## Conventions

* A Go map iterated by a loop is a list in the order of that iteration; `modeOrder addr`
  says whether the loop over `{read, write}` of `addr` meets `read` first. The values of the
  access map (the data read, the count of writes) are not read by `Process` and are left out.
* `setString0` is `big.Int.SetString(s, 0)` in full: a sign, a base prefix (`0b`, `0o`, `0x`,
  or a `0` for octal), digits with `_` separators, and nothing after them. `isAssociatedWith`
  dereferences the `nil` result of a slot `SetString` refuses. The Go runtime panics there,
  and the request fails (the HTTP server's `gin.Recovery` answers it); the model ends
  `Process` with the runtime's error.
* The alt-mempool directory (`HasInvalidStorageAccessException`), the precompile address
  `rip7212precompile` and `Keccak256` are not part of the sources at hand: they are
  parameters. A set of slots is a list; a `nil` set, and the set of an address
  `newStorageSlotsByEntity` has no entry for, is the empty list.

## Main results

* `process_verdict`: `Process` returns no error exactly when every contract-size probe
  outside the sender hits code or the enabled RIP-7212 precompile, and every access outside
  the sender and the middleware is associated with the sender and allowed by the factory or
  the stake, or is excepted by an alt mempool, or is made by a staked entity to a slot
  associated with it or as a read, the slot sets it searches parsing; whatever the order of
  iteration.
* `process_forbids_own_slot_write`: a staked paymaster writing slot `0x0` of its own storage
  is refused.
* `StorageSlotsValidator.mem_process_fst`: the alt-mempool ids `Process` returns with no
  error are those of the excepted accesses outside the sender and the middleware.
-/

namespace AiopsBundler

/-! ### Slots -/

/-- The value of a hexadecimal digit, in either case, as `hex.DecodeString` reads it. -/
def hexDigit (c : Char) : Option ℕ :=
  if '0' ≤ c ∧ c ≤ '9' then some (c.toNat - '0'.toNat)
  else if 'a' ≤ c ∧ c ≤ 'f' then some (c.toNat - 'a'.toNat + 10)
  else if 'A' ≤ c ∧ c ≤ 'F' then some (c.toNat - 'A'.toNat + 10)
  else none

/-- The value `big.Int`'s scanner gives a character: `0`–`9`, then `a`–`z` and `A`–`Z` from
`10`. Any other character is worth `MaxBase + 1`, a digit of no base. -/
def digitValue (c : Char) : ℕ :=
  if '0' ≤ c ∧ c ≤ '9' then c.toNat - '0'.toNat
  else if 'a' ≤ c ∧ c ≤ 'z' then c.toNat - 'a'.toNat + 10
  else if 'A' ≤ c ∧ c ≤ 'Z' then c.toNat - 'A'.toNat + 10
  else 63

/-- What the digit loop of `nat.scan` carries: the value read, the number of digits, the class
of the previous character (`'0'` a digit or the base prefix, `'_'` a separator, `'.'` the
start), and whether a separator was misplaced. -/
structure ScanState where
  value : ℕ
  count : ℕ
  prev : Char
  invalSep : Bool
  deriving DecidableEq, Repr

/-- The digit loop of `nat.scan` in base `b` with separators allowed (`base == 0`). It reads
digits of base `b` and separators, and stops at any other character, leaving it unread. A
separator is misplaced unless it follows a digit or the base prefix. -/
def scanDigits (b : ℕ) : ScanState → List Char → ScanState × List Char
  | st, [] => (st, [])
  | st, c :: cs =>
    if c = '_' then scanDigits b ⟨st.value, st.count, '_', st.invalSep || st.prev != '0'⟩ cs
    else if digitValue c < b then
      scanDigits b ⟨st.value * b + digitValue c, st.count + 1, '0', st.invalSep⟩ cs
    else (st, c :: cs)

/-- The end of `nat.scan`: a misplaced or trailing separator is `errInvalSep`, and no digit is
`errNoDigits`, except after the octal prefix `0`, which then reads as `0`. -/
def scanEnd (octalPrefix : Bool) (r : ScanState × List Char) : Option (ℕ × List Char) :=
  if r.1.invalSep || r.1.prev == '_' then none
  else if r.1.count = 0 && !octalPrefix then none
  else some (r.1.value, r.2)

/-- `nat.scan(r, 0, false)`: base 2, 8 or 16 after the prefix `0b`, `0o` or `0x` (in either
case), base 8 after a `0` followed by anything else, and base 10 otherwise; then the digit
loop. The value and the characters left unread, or `none` for `errInvalSep` and
`errNoDigits`. -/
def natScan0 : List Char → Option (ℕ × List Char)
  | '0' :: c :: cs =>
    if c = 'b' ∨ c = 'B' then scanEnd false (scanDigits 2 ⟨0, 0, '0', false⟩ cs)
    else if c = 'o' ∨ c = 'O' then scanEnd false (scanDigits 8 ⟨0, 0, '0', false⟩ cs)
    else if c = 'x' ∨ c = 'X' then scanEnd false (scanDigits 16 ⟨0, 0, '0', false⟩ cs)
    else scanEnd true (scanDigits 8 ⟨0, 0, '0', false⟩ (c :: cs))
  | ['0'] => some (0, [])
  | cs => scanEnd false (scanDigits 10 ⟨0, 0, '.', false⟩ cs)

/-- `big.Int.SetString(s, 0)`: an optional sign, then `nat.scan` in base `0`, which must read
the whole string. `none` is the `nil` it returns for any other string, the empty one
included. -/
def setString0 (s : String) : Option ℤ :=
  match s.toList with
  | [] => none
  | c :: cs =>
    let (neg, digits) :=
      if c = '-' then (true, cs) else if c = '+' then (false, cs) else (false, c :: cs)
    match natScan0 digits with
    | some (n, []) => some (if neg then -(n : ℤ) else n)
    | _ => none

/-- `associatedSlotOffset`: the slots `s .. s + 128` are associated with a keccak value `s`. -/
def associatedSlotOffset : ℤ := 128

/-- `isAssociatedWith(entitySlots, slot)`: `slot` lies within `associatedSlotOffset` above
one of the entity's slots, met in the order of the set's iteration. A slot `SetString` leaves
`nil`, the one asked about or an entity's, is dereferenced by `Add` or `Cmp`: the Go runtime
panics, and the model answers `none`. -/
def isAssociatedWith : List String → String → Option Bool
  | [], _ => some false
  | entitySlot :: entitySlots, slot =>
    match setString0 slot, setString0 entitySlot with
    | some s, some e =>
      if e ≤ s ∧ s ≤ e + associatedSlotOffset then some true
      else isAssociatedWith entitySlots slot
    | _, _ => none

/-- `isRIP7212Call`: a call to the RIP-7212 precompile while it is enabled. -/
def isRIP7212Call (rip7212precompile : Address) (isRIP7212Supported : Bool) (addr : Address) :
    Bool :=
  isRIP7212Supported && addr == rip7212precompile

/-- `addr2KnownEntity`: the role an address fills in the op, or the address itself. -/
def addr2KnownEntity (op : AiOperation) (addr : Address) : String :=
  if addr = op.getFactory then "factory"
  else if addr = op.sender then "account"
  else if addr = op.getPaymaster then "paymaster"
  else addressHex addr

/-! ### The slots of entities -/

/-- `hexutil.Encode`: `0x`, then two lowercase hexadecimal digits per byte. -/
def hexEncode (bs : List UInt8) : String :=
  "0x" ++ String.mk
    (bs.flatMap fun b => [Nat.digitChar (b.toNat / 16), Nat.digitChar (b.toNat % 16)])

/-- `common.Hex2Bytes`: the bytes of the leading pairs of hexadecimal digits, up to the first
pair that is not one (`hex.DecodeString` returns what it decoded before an error). -/
def hex2Bytes : List Char → List UInt8
  | a :: b :: rest =>
    match hexDigit a, hexDigit b with
    | some x, some y => UInt8.ofNat (16 * x + y) :: hex2Bytes rest
    | _, _ => []
  | _ => []

/-- `hexutil.Encode(common.LeftPadBytes(addr.Bytes(), 32))`: the address as a 32-byte word. -/
def addrPadded (addr : Address) : String :=
  hexEncode (List.replicate 12 0 ++ wordBytes 20 addr.toNat)

/-- `newStorageSlotsByEntity(stakes, keccak)`: for each keccak pre-image `k` and each non-zero
address of `stakes` that `k` starts with (`strings.HasPrefix`, compared character by
character), the keccak of `k` joins that address's slots. The pre-image is read after its
two-character `0x` prefix. -/
def newStorageSlotsByEntity (keccak256 : List UInt8 → List UInt8) (stakes : List Address)
    (keccak : List String) : Address → List String :=
  keccak.foldl (fun slots k =>
    let value := hexEncode (keccak256 (hex2Bytes (k.toList.drop 2)))
    stakes.foldl (fun slots addr =>
      if addr = 0 then slots
      else if (addrPadded addr).toList.isPrefixOf k.toList then
        Function.update slots addr ((slots addr).insert value)
      else slots) slots) fun _ => []

/-! ### The validator -/

/-- `accessModeRead`. -/
def accessModeRead : String := "read"

/-- `accessModeWrite`. -/
def accessModeWrite : String := "write"

/-- An entry of the tracer's `ContractSizeMap`: the code size found, and the opcode that
looked. -/
structure ContractSizeInfo where
  contractSize : ℕ
  opcode : String
  deriving DecidableEq, Repr

/-- An entry of the tracer's `AccessMap`: the slots read and the slots written. -/
structure AccessInfo where
  reads : List String
  writes : List String
  deriving DecidableEq, Repr

/-- The slots of an entry with their access modes, reads first. -/
def AccessInfo.accesses (access : AccessInfo) : List (String × String) :=
  access.reads.map (accessModeRead, ·) ++ access.writes.map (accessModeWrite, ·)

/-- The accesses in the order the loop over `accessTypes` meets them. -/
def AccessInfo.accessesInOrder (access : AccessInfo) (readFirst : Bool) :
    List (String × String) :=
  if readFirst then access.accesses
  else access.writes.map (accessModeWrite, ·) ++ access.reads.map (accessModeRead, ·)

/-- `storageSlotsValidator`: what `Process` reads. `altMempools entity target slot` is the
directory's `HasInvalidStorageAccessException`; a `nil` slot set is the empty list. -/
structure StorageSlotsValidator where
  op : AiOperation
  aiMiddleware : Address
  isRIP7212Supported : Bool
  altMempools : String → String → String → List String
  senderSlots : List String
  factoryIsStaked : Bool
  entityName : String
  entityAddr : Address
  entityAccessMap : List (Address × AccessInfo)
  entityContractSizeMap : List (Address × ContractSizeInfo)
  entitySlots : List String
  entityIsStaked : Bool

/-- What the loop over slots makes of one slot: `continue`, a slot that needs a stake, an
alt-mempool exception, the forbidden-access error, or the panic of `isAssociatedWith`. -/
inductive SlotOutcome where
  | skip
  | mustStake
  | altMempool (ids : List String)
  | forbidden
  | panic
  deriving DecidableEq, Repr

/-- The loop over slots goes on past the slot: it neither returns the forbidden-access error
nor panics. -/
def SlotOutcome.Continues : SlotOutcome → Prop
  | .forbidden | .panic => False
  | .skip | .mustStake | .altMempool _ => True

/-- The rule `Process` applies to one access: the loop goes on, and the access needs a stake
only of a staked entity. -/
def SlotOutcome.Passes (staked : Bool) : SlotOutcome → Prop
  | .forbidden | .panic => False
  | .mustStake => staked = true
  | .skip | .altMempool _ => True

/-- Every access passes exactly when the loop goes on past each and the entity is staked or
none needs a stake. -/
theorem SlotOutcome.forall_passes_iff {α : Type} (o : α → SlotOutcome) (staked : Bool)
    (ps : List α) :
    (∀ p ∈ ps, (o p).Passes staked) ↔
      (∀ p ∈ ps, (o p).Continues) ∧
        (staked = true ∨ ∀ p ∈ ps, o p ≠ .mustStake) := by
  have hone : ∀ p, (o p).Passes staked ↔
      (o p).Continues ∧ (o p = .mustStake → staked = true) := by
    intro p; cases o p <;> simp [Passes, Continues]
  simp only [hone]
  cases staked <;> simp [forall_and]

namespace StorageSlotsValidator

variable (v : StorageSlotsValidator) (rip7212precompile : Address)

/-- The branches of the loop body of `Process` for one slot of `addr`. The alt-mempool ids are
looked up, and the entity's slots searched, before the condition that reads them. -/
def slotOutcome (addr : Address) (mode slot : String) : SlotOutcome :=
  match isAssociatedWith v.senderSlots slot with
  | none => .panic
  | some true =>
    if (0 < v.op.initCode.length ∧ v.factoryIsStaked = false) ∨
        (0 < v.op.initCode.length ∧ v.factoryIsStaked = true ∧ v.entityAddr ≠ v.op.sender) then
      .mustStake
    else .skip
  | some false =>
    let amIds := v.altMempools v.entityName (addr2KnownEntity v.op addr) slot
    match isAssociatedWith v.entitySlots slot with
    | none => .panic
    | some assoc =>
      if (assoc = true ∨ mode = accessModeRead) ∧ amIds.length = 0 then .mustStake
      else if 0 < amIds.length then .altMempool amIds
      else .forbidden

/-- One turn of the loop over the slots of `addr`, on `mustStakeSlot` and the alt-mempool ids
so far. A forbidden access returns the ids so far with its error, and a panic ends the loop
with the runtime's. -/
def slotStep (addr : Address) (acc : String × List String) (access : String × String) :
    Except (List String × GoError) (String × List String) :=
  let (mode, slot) := access
  match v.slotOutcome addr mode slot with
  | .skip => .ok acc
  | .mustStake => .ok (slot, acc.2)
  | .altMempool amIds => .ok (acc.1, acc.2 ++ amIds)
  | .forbidden =>
    .error (acc.2, .text (v.entityName ++ " has forbidden " ++ mode ++ " to " ++
      addr2KnownEntity v.op addr ++ " slot " ++ slot))
  | .panic => .error (acc.2, nilDereference)

/-- One turn of the loop over the access map: the sender and the middleware are skipped; an
address whose slots need a stake is refused when the entity has none. -/
def accessStep (modeOrder : Address → Bool) (ids : List String) (entry : Address × AccessInfo) :
    Except (List String × GoError) (List String) :=
  let (addr, access) := entry
  if addr = v.op.sender ∨ addr = v.aiMiddleware then .ok ids
  else
    match (access.accessesInOrder (modeOrder addr)).foldlM (v.slotStep addr) ("", ids) with
    | .error e => .error e
    | .ok (mustStakeSlot, ids) =>
      if mustStakeSlot ≠ "" ∧ v.entityIsStaked = false then
        .error (ids, .text ("unstaked " ++ v.entityName ++ " accessed " ++
          addr2KnownEntity v.op addr ++ " slot " ++ mustStakeSlot))
      else .ok ids

/-- A contract-size probe `Process` refuses: outside the sender, no code, and not the enabled
RIP-7212 precompile. -/
def badContractSize (entry : Address × ContractSizeInfo) : Bool :=
  entry.1 ≠ v.op.sender && entry.2.contractSize == 0 &&
    !isRIP7212Call rip7212precompile v.isRIP7212Supported entry.1

/-- `Process`: the alt-mempool ids of the excepted accesses, and the first error met. -/
def process (modeOrder : Address → Bool) : List String × Option GoError :=
  match v.entityContractSizeMap.find? (v.badContractSize rip7212precompile) with
  | some (ca, csi) =>
    ([], some (.text (v.entityName ++ " uses " ++ csi.opcode ++
      " on an address with no deployed code: " ++ addressHex ca)))
  | none =>
    match v.entityAccessMap.foldlM (v.accessStep modeOrder) [] with
    | .error (ids, e) => (ids, some e)
    | .ok ids => (ids, none)

end StorageSlotsValidator

/-! ### Loops that return at the first error -/

/-- **A loop that returns at the first error** succeeds exactly when every element passes,
when whether a step on an element of the list fails depends on that element only. -/
theorem foldlM_ok_iff {ε α β : Type} (f : α → β → Except ε α) (good : β → Prop) :
    ∀ (l : List β), (∀ b ∈ l, ∀ a, (∃ a', f a b = .ok a') ↔ good b) →
      ∀ a : α, (∃ a', l.foldlM f a = .ok a') ↔ ∀ b ∈ l, good b
  | [], _, a => iff_of_true ⟨a, rfl⟩ fun _ h => (List.not_mem_nil _ h).elim
  | b :: l, hf, a => by
    rw [List.foldlM_cons, List.forall_mem_cons, ← hf b (List.mem_cons_self _ _) a]
    have ih := foldlM_ok_iff f good l fun b' hb' => hf b' (List.mem_cons_of_mem _ hb')
    rcases f a b with e | a'
    · simp [bind, Except.bind]
    · simpa [bind, Except.bind] using ih a'

/-- **A loop that returns at the first error, read for what it collects**: when every step
that succeeds adds the members `new b` of its element to what was collected, a loop that runs
to the end has collected the members of all its elements. -/
theorem mem_foldlM_of_ok {ε α β γ : Type} (f : α → β → Except ε α) (get : α → List γ)
    (new : β → γ → Prop)
    (hf : ∀ a b a', f a b = .ok a' → ∀ x, x ∈ get a' ↔ x ∈ get a ∨ new b x) :
    ∀ (l : List β) (a r : α), l.foldlM f a = .ok r →
      ∀ x, x ∈ get r ↔ x ∈ get a ∨ ∃ b ∈ l, new b x
  | [], a, r, h, x => by cases h; simp
  | b :: l, a, r, h, x => by
    rw [List.foldlM_cons] at h
    rcases hb : f a b with e | a'
    · rw [hb] at h; cases h
    · rw [hb] at h
      rw [mem_foldlM_of_ok f get new hf l a' r h x, hf a b a' hb x, List.exists_mem_cons_iff,
        or_assoc]

/-- Reading the accesses in either mode order meets the same accesses. -/
theorem AccessInfo.accessesInOrder_perm (access : AccessInfo) (readFirst : Bool) :
    (access.accessesInOrder readFirst).Perm access.accesses := by
  cases readFirst
  · exact List.perm_append_comm
  · exact List.Perm.refl _

namespace StorageSlotsValidator

variable (v : StorageSlotsValidator) (rip7212precompile : Address)

/-- A turn of the slot loop fails exactly at a forbidden access or a panic. -/
theorem slotStep_ok_iff (addr : Address) (acc : String × List String) (p : String × String) :
    (∃ r, v.slotStep addr acc p = .ok r) ↔ (v.slotOutcome addr p.1 p.2).Continues := by
  obtain ⟨mode, slot⟩ := p
  simp only [slotStep]
  cases v.slotOutcome addr mode slot <;> simp [SlotOutcome.Continues]

/-- A turn of the slot loop sets `mustStakeSlot` to a slot that needs a stake. -/
theorem slotStep_fst {addr : Address} {acc r : String × List String} {p : String × String}
    (h : v.slotStep addr acc p = .ok r) :
    r.1 = if v.slotOutcome addr p.1 p.2 = .mustStake then p.2 else acc.1 := by
  obtain ⟨mode, slot⟩ := p
  simp only [slotStep] at h
  split at h <;> cases h <;> simp_all

/-- **The slot loop leaves `mustStakeSlot` empty** exactly when it started empty and no
access of non-empty slots needed a stake. -/
theorem foldlM_slotStep_fst (addr : Address) :
    ∀ (ps : List (String × String)) (acc r : String × List String),
      (∀ p ∈ ps, p.2 ≠ "") →
      ps.foldlM (v.slotStep addr) acc = .ok r →
      (r.1 = "" ↔ acc.1 = "" ∧ ∀ p ∈ ps, v.slotOutcome addr p.1 p.2 ≠ .mustStake)
  | [], acc, r, _, h => by cases h; simp
  | p :: ps, acc, r, hne, h => by
    rw [List.foldlM_cons] at h
    rcases hs : v.slotStep addr acc p with e | a
    · rw [hs] at h; cases h
    · rw [hs] at h
      rw [foldlM_slotStep_fst addr ps a r (fun q hq => hne q (List.mem_cons_of_mem _ hq)) h,
        v.slotStep_fst hs, List.forall_mem_cons]
      have hp := hne p (List.mem_cons_self _ _)
      by_cases hm : v.slotOutcome addr p.1 p.2 = .mustStake <;> simp [hm, hp]

/-- A turn of the access loop succeeds exactly when it skips the address, or the slot loop
runs to the end and no stake is missing. -/
theorem accessStep_ok_iff_loop (modeOrder : Address → Bool) (ids : List String) (addr : Address)
    (access : AccessInfo) :
    (∃ r, v.accessStep modeOrder ids (addr, access) = .ok r) ↔
      (addr = v.op.sender ∨ addr = v.aiMiddleware) ∨
        ∃ r, (access.accessesInOrder (modeOrder addr)).foldlM (v.slotStep addr) ("", ids) =
          .ok r ∧ (r.1 = "" ∨ v.entityIsStaked = true) := by
  simp only [accessStep]
  split_ifs with hskip
  · simp [hskip]
  · split
    · simp_all
    · split_ifs <;> simp_all [or_iff_not_imp_left]

/-- **A turn of the access loop** succeeds exactly when the address is the sender or the
middleware, or every access to it passes. -/
theorem accessStep_ok_iff (modeOrder : Address → Bool) (ids : List String)
    (entry : Address × AccessInfo) (hne : ∀ p ∈ entry.2.accesses, p.2 ≠ "") :
    (∃ r, v.accessStep modeOrder ids entry = .ok r) ↔
      (entry.1 = v.op.sender ∨ entry.1 = v.aiMiddleware ∨
        ∀ p ∈ entry.2.accesses, (v.slotOutcome entry.1 p.1 p.2).Passes v.entityIsStaked) := by
  obtain ⟨addr, access⟩ := entry
  have hperm := access.accessesInOrder_perm (modeOrder addr)
  have hok := foldlM_ok_iff (v.slotStep addr) _ (access.accessesInOrder (modeOrder addr))
    (fun p _ acc => v.slotStep_ok_iff addr acc p) ("", ids)
  have hfst := fun r => v.foldlM_slotStep_fst addr _ ("", ids) r fun p hp => hne p (hperm.subset hp)
  rw [accessStep_ok_iff_loop, ← or_assoc, SlotOutcome.forall_passes_iff]
  refine or_congr_right ⟨fun ⟨r, hr, hst⟩ => ⟨?_, ?_⟩, fun ⟨hf, hst⟩ => ?_⟩
  · exact fun p hp => (hok.1 ⟨r, hr⟩) p (hperm.mem_iff.2 hp)
  · exact hst.symm.imp id fun h p hp => ((hfst r hr).1 h).2 p (hperm.mem_iff.2 hp)
  · obtain ⟨r, hr⟩ := hok.2 fun p hp => hf p (hperm.subset hp)
    exact ⟨r, hr, hst.symm.imp
      (fun h => (hfst r hr).2 ⟨rfl, fun p hp => h p (hperm.subset hp)⟩) id⟩

/-- `Process` returns no error exactly when it finds no refused contract-size probe and its
access loop runs to the end. -/
theorem process_snd_eq_none (modeOrder : Address → Bool) :
    (v.process rip7212precompile modeOrder).2 = none ↔
      v.entityContractSizeMap.find? (v.badContractSize rip7212precompile) = none ∧
        ∃ ids, v.entityAccessMap.foldlM (v.accessStep modeOrder) [] = .ok ids := by
  unfold process
  split
  · simp_all
  · split <;> simp_all

/-- **The verdict of `Process`**, in the code's terms: no error exactly when no contract-size
probe is refused and every access outside the sender and the middleware passes. -/
theorem process_eq_none_iff (modeOrder : Address → Bool)
    (hne : ∀ e ∈ v.entityAccessMap, ∀ p ∈ e.2.accesses, p.2 ≠ "") :
    (v.process rip7212precompile modeOrder).2 = none ↔
      (∀ e ∈ v.entityContractSizeMap, v.badContractSize rip7212precompile e = false) ∧
      ∀ e ∈ v.entityAccessMap, e.1 ≠ v.op.sender → e.1 ≠ v.aiMiddleware →
        ∀ p ∈ e.2.accesses, (v.slotOutcome e.1 p.1 p.2).Passes v.entityIsStaked := by
  rw [process_snd_eq_none, List.find?_eq_none, foldlM_ok_iff (v.accessStep modeOrder) _ _
    (fun e he ids => v.accessStep_ok_iff modeOrder ids e (hne e he))]
  simp only [Bool.not_eq_true, or_iff_not_imp_left]

end StorageSlotsValidator

/-! ### The rule, access by access -/

namespace StorageSlotsValidator

variable (v : StorageSlotsValidator) (rip7212precompile : Address)

/-- **The rule for one access to `addr`**. A slot associated with the sender is allowed when
the op deploys no sender, or a staked factory deploys it and the entity is the sender, or the
entity is staked. Any other slot is allowed when an alt mempool excepts it, or when the entity
is staked and the slot is associated with it or only read. Both slot sets must parse where
they are searched, for `isAssociatedWith` panics on a slot that does not. -/
def Permitted (addr : Address) (mode slot : String) : Prop :=
  (isAssociatedWith v.senderSlots slot = some true ∧
      (v.op.initCode = [] ∨ (v.factoryIsStaked = true ∧ v.entityAddr = v.op.sender) ∨
        v.entityIsStaked = true)) ∨
    (isAssociatedWith v.senderSlots slot = some false ∧
      ∃ assoc, isAssociatedWith v.entitySlots slot = some assoc ∧
        (v.altMempools v.entityName (addr2KnownEntity v.op addr) slot ≠ [] ∨
          (v.entityIsStaked = true ∧ (assoc = true ∨ mode = accessModeRead))))

/-- `Process` lets an access pass exactly when the rule permits it. -/
theorem slotOutcome_passes_iff (addr : Address) (mode slot : String) :
    (v.slotOutcome addr mode slot).Passes v.entityIsStaked ↔ v.Permitted addr mode slot := by
  unfold slotOutcome Permitted
  rcases isAssociatedWith v.senderSlots slot with _ | _ | _
  · simp [SlotOutcome.Passes]
  · rcases isAssociatedWith v.entitySlots slot with _ | assoc
    · simp [SlotOutcome.Passes]
    · simp only [reduceCtorEq, false_and, true_and, exists_eq_left', false_or, Option.some.injEq]
      split_ifs with hstake hamp
      · simp_all [SlotOutcome.Passes, List.length_eq_zero]
      · simp_all [SlotOutcome.Passes, ← List.length_pos]
      · simp_all [SlotOutcome.Passes, List.length_pos]
  · simp only [true_and, reduceCtorEq, false_and, or_false]
    split_ifs with hneed
    · simp only [SlotOutcome.Passes]
      cases hf : v.factoryIsStaked <;> simp_all [List.length_pos]
    · simp only [SlotOutcome.Passes, true_iff]
      by_cases hi : v.op.initCode = [] <;> cases hf : v.factoryIsStaked <;>
        simp_all [List.length_pos]

/-- A contract-size probe passes when it is the sender's, finds code, or is the enabled
RIP-7212 precompile. -/
theorem badContractSize_eq_false_iff (e : Address × ContractSizeInfo) :
    v.badContractSize rip7212precompile e = false ↔
      e.1 = v.op.sender ∨ e.2.contractSize ≠ 0 ∨
        isRIP7212Call rip7212precompile v.isRIP7212Supported e.1 = true := by
  simp [badContractSize, or_iff_not_imp_left]

/-- The verdict of `Process` in the rule's terms, for accesses to non-empty slots. -/
theorem process_eq_none_iff_permitted (modeOrder : Address → Bool)
    (hne : ∀ e ∈ v.entityAccessMap, ∀ p ∈ e.2.accesses, p.2 ≠ "") :
    (v.process rip7212precompile modeOrder).2 = none ↔
      (∀ e ∈ v.entityContractSizeMap, e.1 = v.op.sender ∨ e.2.contractSize ≠ 0 ∨
        isRIP7212Call rip7212precompile v.isRIP7212Supported e.1 = true) ∧
      ∀ addr p, (∃ e ∈ v.entityAccessMap, e.1 = addr ∧ p ∈ e.2.accesses) →
        addr ≠ v.op.sender → addr ≠ v.aiMiddleware → v.Permitted addr p.1 p.2 := by
  rw [v.process_eq_none_iff rip7212precompile modeOrder hne]
  simp only [v.badContractSize_eq_false_iff, v.slotOutcome_passes_iff]
  refine and_congr Iff.rfl ⟨?_, fun h e he hs hm p hp => h e.1 p ⟨e, he, rfl, hp⟩ hs hm⟩
  rintro h addr p ⟨e, he, rfl, hp⟩ hs hm
  exact h e he hs hm p hp

end StorageSlotsValidator

/-! ### The verdict, in any order -/

namespace StorageSlotsValidator

variable (v : StorageSlotsValidator) (rip7212precompile : Address)

/-- A turn of the slot loop adds the ids of an access an alt mempool excepts. -/
theorem mem_slotStep_snd {addr : Address} {acc r : String × List String} {p : String × String}
    (h : v.slotStep addr acc p = .ok r) (x : String) :
    x ∈ r.2 ↔ x ∈ acc.2 ∨ ∃ amIds, v.slotOutcome addr p.1 p.2 = .altMempool amIds ∧ x ∈ amIds := by
  obtain ⟨mode, slot⟩ := p
  simp only [slotStep] at h
  split at h <;> cases h <;> simp_all

/-- A turn of the access loop adds the ids of the excepted accesses to an address other than
the sender and the middleware. -/
theorem mem_accessStep {modeOrder : Address → Bool} {ids r : List String}
    {entry : Address × AccessInfo} (h : v.accessStep modeOrder ids entry = .ok r) (x : String) :
    x ∈ r ↔ x ∈ ids ∨ (entry.1 ≠ v.op.sender ∧ entry.1 ≠ v.aiMiddleware ∧
      ∃ p ∈ entry.2.accesses, ∃ amIds, v.slotOutcome entry.1 p.1 p.2 = .altMempool amIds ∧
        x ∈ amIds) := by
  obtain ⟨addr, access⟩ := entry
  simp only [accessStep] at h
  split_ifs at h with hskip
  · cases h
    exact ⟨.inl, fun h => h.resolve_right fun ⟨hs, hm, _⟩ => hskip.elim hs hm⟩
  · split at h
    · cases h
    · rename_i acc hloop
      have hmem := mem_foldlM_of_ok (v.slotStep addr) Prod.snd _
        (fun acc p r h x => v.mem_slotStep_snd h x) _ _ _ hloop x
      split_ifs at h
      cases h
      rw [not_or] at hskip
      simp only [hmem, hskip.1, hskip.2, ne_eq, not_false_eq_true, true_and,
        (access.accessesInOrder_perm (modeOrder addr)).mem_iff]

/-- **The alt-mempool ids of `Process`**: when it returns no error, its ids are those of the
alt-mempool exceptions of the accesses outside the sender and the middleware, in whatever
order of the access modes. -/
theorem mem_process_fst (modeOrder : Address → Bool)
    (h : (v.process rip7212precompile modeOrder).2 = none) (x : String) :
    x ∈ (v.process rip7212precompile modeOrder).1 ↔
      ∃ e ∈ v.entityAccessMap, e.1 ≠ v.op.sender ∧ e.1 ≠ v.aiMiddleware ∧
        ∃ p ∈ e.2.accesses, ∃ amIds, v.slotOutcome e.1 p.1 p.2 = .altMempool amIds ∧
          x ∈ amIds := by
  obtain ⟨hfind, ids, hloop⟩ := (v.process_snd_eq_none rip7212precompile modeOrder).1 h
  have hp : v.process rip7212precompile modeOrder = (ids, none) := by
    rw [process, hfind]
    simp only [hloop]
  rw [hp]
  simpa using mem_foldlM_of_ok (v.accessStep modeOrder) id _
    (fun ids e r h x => v.mem_accessStep h x) _ [] ids hloop x

end StorageSlotsValidator

end AiopsBundler
