import AiopsBundler.AiOp

/-!
# The Checks of an Op's Values

Three of the checks `ValidateOpValues` runs on an op at ingress are in the sources at hand
(package `checks`). `ValidateInitCode` (`src/unnamed/part_005`) refuses an `initCode` that
names no factory. `ValidateFeePerGas` (the same file) refuses fees that cannot pay the
current base fee, or, on a chain without one, a priority fee other than the fee cap.
`ValidatePaymasterAndData` (`pkg/modules/checks/paymaster.go`) refuses a paymaster that is
malformed, has no code, or has too small a deposit.

## Conventions

* `GetBaseFeeFunc` and `GetCodeFunc` are their answers: `Except GoError (Option ℤ)`, `none`
  for a chain without a base fee, and a function from addresses to code.
* `errors.New` and `fmt.Errorf` without `%w` make a fresh error carrying its text
  (`GoError.text`).
* The deposit is the `Deposit` field of the paymaster's `IDepositManagerDepositInfo`, the one
  field the check reads.

## Main results

* `validateFeePerGas_eq_none_iff`: under a base fee the check accepts exactly the ops whose
  fee cap is at least their priority fee and at least the base fee. Such an op's effective
  gas price is at least the base fee. Without a base fee it accepts exactly the ops whose
  two fees are equal.
* `validatePaymasterAndData_eq_none_iff`: an op naming a paymaster passes exactly when its
  `paymasterAndData` holds an address with code and a deposit that covers its max prefund.
* `validateInitCode_eq_none_iff`: a non-empty `initCode` passes exactly when its first twenty
  bytes are present and not all zero.
-/

namespace AiopsBundler

/-! ### `initCode` -/

/-- `ValidateInitCode`: an empty `initCode`, or one whose factory is not the zero address. -/
def validateInitCode (op : AiOperation) : Option GoError :=
  if op.initCode.length = 0 then none
  else if op.getFactory = 0 then some (.text "initCode: does not contain a valid address")
  else none

/-- **The factory of a deployment**: a non-empty `initCode` passes exactly when it is at least
twenty bytes long and its first twenty bytes are not the zero address; a shorter one is
refused. -/
theorem validateInitCode_eq_none_iff (op : AiOperation) (h : op.initCode ≠ []) :
    validateInitCode op = none ↔
      20 ≤ op.initCode.length ∧ bytesToAddress (op.initCode.take 20) ≠ 0 := by
  have hlen : op.initCode.length ≠ 0 := by simpa using h
  unfold validateInitCode AiOperation.getFactory
  by_cases h20 : op.initCode.length < 20
  · simp [hlen, h20]
  · simp [hlen, h20, Nat.le_of_not_lt h20]

/-- A one-byte `initCode` names no factory. -/
example : (validateInitCode ⟨1, 0, [7], [], 0, 0, 0, 0, 0, [], []⟩).isSome := rfl

/-! ### Fees -/

/-- `ValidateFeePerGas`, with the answer of `GetBaseFeeFunc`. -/
def validateFeePerGas (op : AiOperation) (gbf : Except GoError (Option ℤ)) : Option GoError :=
  match gbf with
  | .error e => some e
  | .ok none =>
    if op.maxPriorityFeePerGas ≠ op.maxFeePerGas then
      some (.text "legacy fee mode: maxPriorityFeePerGas must equal maxFeePerGas")
    else none
  | .ok (some bf) =>
    if op.maxFeePerGas < op.maxPriorityFeePerGas then
      some (.text "maxFeePerGas: must be equal to or greater than maxPriorityFeePerGas")
    else if (op.maxFeePerGas : ℤ) < bf then
      some (.text "maxFeePerGas: must be equal to or greater than current block.basefee")
    else none

/-- Modelled from the spec: the effective gas price of an op under the base fee `bf`,
`min(maxFeePerGas, maxPriorityFeePerGas + bf)`, by which `SortByGasPrice` orders and
`FilterUnderpriced` filters the batch (§4.5). -/
def effectiveGasPrice (op : AiOperation) (bf : ℤ) : ℤ :=
  min (op.maxFeePerGas : ℤ) (op.maxPriorityFeePerGas + bf)

/-- Under a base fee, the fee check accepts exactly the ops whose fee cap is at least their
priority fee and at least the base fee. -/
theorem validateFeePerGas_baseFee_eq_none_iff (op : AiOperation) (bf : ℤ) :
    validateFeePerGas op (.ok (some bf)) = none ↔
      op.maxPriorityFeePerGas ≤ op.maxFeePerGas ∧ bf ≤ op.maxFeePerGas := by
  simp only [validateFeePerGas]
  split_ifs <;> simp <;> omega

/-- **What the fee check accepts**: under a base fee `bf`, exactly the ops whose fee cap is at
least their priority fee and at least `bf`, and each of them pays an effective gas price of
at least `bf`, so `FilterUnderpriced` under that base fee keeps it; with no base fee, exactly
the ops whose two fees are equal. -/
theorem validateFeePerGas_eq_none_iff (op : AiOperation) :
    (∀ bf : ℤ, (validateFeePerGas op (.ok (some bf)) = none ↔
        op.maxPriorityFeePerGas ≤ op.maxFeePerGas ∧ bf ≤ op.maxFeePerGas) ∧
      (validateFeePerGas op (.ok (some bf)) = none → bf ≤ effectiveGasPrice op bf)) ∧
    (validateFeePerGas op (.ok none) = none ↔ op.maxPriorityFeePerGas = op.maxFeePerGas) := by
  refine ⟨fun bf => ⟨validateFeePerGas_baseFee_eq_none_iff op bf, fun h => ?_⟩,
    by simp [validateFeePerGas]⟩
  have := (validateFeePerGas_baseFee_eq_none_iff op bf).1 h
  unfold effectiveGasPrice
  omega

/-! ### The paymaster -/

/-- Modelled from the spec: `GetMaxPrefund`, `maxGasAvailable × maxFeePerGas` (§3). -/
def AiOperation.getMaxPrefund (op : AiOperation) : ℕ :=
  op.getMaxGasAvailable * op.maxFeePerGas

/-- `ValidatePaymasterAndData`, with the paymaster's deposit and `GetCodeFunc`. -/
def validatePaymasterAndData (op : AiOperation) (deposit : ℕ)
    (gc : Address → Except GoError (List UInt8)) : Option GoError :=
  if op.paymasterAndData.length = 0 then none
  else if op.paymasterAndData.length < 20 then some (.text "PaymasterAndData: invalid length")
  else
    match gc op.getPaymaster with
    | .error e => some e
    | .ok bytecode =>
      if bytecode.length = 0 then some (.text "paymaster: code not deployed")
      else if deposit < op.getMaxPrefund then
        some (.text "paymaster: not enough deposit to cover max prefund")
      else none

/-- **What the paymaster check accepts**: an op with a non-empty `paymasterAndData` passes
exactly when it is at least twenty bytes long, the code at its paymaster is read and is not
empty, and the deposit covers `(callGasLimit + verificationGasLimit × k +
preVerificationGas) × maxFeePerGas`, where `k` is `3` for a paymaster address other than zero
and `1` for the zero address. -/
theorem validatePaymasterAndData_eq_none_iff (op : AiOperation) (deposit : ℕ)
    (gc : Address → Except GoError (List UInt8)) (h : op.paymasterAndData ≠ []) :
    validatePaymasterAndData op deposit gc = none ↔
      20 ≤ op.paymasterAndData.length ∧
      (∃ code, gc op.getPaymaster = .ok code ∧ code ≠ []) ∧
      (op.callGasLimit + op.verificationGasLimit * (if op.getPaymaster = 0 then 1 else 3) +
        op.preVerificationGas) * op.maxFeePerGas ≤ deposit := by
  have hlen : op.paymasterAndData.length ≠ 0 := by simpa using h
  unfold validatePaymasterAndData
  by_cases h20 : op.paymasterAndData.length < 20
  · simp [hlen, h20]
  · simp only [hlen, h20, if_false, Nat.le_of_not_lt h20, true_and]
    rcases gc op.getPaymaster with e | code
    · simp
    · by_cases hc : code = [] <;>
        simp [hc, AiOperation.getMaxPrefund, AiOperation.getMaxGasAvailable]

end AiopsBundler
