import AiopsBundler.Checks.OpValues

/-!
# The L1 Component of the Pre-Verification Gas on Optimism

`CalcOptimismPVGWithEthClient` (`pkg/gas/pvg.go`) is a `CalcPreVerificationGasFunc` for
Optimism chains. It packs the op into a `handleOps` transaction for the current head. It then
asks the gas price oracle for the transaction's L1 fee, and adds to the static PVG the gas
that pays that fee at the op's L2 price: `static + l1Fee / l2Price`. The L2 price is the op's
fee cap, or its priority fee plus the head's base fee when that is lower.

## Conventions

* The RPC calls (the head, the tip, the oracle's `getL1Fee`) are their answers: the head's
  base fee and the L1 fee, in `ℕ`. Their errors are returned as they are and left out here.
* `big.Int.Div` panics on a zero divisor; `optimismPVG` is `none` there.

## Main results

* `optimismPVG_covers_l1Fee`: for an op the fee check accepts under a positive base fee, on
  the same head the PVG never panics. Its L1 buffer, paid at the op's L2 price, covers the
  L1 fee to within one L2 price, and that price is at least the base fee.
-/

namespace AiopsBundler

/-- The `l2price` of `CalcOptimismPVGWithEthClient`: `maxPriorityFeePerGas + baseFee` when it
is below `maxFeePerGas`, and `maxFeePerGas` otherwise. -/
def optimismL2Price (op : AiOperation) (baseFee : ℕ) : ℕ :=
  if op.maxPriorityFeePerGas + baseFee < op.maxFeePerGas then op.maxPriorityFeePerGas + baseFee
  else op.maxFeePerGas

/-- The value `CalcOptimismPVGWithEthClient` returns for the head's base fee and the L1 fee:
`static + l1Fee / l2price`, and `none` where the division panics. -/
def optimismPVG (op : AiOperation) (baseFee l1Fee static : ℕ) : Option ℕ :=
  if optimismL2Price op baseFee = 0 then none
  else some (static + l1Fee / optimismL2Price op baseFee)

/-- **The L1 buffer pays the L1 fee**: for an op that `ValidateFeePerGas` accepts under a
positive base fee, `CalcOptimismPVGWithEthClient` on a head of that base fee never panics. It
returns the static PVG plus a buffer that, paid at the op's L2 price, covers the L1 fee to
within one L2 price, and the L2 price is at least the base fee. -/
theorem optimismPVG_covers_l1Fee (op : AiOperation) {baseFee : ℕ} (l1Fee static : ℕ)
    (hbf : 0 < baseFee) (hfee : validateFeePerGas op (.ok (some baseFee)) = none) :
    ∃ buffer, optimismPVG op baseFee l1Fee static = some (static + buffer) ∧
      buffer * optimismL2Price op baseFee ≤ l1Fee ∧
      l1Fee < (buffer + 1) * optimismL2Price op baseFee ∧
      baseFee ≤ optimismL2Price op baseFee := by
  have hfee := (validateFeePerGas_baseFee_eq_none_iff op baseFee).1 hfee
  have hprice : baseFee ≤ optimismL2Price op baseFee := by
    unfold optimismL2Price
    split_ifs <;> omega
  have hpos : 0 < optimismL2Price op baseFee := by omega
  refine ⟨l1Fee / optimismL2Price op baseFee, by simp [optimismPVG, hpos.ne'], ?_, ?_, hprice⟩
  · exact Nat.div_mul_le_self _ _
  · rw [Nat.add_one_mul]
    exact Nat.lt_div_mul_add hpos

/-- An op of fee cap `10` and priority fee `2` on a head of base fee `3`, with an L1 fee of
`17`: the L2 price is `5`, and the buffer `3`. -/
theorem optimismPVG_covers_l1Fee_base_fee_three :
    let op : AiOperation := ⟨1, 0, [], [], 0, 0, 0, 10, 2, [], []⟩
    0 < 3 ∧ validateFeePerGas op (.ok (some 3)) = none ∧
    ∃ buffer, optimismPVG op 3 17 100 = some (100 + buffer) ∧
      buffer * optimismL2Price op 3 ≤ 17 ∧ 17 < (buffer + 1) * optimismL2Price op 3 ∧
      3 ≤ optimismL2Price op 3 := by
  intro op
  exact ⟨by decide, rfl, optimismPVG_covers_l1Fee op 17 100 (by decide) rfl⟩

end AiopsBundler
