import Mathlib.Algebra.BigOperators.Group.List
import AiopsBundler.AiOp

/-!
# The Gas Overhead Model

`Overhead.CalcPreVerificationGas` (`pkg/gas/overhead.go`) prices the part of an aiOp's gas
the middleware does not meter: the calldata of the op inside the bundle transaction, the
bundle's intrinsic gas shared over `minBundleSize` ops, and a per-op overhead linear in the
op's length in 32-byte words. Before pricing, the op is sanitized: its three gas limits are
replaced by fixed values and every byte of its signature by `0x01`.

## Conventions

* `aiop.Pack` is not part of the sources at hand; `pack` models it from the spec (§4.1): the
  ABI encoding of the op as a tuple, its eleven head words (static fields in place, an offset
  for each byte field) followed by each byte field's length word and zero-padded contents.
* `ToMap` and `aiop.New`, through which the code sanitizes the op, are a lossless JSON round
  trip (§4.1, §6.2), so `sanitize` replaces the four fields directly.
* The Go code computes in `float64`. Every quantity is an integer far below `2^53` for ops
  shorter than `2^48` bytes, where `float64` arithmetic is exact and `math.Round` is the
  identity, so the model computes in `ℕ`; `intrinsicFixed / minBundleSize` is exact for the
  only overhead the code builds, `minBundleSize = 1`.
-/

namespace AiopsBundler

/-- The 32-byte ABI word of `n`. -/
def word (n : ℕ) : List UInt8 := wordBytes 32 n

/-- The zero bytes that pad `n` bytes to a whole number of words. -/
def padLen (n : ℕ) : ℕ := (32 - n % 32) % 32

/-- Padding never shrinks by more than the byte that fills it. -/
theorem padLen_le_succ (n : ℕ) : padLen n ≤ padLen (n + 1) + 1 := by
  unfold padLen; omega

@[simp] theorem word_length (n : ℕ) : (word n).length = 32 := wordBytes_length 32 n

/-- The ABI encoding of a byte field: its length word, its bytes, and zero padding. -/
def encBytes (bs : List UInt8) : List UInt8 :=
  word bs.length ++ bs ++ List.replicate (padLen bs.length) 0

theorem encBytes_length (bs : List UInt8) :
    (encBytes bs).length = 32 + bs.length + padLen bs.length := by
  simp [encBytes, Nat.add_assoc]

/-- Appending a byte never shortens the encoding of a field. -/
theorem encBytes_length_le (bs : List UInt8) (b : UInt8) :
    (encBytes bs).length ≤ (encBytes (bs ++ [b])).length := by
  rw [encBytes_length, encBytes_length, List.length_append, List.length_singleton]
  have := padLen_le_succ bs.length
  omega

/-- Modelled from the spec: `aiop.Pack`, the ABI tuple encoding of the op's fields in the fixed
order (§4.1). The heads of `initCode`, `callData`, `paymasterAndData` and `signature` are
their offsets from the start of the tuple, whose head is eleven words long. -/
def pack (op : AiOperation) : List UInt8 :=
  let o₁ := 32 * 11
  let o₂ := o₁ + (encBytes op.initCode).length
  let o₃ := o₂ + (encBytes op.callData).length
  let o₄ := o₃ + (encBytes op.paymasterAndData).length
  word op.sender.toNat ++ word op.nonce ++ word o₁ ++ word o₂ ++ word op.callGasLimit ++
    word op.verificationGasLimit ++ word op.preVerificationGas ++ word op.maxFeePerGas ++
    word op.maxPriorityFeePerGas ++ word o₃ ++ word o₄ ++
    encBytes op.initCode ++ encBytes op.callData ++ encBytes op.paymasterAndData ++
    encBytes op.signature

/-- The parameters of the overhead model that `CalcPreVerificationGas` reads. -/
structure Overhead where
  intrinsicFixed : ℕ
  perAiOpFixed : ℕ
  perAiOpMultiplier : ℕ
  zeroByte : ℕ
  nonZeroByte : ℕ
  minBundleSize : ℕ
  sanitizedPVG : ℕ
  sanitizedVGL : ℕ
  sanitizedCGL : ℕ
  calcPVGFunc : AiOperation → ℕ → Except GoError (Option ℕ)

namespace Overhead

/-- `NewDefaultOverhead`: the Ethereum protocol's parameters, and no L1 component. -/
def newDefault : Overhead where
  intrinsicFixed := 21000
  perAiOpFixed := 22874
  perAiOpMultiplier := 25
  zeroByte := 4
  nonZeroByte := 16
  minBundleSize := 1
  sanitizedPVG := 100000
  sanitizedVGL := 1000000
  sanitizedCGL := 1000000
  calcPVGFunc := fun _ _ => .ok none

/-- The calldata gas of a byte string: `zeroByte` per zero byte, `nonZeroByte` per other. -/
def bytesCost (ov : Overhead) (bs : List UInt8) : ℕ :=
  bs.foldl (fun cost b => if b = 0 then cost + ov.zeroByte else cost + ov.nonZeroByte) 0

theorem foldl_bytesCost (ov : Overhead) (bs : List UInt8) :
    ∀ c, bs.foldl (fun cost b => if b = 0 then cost + ov.zeroByte else cost + ov.nonZeroByte) c =
      c + ov.bytesCost bs := by
  induction bs with
  | nil => intro c; rfl
  | cons b bs ih =>
    intro c
    unfold bytesCost
    rw [List.foldl_cons, List.foldl_cons, ih, ih]
    split <;> omega

@[simp] theorem bytesCost_nil (ov : Overhead) : ov.bytesCost [] = 0 := rfl

@[simp] theorem bytesCost_cons (ov : Overhead) (b : UInt8) (bs : List UInt8) :
    ov.bytesCost (b :: bs) = (if b = 0 then ov.zeroByte else ov.nonZeroByte) + ov.bytesCost bs := by
  rw [bytesCost, List.foldl_cons, foldl_bytesCost]
  split <;> simp

@[simp] theorem bytesCost_append (ov : Overhead) (as bs : List UInt8) :
    ov.bytesCost (as ++ bs) = ov.bytesCost as + ov.bytesCost bs := by
  unfold bytesCost
  rw [List.foldl_append, foldl_bytesCost]
  rfl

@[simp] theorem bytesCost_replicate_zero (ov : Overhead) (k : ℕ) :
    ov.bytesCost (List.replicate k 0) = k * ov.zeroByte := by
  induction k with
  | zero => simp
  | succ k ih => rw [List.replicate_succ, bytesCost_cons, ih, if_pos rfl, Nat.succ_mul]; omega

/-- `CalcCallDataCost`: the calldata gas of the packed op. -/
def calcCallDataCost (ov : Overhead) (op : AiOperation) : ℕ := ov.bytesCost (pack op)

/-- `CalcPerAiOpCost`: `perAiOpMultiplier` per 32-byte word of the packed op, plus
`perAiOpFixed`. -/
def calcPerAiOpCost (ov : Overhead) (op : AiOperation) : ℕ :=
  ov.perAiOpMultiplier * (((pack op).length + 31) / 32) + ov.perAiOpFixed

/-- The op `CalcPreVerificationGas` prices: fixed gas limits, and a signature of as many
`0x01` bytes as the op's. -/
def sanitize (ov : Overhead) (op : AiOperation) : AiOperation :=
  { op with preVerificationGas := ov.sanitizedPVG, verificationGasLimit := ov.sanitizedVGL,
            callGasLimit := ov.sanitizedCGL,
            signature := List.replicate op.signature.length 1 }

/-- The static PVG of an op: the bundle's intrinsic gas per op, the calldata gas and the
per-op overhead of the sanitized op. -/
def staticPVG (ov : Overhead) (op : AiOperation) : ℕ :=
  let tmp := ov.sanitize op
  ov.intrinsicFixed / ov.minBundleSize + ov.calcCallDataCost tmp + ov.calcPerAiOpCost tmp

/-- `CalcPreVerificationGas`: the value of `calcPVGFunc` on the sanitized op and the static
PVG when it gives one, and the static PVG otherwise. -/
def calcPreVerificationGas (ov : Overhead) (op : AiOperation) : Except GoError ℕ :=
  let static := ov.staticPVG op
  match ov.calcPVGFunc (ov.sanitize op) static with
  | .error e => .error e
  | .ok (some g) => .ok g
  | .ok none => .ok static

/-- The default overhead prices every op at its static PVG. -/
@[simp] theorem newDefault_calcPreVerificationGas (op : AiOperation) :
    newDefault.calcPreVerificationGas op = .ok (newDefault.staticPVG op) := rfl

end Overhead

end AiopsBundler
