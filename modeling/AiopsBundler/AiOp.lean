import Mathlib.Data.List.Basic
import Mathlib.Algebra.Group.Nat.Basic

/-!
# AiOperations, Addresses, and Go Errors

This module fixes the data every other module of the development reads: the 20-byte
`Address`, the `AiOperation` record of `pkg/aiop`, the derived getters the pipelines call
(`getFactory`, `getPaymaster`, `getMaxGasAvailable`), and a model of the Go `error` values
the handlers return.

## Conventions

* Go's `*big.Int` fields of an aiOp are non-negative on the wire (hex-encoded `uint256`),
  so they are `ℕ`; byte strings are `List UInt8`. Arithmetic the code does on `*big.Int`
  where a sign can appear is done in `ℤ` by the modules that do it.
* `common.HexToAddress("0x")`, the zero address, is `0`.
* The package `pkg/aiop` is not part of the sources at hand: its getters are modelled from
  the spec's data model (§3), and say so in their docstrings.
* A Go `error` is `Option GoError`, `none` being `nil`. `errors.Join` drops `nil`
  arguments and is `nil` when all are; `fmt.Errorf` with `%w` verbs wraps its `%w`
  arguments; `errors.Is` follows both kinds of wrapping (`GoError.Is`).
-/

namespace AiopsBundler

/-- An Ethereum address, `common.Address`: 20 bytes, read big-endian. -/
abbrev Address := BitVec 160

/-- An address as `0x` and forty lowercase hex digits. Go's `Address.Hex` also sets the case
of the letters as an EIP-55 checksum, which no property of the model reads. -/
def addressHex (a : Address) : String :=
  let digits := Nat.toDigits 16 a.toNat
  "0x" ++ String.mk (List.replicate (40 - digits.length) '0' ++ digits)

/-- The big-endian value of a byte string. -/
def bytesValue (bs : List UInt8) : ℕ :=
  bs.foldl (fun acc b => acc * 256 + b.toNat) 0

/-- `common.BytesToAddress`: the address whose bytes are the last 20 bytes of `bs`. -/
def bytesToAddress (bs : List UInt8) : Address :=
  BitVec.ofNat 160 (bytesValue bs)

/-- The `k` low bytes of `n`, big-endian. -/
def wordBytes : ℕ → ℕ → List UInt8
  | 0, _ => []
  | k + 1, n => wordBytes k (n / 256) ++ [UInt8.ofNat (n % 256)]

@[simp] theorem wordBytes_length (k n : ℕ) : (wordBytes k n).length = k := by
  induction k generalizing n with
  | zero => rfl
  | succ k ih => simp [wordBytes, ih]

/-- The low `k + m` bytes of `n` are the low `k` bytes of its part above `m` bytes, then its
low `m` bytes. -/
theorem wordBytes_add (k m n : ℕ) :
    wordBytes (k + m) n = wordBytes k (n / 256 ^ m) ++ wordBytes m n := by
  induction m generalizing n with
  | zero => simp [wordBytes]
  | succ m ih =>
    rw [← Nat.add_assoc, wordBytes, ih, wordBytes, Nat.div_div_eq_div_mul, ← Nat.pow_succ',
      List.append_assoc]

theorem wordBytes_zero (k : ℕ) : wordBytes k 0 = List.replicate k 0 := by
  induction k with
  | zero => rfl
  | succ k ih => rw [wordBytes, Nat.zero_div, ih, List.replicate_succ']; rfl

/-- The **aiOperation** record of `pkg/aiop`, field for field in the fixed packing order of
the spec (§4.1). -/
structure AiOperation where
  sender : Address
  nonce : ℕ
  initCode : List UInt8
  callData : List UInt8
  callGasLimit : ℕ
  verificationGasLimit : ℕ
  preVerificationGas : ℕ
  maxFeePerGas : ℕ
  maxPriorityFeePerGas : ℕ
  paymasterAndData : List UInt8
  signature : List UInt8
  deriving DecidableEq, Repr

namespace AiOperation

/-- Modelled from the spec: `GetFactory`, the first 20 bytes of `initCode` when it holds
that many, and the zero address otherwise (§3). -/
def getFactory (op : AiOperation) : Address :=
  if op.initCode.length < 20 then 0 else bytesToAddress (op.initCode.take 20)

/-- Modelled from the spec: `GetPaymaster`, the first 20 bytes of `paymasterAndData` when
it holds that many, and the zero address otherwise (§3). -/
def getPaymaster (op : AiOperation) : Address :=
  if op.paymasterAndData.length < 20 then 0 else bytesToAddress (op.paymasterAndData.take 20)

/-- Modelled from the spec: `GetMaxGasAvailable`, `callGasLimit + verificationGasLimit ×
(paymaster ? 3 : 1) + preVerificationGas` (§3). -/
def getMaxGasAvailable (op : AiOperation) : ℕ :=
  let mul := if op.getPaymaster = 0 then 1 else 3
  op.callGasLimit + op.verificationGasLimit * mul + op.preVerificationGas

end AiOperation

/-- A Go `error` value, as the bundler's code builds them. -/
inductive GoError where
  /-- A sentinel made once by `errors.New` and compared by identity, such as
  `ErrFlashbotsBroadcastBundle`. -/
  | sentinel (name : String)
  /-- An error carrying a message and wrapping nothing. -/
  | text (msg : String)
  /-- `errors.Join`: its non-nil arguments, in order. -/
  | join (errs : List GoError)
  /-- `fmt.Errorf` with `%w` verbs: the format, and the wrapped non-nil arguments. -/
  | wrap (format : String) (errs : List GoError)
  /-- `errors.NewRPCError(code, message, nil)`: a JSON-RPC error with its numeric code. -/
  | rpc (code : ℤ) (msg : String)
  deriving Repr

/-- The Go runtime's nil-pointer panic, for a `nil` `*big.Int` fed to its arithmetic. The
model ends the call that panics with it as an error: nothing after the call runs. -/
def nilDereference : GoError :=
  .text "runtime error: invalid memory address or nil pointer dereference"

/-- `errors.Join(errs...)`: `nil` when every argument is `nil`, and otherwise the join of
the non-nil ones. -/
def goJoin (errs : List (Option GoError)) : Option GoError :=
  match errs.reduceOption with
  | [] => none
  | es => some (.join es)

/-- `errors.Is(err, target)`, for targets compared by identity: `err` is `target`, or
something `err` wraps is. -/
inductive GoError.Is : GoError → GoError → Prop
  | refl (e : GoError) : GoError.Is e e
  | join {errs : List GoError} {e t : GoError} :
      e ∈ errs → GoError.Is e t → GoError.Is (.join errs) t
  | wrap {format : String} {errs : List GoError} {e t : GoError} :
      e ∈ errs → GoError.Is e t → GoError.Is (.wrap format errs) t

@[simp]
theorem goJoin_nil : goJoin [] = none := rfl

/-- Joining a `nil` accumulator with one error wraps just that error. -/
@[simp]
theorem goJoin_none_some (e : GoError) : goJoin [none, some e] = some (.join [e]) := rfl

/-- Joining two errors keeps both, in order. -/
@[simp]
theorem goJoin_some_some (a e : GoError) :
    goJoin [some a, some e] = some (.join [a, e]) := rfl

end AiopsBundler
