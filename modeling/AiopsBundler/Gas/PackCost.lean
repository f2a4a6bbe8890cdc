import Mathlib.Tactic.GCongr
import AiopsBundler.Gas.Overhead

/-!
# How the Static PVG Grows with an Op

The static PVG of an op prices the calldata of its ABI encoding byte by byte, and the
encoding holds, besides the op's bytes and their zero padding, numbers: the eleven head words
(the static fields and the offsets of the four byte fields) and a length word per byte field.
Appending a byte to a field adds to the bytes and to the words of the encoding, but it also
changes that field's length and the offsets of the fields after it, and a number can have
fewer non-zero bytes than the one before it: a length going from `0x1ff` to `0x200` loses a
non-zero byte, and twelve gas.

## Cost convention

`packNumbers` is the part of `pack` that holds numbers and `packData` the part that holds the
fields' bytes and padding; the calldata gas of `pack` is the sum of theirs
(`calcCallDataCost_eq`). Only the first can lose gas when a field grows.

## Main results

* `calcPreVerificationGas_appendByte`: with the default overhead, appending a byte to a field
  never decreases the PVG minus the calldata gas of the number words; so the PVG decreases by
  at most what those words lose.
* `staticPVG_appendByte_callData_zero`: a zero byte that fills call data's padding changes
  the static PVG by exactly what the call data's length word changes.
* `calcPreVerificationGas_appendByte_decreases`: a call data of `0x1ff` zero bytes grown to
  `0x200` lowers the PVG by twelve.
-/

namespace AiopsBundler

/-- The four byte fields of an op. -/
inductive ByteField where
  | initCode
  | callData
  | paymasterAndData
  | signature
  deriving DecidableEq, Repr

/-- The op with the byte `b` appended to the field `f`. -/
def AiOperation.appendByte (op : AiOperation) : ByteField → UInt8 → AiOperation
  | .initCode, b => { op with initCode := op.initCode ++ [b] }
  | .callData, b => { op with callData := op.callData ++ [b] }
  | .paymasterAndData, b => { op with paymasterAndData := op.paymasterAndData ++ [b] }
  | .signature, b => { op with signature := op.signature ++ [b] }

/-- The words of `pack op` that hold numbers: the eleven head words, then the length words of
the four byte fields. -/
def packNumbers (op : AiOperation) : List UInt8 :=
  let o₁ := 32 * 11
  let o₂ := o₁ + (encBytes op.initCode).length
  let o₃ := o₂ + (encBytes op.callData).length
  let o₄ := o₃ + (encBytes op.paymasterAndData).length
  word op.sender.toNat ++ word op.nonce ++ word o₁ ++ word o₂ ++ word op.callGasLimit ++
    word op.verificationGasLimit ++ word op.preVerificationGas ++ word op.maxFeePerGas ++
    word op.maxPriorityFeePerGas ++ word o₃ ++ word o₄ ++
    word op.initCode.length ++ word op.callData.length ++ word op.paymasterAndData.length ++
    word op.signature.length

/-- A byte field as `pack` writes it after its length word: its bytes and zero padding. -/
def padded (bs : List UInt8) : List UInt8 :=
  bs ++ List.replicate (padLen bs.length) 0

/-- The bytes of `pack op` that hold the byte fields, with their padding. -/
def packData (op : AiOperation) : List UInt8 :=
  padded op.initCode ++ padded op.callData ++ padded op.paymasterAndData ++ padded op.signature

/-- The length of `pack`: eleven head words, and each field's encoding. -/
theorem pack_length (op : AiOperation) :
    (pack op).length = 352 + (encBytes op.initCode).length + (encBytes op.callData).length +
      (encBytes op.paymasterAndData).length + (encBytes op.signature).length := by
  simp only [pack, List.length_append, word_length]

/-- A zero byte that fills a field's padding leaves its padded bytes as they were. -/
theorem padded_append_zero {bs : List UInt8} (h : bs.length % 32 ≠ 0) :
    padded (bs ++ [0]) = padded bs := by
  have hpad : padLen bs.length = padLen (bs.length + 1) + 1 := by unfold padLen; omega
  simp only [padded, List.length_append, List.length_singleton, hpad, List.replicate_succ,
    List.append_assoc, List.singleton_append]

/-- A byte that fills a field's padding leaves the length of its encoding as it was. -/
theorem encBytes_length_append {bs : List UInt8} (h : bs.length % 32 ≠ 0) (b : UInt8) :
    (encBytes (bs ++ [b])).length = (encBytes bs).length := by
  rw [encBytes_length, encBytes_length, List.length_append, List.length_singleton]
  unfold padLen; omega

/-- Appending a byte never shortens `pack`. -/
theorem pack_length_le (op : AiOperation) (f : ByteField) (b : UInt8) :
    (pack op).length ≤ (pack (op.appendByte f b)).length := by
  rw [pack_length, pack_length]
  cases f <;> simp only [AiOperation.appendByte] <;> gcongr <;> exact encBytes_length_le _ b

namespace Overhead

variable (ov : Overhead)

/-- **The calldata gas of `pack` splits** into the gas of its number words and that of its
bytes. -/
theorem bytesCost_pack (op : AiOperation) :
    ov.bytesCost (pack op) = ov.bytesCost (packNumbers op) + ov.bytesCost (packData op) := by
  simp only [pack, packNumbers, packData, padded, encBytes, bytesCost_append]
  omega

/-- The static PVG: the bundle's intrinsic gas per op, the gas of the number words and of the
bytes of the sanitized op's encoding, and its per-op overhead. -/
theorem staticPVG_eq (op : AiOperation) :
    ov.staticPVG op = ov.intrinsicFixed / ov.minBundleSize +
      ov.bytesCost (packNumbers (ov.sanitize op)) + ov.bytesCost (packData (ov.sanitize op)) +
      ov.calcPerAiOpCost (ov.sanitize op) := by
  simp only [staticPVG, calcCallDataCost, bytesCost_pack]
  omega

@[simp] theorem sanitize_callData (op : AiOperation) : (ov.sanitize op).callData = op.callData :=
  rfl

/-- Sanitizing commutes with appending a byte; a signature byte is sanitized to `0x01`. -/
theorem sanitize_appendByte (op : AiOperation) (f : ByteField) (b : UInt8) :
    ov.sanitize (op.appendByte f b) =
      (ov.sanitize op).appendByte f (if f = .signature then 1 else b) := by
  cases f <;> simp [sanitize, AiOperation.appendByte, List.replicate_succ']

/-- Appending a byte to a field never lowers the gas of its bytes and padding, when a zero
byte costs no more than another. -/
theorem bytesCost_padded_le (h : ov.zeroByte ≤ ov.nonZeroByte) (bs : List UInt8) (b : UInt8) :
    ov.bytesCost (padded bs) ≤ ov.bytesCost (padded (bs ++ [b])) := by
  have hb : ov.zeroByte ≤ ov.bytesCost [b] := by
    simp only [bytesCost_cons, bytesCost_nil, Nat.add_zero]
    split <;> omega
  have hpad := Nat.mul_le_mul_right ov.zeroByte (padLen_le_succ bs.length)
  rw [Nat.succ_mul] at hpad
  simp only [padded, bytesCost_append, bytesCost_replicate_zero, List.length_append,
    List.length_singleton]
  omega

theorem bytesCost_packData_le (h : ov.zeroByte ≤ ov.nonZeroByte) (op : AiOperation)
    (f : ByteField) (b : UInt8) :
    ov.bytesCost (packData op) ≤ ov.bytesCost (packData (op.appendByte f b)) := by
  cases f <;> simp only [packData, AiOperation.appendByte, bytesCost_append] <;> gcongr <;>
    exact ov.bytesCost_padded_le h _ b

theorem calcPerAiOpCost_le_of_length_le {op op' : AiOperation}
    (h : (pack op).length ≤ (pack op').length) :
    ov.calcPerAiOpCost op ≤ ov.calcPerAiOpCost op' := by
  unfold calcPerAiOpCost
  gcongr

/-- **Filling call data's padding with a zero byte** changes the static PVG by exactly the
change in the gas of the call data's length word: the offsets, the bytes and the length of
the encoding stay as they were. -/
theorem staticPVG_appendByte_callData_zero (op : AiOperation) (h : op.callData.length % 32 ≠ 0) :
    ov.staticPVG (op.appendByte .callData 0) + ov.bytesCost (word op.callData.length) =
      ov.staticPVG op + ov.bytesCost (word (op.callData.length + 1)) := by
  have henc := encBytes_length_append h 0
  rw [staticPVG_eq, staticPVG_eq, sanitize_appendByte, if_neg (by decide), calcPerAiOpCost,
    calcPerAiOpCost, pack_length, pack_length]
  simp only [packNumbers, packData, AiOperation.appendByte, bytesCost_append, sanitize_callData,
    padded_append_zero h, henc, List.length_append, List.length_singleton]
  omega

end Overhead

/-- **The PVG outside the number words never decreases**: with the default overhead,
appending a byte to any byte field of any op adds at least as much to the PVG as the
calldata gas of the encoding's number words (lengths and offsets) loses. -/
theorem calcPreVerificationGas_appendByte (op : AiOperation) (f : ByteField) (b : UInt8) :
    ∃ g g', Overhead.newDefault.calcPreVerificationGas op = .ok g ∧
      Overhead.newDefault.calcPreVerificationGas (op.appendByte f b) = .ok g' ∧
      g + Overhead.newDefault.bytesCost (packNumbers (Overhead.newDefault.sanitize (op.appendByte f b))) ≤
        g' + Overhead.newDefault.bytesCost (packNumbers (Overhead.newDefault.sanitize op)) := by
  refine ⟨_, _, rfl, rfl, ?_⟩
  have hz : Overhead.newDefault.zeroByte ≤ Overhead.newDefault.nonZeroByte := by decide
  have hdata := Overhead.newDefault.bytesCost_packData_le hz (Overhead.newDefault.sanitize op) f
    (if f = .signature then 1 else b)
  have hwords := Overhead.newDefault.calcPerAiOpCost_le_of_length_le
    (pack_length_le (Overhead.newDefault.sanitize op) f (if f = .signature then 1 else b))
  rw [Overhead.staticPVG_eq, Overhead.staticPVG_eq, Overhead.sanitize_appendByte]
  omega

/-- **Appending a byte can lower the PVG**: `0x1ff` zero bytes of call data need a non-zero
byte in their length word's last two bytes, `0x200` do not, and the padding absorbs the new
byte. -/
theorem calcPreVerificationGas_appendByte_decreases :
    let op : AiOperation := ⟨0, 0, [], List.replicate 511 0, 0, 0, 0, 0, 0, [], []⟩
    ∃ g, Overhead.newDefault.calcPreVerificationGas op = .ok (g + 12) ∧
      Overhead.newDefault.calcPreVerificationGas (op.appendByte .callData 0) = .ok g := by
  intro op
  have hframe := Overhead.newDefault.staticPVG_appendByte_callData_zero op
    (by rw [List.length_replicate]; decide)
  have hword : Overhead.newDefault.bytesCost (word 511) =
      Overhead.newDefault.bytesCost (word 512) + 12 := by decide
  simp only [List.length_replicate, Nat.reduceAdd] at hframe
  refine ⟨_, congrArg Except.ok ?_, rfl⟩
  omega

end AiopsBundler
