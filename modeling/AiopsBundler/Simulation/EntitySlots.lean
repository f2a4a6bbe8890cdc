import AiopsBundler.Simulation.StorageSlots

/-!
# The Slots Associated with an Entity

`newStorageSlotsByEntity` (`pkg/aimiddleware/simulation/storageslots.go`) collects, for every
non-zero address of the stakes map, the keccak hashes of the pre-images the tracer saw that
begin with that address; `isAssociatedWith` then takes a slot to be the entity's when it lies
at most `associatedSlotOffset` above one of them. Both work on text: a pre-image is tested
with `strings.HasPrefix` against the `hexutil` encoding of the address padded to a word, and
the hashes are written in hexadecimal and parsed back with `big.Int.SetString`.

This module reads both at the level of bytes and numbers. On lowercase text the string test
is a test on the bytes the pre-image spells (`hexChars_prefix_iff`), and a hash `hexutil`
wrote parses back to its value (`setString0_hexEncode`).

## Conventions

* A pre-image is lowercase `0x`-prefixed hexadecimal (`IsLowerHex`), and the bytes it spells
  are those `common.Hex2Bytes` decodes after the prefix.
* `Keccak256` is a parameter; it returns at least one byte (it returns 32).

## Main results

* `isAssociatedWith_newStorageSlotsByEntity`: on a slot that parses, `isAssociatedWith` never
  panics, and finds the slot associated with a non-zero staked address exactly when some
  pre-image begins with the address's 32-byte word and hashes to a value at most the slot
  and at least the slot less 128.
-/

namespace AiopsBundler

/-! ### Hexadecimal text -/

/-- The digits `hexutil` writes. -/
def lowerHexDigits : List Char := "0123456789abcdef".toList

/-- `k` is lowercase `0x`-prefixed hexadecimal. -/
def IsLowerHex (k : String) : Prop :=
  k.toList.take 2 = ['0', 'x'] ∧ ∀ c ∈ k.toList.drop 2, c ∈ lowerHexDigits

instance : DecidablePred IsLowerHex := fun _ => inferInstanceAs (Decidable (_ ∧ _))

/-- The digits `hexEncode` writes after `0x`: two per byte, high half first. -/
def hexChars (bs : List UInt8) : List Char :=
  bs.flatMap fun b => [Nat.digitChar (b.toNat / 16), Nat.digitChar (b.toNat % 16)]

theorem hexEncode_toList (bs : List UInt8) :
    (hexEncode bs).toList = '0' :: 'x' :: hexChars bs :=
  rfl

@[simp] theorem hexChars_cons (b : UInt8) (bs : List UInt8) :
    hexChars (b :: bs) =
      Nat.digitChar (b.toNat / 16) :: Nat.digitChar (b.toNat % 16) :: hexChars bs :=
  rfl

theorem hexChars_append (bs bs' : List UInt8) :
    hexChars (bs ++ bs') = hexChars bs ++ hexChars bs' :=
  List.flatMap_append _ _ _

/-- Each of the sixteen digits reads back as its value. -/
theorem hexDigit_digitChar {n : ℕ} (h : n < 16) : hexDigit (Nat.digitChar n) = some n := by
  have hall : ∀ n < 16, hexDigit (Nat.digitChar n) = some n := by decide
  exact hall n h

/-- A lowercase digit is the one its value is written as. -/
theorem digitChar_of_hexDigit {c : Char} (hc : c ∈ lowerHexDigits) {x : ℕ}
    (hx : hexDigit c = some x) : x < 16 ∧ Nat.digitChar x = c := by
  have hall : ∀ c ∈ lowerHexDigits,
      ∃ x < 16, hexDigit c = some x ∧ Nat.digitChar x = c := by
    decide
  obtain ⟨y, hy, hcy, hyc⟩ := hall c hc
  rw [hcy] at hx
  cases hx
  exact ⟨hy, hyc⟩

/-- `Hex2Bytes` reads a pair of digits as one byte. -/
theorem hex2Bytes_cons_cons {a b : Char} {x y : ℕ} (hx : hexDigit a = some x)
    (hy : hexDigit b = some y) (rest : List Char) :
    hex2Bytes (a :: b :: rest) = UInt8.ofNat (16 * x + y) :: hex2Bytes rest := by
  simp only [hex2Bytes, hx, hy]

theorem ofNat_halves (b : UInt8) : UInt8.ofNat (16 * (b.toNat / 16) + b.toNat % 16) = b := by
  rw [show 16 * (b.toNat / 16) + b.toNat % 16 = b.toNat by omega]
  exact UInt8.toNat.inj (UInt8.toNat_ofNat_of_lt b.toNat_lt_size)

/-- **Decoding undoes encoding**: `Hex2Bytes` reads the digits of `bs` back as `bs`, whatever
text follows them. -/
theorem hex2Bytes_hexChars_append (bs : List UInt8) (rest : List Char) :
    hex2Bytes (hexChars bs ++ rest) = bs ++ hex2Bytes rest := by
  induction bs with
  | nil => rfl
  | cons b bs ih =>
    have hb : b.toNat < 256 := b.toNat_lt_size
    rw [hexChars_cons, List.cons_append, List.cons_append,
      hex2Bytes_cons_cons (hexDigit_digitChar (show b.toNat / 16 < 16 by omega))
        (hexDigit_digitChar (show b.toNat % 16 < 16 by omega)), ofNat_halves, ih]
    rfl

/-- **On lowercase digits, encoding undoes decoding**, up to what `Hex2Bytes` leaves unread: the
digits of the bytes it reads begin the text. -/
theorem hexChars_hex2Bytes_isPrefix :
    ∀ {ds : List Char}, (∀ c ∈ ds, c ∈ lowerHexDigits) → hexChars (hex2Bytes ds) <+: ds
  | [], _ => List.nil_prefix
  | [_], _ => List.nil_prefix
  | a :: a' :: rest, h => by
    simp only [hex2Bytes]
    split
    · rename_i x y hx hy
      obtain ⟨hx16, rfl⟩ := digitChar_of_hexDigit (h a (List.mem_cons_self _ _)) hx
      obtain ⟨hy16, rfl⟩ :=
        digitChar_of_hexDigit (h _ (List.mem_cons_of_mem _ (List.mem_cons_self _ _))) hy
      have hn : (UInt8.ofNat (16 * x + y)).toNat = 16 * x + y :=
        UInt8.toNat_ofNat_of_lt (by simp only [UInt8.size]; omega)
      rw [hexChars_cons, hn, show (16 * x + y) / 16 = x by omega,
        show (16 * x + y) % 16 = y by omega]
      exact (List.prefix_cons_inj _).2 ((List.prefix_cons_inj _).2
        (hexChars_hex2Bytes_isPrefix fun c hc => h c (by simp [hc])))
    · exact List.nil_prefix

/-- **The string test is the byte test**: on lowercase digits, the digits of `w` begin `ds`
exactly when `w` begins the bytes `ds` spells. -/
theorem hexChars_prefix_iff {ds : List Char} (hds : ∀ c ∈ ds, c ∈ lowerHexDigits)
    (w : List UInt8) : hexChars w <+: ds ↔ w <+: hex2Bytes ds := by
  constructor
  · rintro ⟨rest, rfl⟩
    rw [hex2Bytes_hexChars_append]
    exact List.prefix_append _ _
  · rintro ⟨rest, hrest⟩
    have h := hexChars_hex2Bytes_isPrefix hds
    rw [← hrest, hexChars_append] at h
    exact (List.prefix_append _ _).trans h

/-- `big.Int`'s scanner reads each of the sixteen digits as its value. -/
theorem digitValue_digitChar {n : ℕ} (h : n < 16) :
    Nat.digitChar n ≠ '_' ∧ digitValue (Nat.digitChar n) = n := by
  have hall : ∀ n < 16, Nat.digitChar n ≠ '_' ∧ digitValue (Nat.digitChar n) = n := by decide
  exact hall n h

/-- A turn of the digit loop on a digit of the base. -/
theorem scanDigits_digit {b : ℕ} {c : Char} (hc : c ≠ '_') (hb : digitValue c < b)
    (st : ScanState) (cs : List Char) :
    scanDigits b st (c :: cs) =
      scanDigits b ⟨st.value * b + digitValue c, st.count + 1, '0', st.invalSep⟩ cs := by
  simp only [scanDigits, hc, hb, if_false, if_true]

/-- **The digit loop reads the digits of `bs` to the end**, appending `bs` to the value byte by
byte, two digits a byte. -/
theorem scanDigits_hexChars (bs : List UInt8) (st : ScanState) :
    scanDigits 16 st (hexChars bs) =
      (⟨bs.foldl (fun acc b => acc * 256 + b.toNat) st.value, st.count + 2 * bs.length,
        if bs = [] then st.prev else '0', st.invalSep⟩, []) := by
  induction bs generalizing st with
  | nil => rfl
  | cons b bs ih =>
    have hb : b.toNat < 256 := b.toNat_lt_size
    obtain ⟨hhi, hhiv⟩ := digitValue_digitChar (show b.toNat / 16 < 16 by omega)
    obtain ⟨hlo, hlov⟩ := digitValue_digitChar (show b.toNat % 16 < 16 by omega)
    rw [hexChars_cons, scanDigits_digit hhi (by omega), scanDigits_digit hlo (by omega), ih,
      hhiv, hlov, show (st.value * 16 + b.toNat / 16) * 16 + b.toNat % 16 =
        st.value * 256 + b.toNat by omega]
    simp only [List.foldl_cons, List.length_cons, List.cons_ne_nil, ite_self, if_false,
      Prod.mk.injEq, ScanState.mk.injEq, and_true, true_and]
    omega

/-- **A hash `hexutil` wrote parses back to its value.** -/
theorem setString0_hexEncode {bs : List UInt8} (h : bs ≠ []) :
    setString0 (hexEncode bs) = some (bytesValue bs : ℤ) := by
  have hnat : natScan0 ('0' :: 'x' :: hexChars bs) = some (bytesValue bs, []) := by
    rw [natScan0, if_neg (by decide), if_neg (by decide), if_pos (by decide),
      scanDigits_hexChars]
    have hlen : 2 * bs.length ≠ 0 := by have := List.length_pos.2 h; omega
    simp [scanEnd, h, hlen, bytesValue]
  simp only [setString0, hexEncode_toList]
  simp [hnat]

/-- The text `addrPadded` writes is `0x`, then the digits of the address's 32-byte word. -/
theorem addrPadded_toList (addr : Address) :
    (addrPadded addr).toList = '0' :: 'x' :: hexChars (wordBytes 32 addr.toNat) := by
  have hlt : addr.toNat < 256 ^ 20 := addr.isLt
  rw [addrPadded, hexEncode_toList, show 32 = 12 + 20 from rfl, wordBytes_add,
    Nat.div_eq_of_lt hlt, wordBytes_zero]

/-- **`strings.HasPrefix` against the padded address is a test on bytes**: a lowercase
pre-image begins with the text of the address's word exactly when the bytes it spells begin
with that word. -/
theorem addrPadded_isPrefixOf_iff {k : String} (hk : IsLowerHex k) (addr : Address) :
    (addrPadded addr).toList.isPrefixOf k.toList = true ↔
      wordBytes 32 addr.toNat <+: hex2Bytes (k.toList.drop 2) := by
  obtain ⟨h0x, hds⟩ := hk
  have hk : k.toList = '0' :: 'x' :: k.toList.drop 2 := by
    rw [← List.take_append_drop 2 k.toList, h0x]
    rfl
  rw [List.isPrefixOf_iff_prefix, addrPadded_toList, hk, List.prefix_cons_inj,
    List.prefix_cons_inj]
  exact hexChars_prefix_iff hds _

/-! ### The slots of an entity -/

/-- One turn of the loop over `stakes`, at `addr`, read at `A`: the value joins the slots of
`A` when `A` is `addr`, is not zero, and passes the test. -/
theorem mem_stakes_step (test : Address → Bool) (value : String) (A addr : Address) (v : String)
    (slots : Address → List String) :
    v ∈ (if addr = 0 then slots
      else if test addr then Function.update slots addr ((slots addr).insert value)
      else slots) A ↔
      v ∈ slots A ∨ (A = addr ∧ A ≠ 0 ∧ test A = true ∧ v = value) := by
  by_cases hA : A = addr
  · subst hA
    split_ifs with h0 ht
    · simp [h0]
    · simp only [Function.update_same, List.mem_insert_iff, ne_eq, h0, not_false_eq_true, ht,
        true_and, or_comm]
    · simp [ht]
  · split_ifs <;> simp [Function.update_noteq hA, hA]

/-- The loop over `stakes`, read at `A`: the value joins the slots of `A` when `A` is a non-zero
address of `stakes` that passes the test. -/
theorem mem_foldl_stakes (test : Address → Bool) (value : String) (A : Address) (v : String) :
    ∀ (stakes : List Address) (slots : Address → List String),
      v ∈ (stakes.foldl (fun slots addr =>
        if addr = 0 then slots
        else if test addr then Function.update slots addr ((slots addr).insert value)
        else slots) slots) A ↔
        v ∈ slots A ∨ (A ∈ stakes ∧ A ≠ 0 ∧ test A = true ∧ v = value)
  | [], slots => by simp
  | addr :: stakes, slots => by
    rw [List.foldl_cons, mem_foldl_stakes test value A v stakes, mem_stakes_step, List.mem_cons,
      or_assoc, ← or_and_right]

/-- The loop over the pre-images, read at a non-zero address `A` of `stakes`: the value of a
pre-image joins the slots of `A` when the pre-image passes the test at `A`. -/
theorem mem_foldl_keccak (test : String → Address → Bool) (value : String → String)
    {stakes : List Address} {A : Address} (hA : A ∈ stakes) (hA0 : A ≠ 0) (v : String) :
    ∀ (keccak : List String) (slots : Address → List String),
      v ∈ (keccak.foldl (fun slots k =>
        stakes.foldl (fun slots addr =>
          if addr = 0 then slots
          else if test k addr then Function.update slots addr ((slots addr).insert (value k))
          else slots) slots) slots) A ↔
        v ∈ slots A ∨ ∃ k ∈ keccak, test k A = true ∧ v = value k
  | [], slots => by simp
  | k :: keccak, slots => by
    rw [List.foldl_cons, mem_foldl_keccak test value hA hA0 v keccak, mem_foldl_stakes]
    simp only [hA, hA0, ne_eq, not_false_eq_true, true_and, List.exists_mem_cons_iff, or_assoc]

/-- **The slots of a non-zero staked address** are the hashes of the pre-images that begin
with its padded text. -/
theorem mem_newStorageSlotsByEntity (keccak256 : List UInt8 → List UInt8)
    {stakes : List Address} (keccak : List String) {A : Address} (hA : A ∈ stakes)
    (hA0 : A ≠ 0) (v : String) :
    v ∈ newStorageSlotsByEntity keccak256 stakes keccak A ↔
      ∃ k ∈ keccak, (addrPadded A).toList.isPrefixOf k.toList = true ∧
        v = hexEncode (keccak256 (hex2Bytes (k.toList.drop 2))) :=
  (mem_foldl_keccak (fun k addr => (addrPadded addr).toList.isPrefixOf k.toList)
    (fun k => hexEncode (keccak256 (hex2Bytes (k.toList.drop 2)))) hA hA0 v keccak
    fun _ => []).trans (or_iff_right (List.not_mem_nil v))

/-- **On slots that all parse, `isAssociatedWith` never panics**: it answers whether one of the
entity's slots lies at most `associatedSlotOffset` below the slot, both read as numbers. -/
theorem isAssociatedWith_eq_some (slots : List String) {s : String} {sv : ℤ}
    (hs : setString0 s = some sv) (hslots : ∀ e ∈ slots, (setString0 e).isSome) :
    ∃ b, isAssociatedWith slots s = some b ∧
      (b = true ↔ ∃ e ∈ slots, ∃ ev, setString0 e = some ev ∧ ev ≤ sv ∧
        sv ≤ ev + associatedSlotOffset) := by
  induction slots with
  | nil => exact ⟨false, rfl, by simp⟩
  | cons e slots ih =>
    obtain ⟨ev, hev⟩ := Option.isSome_iff_exists.1 (hslots e (List.mem_cons_self _ _))
    rw [List.exists_mem_cons_iff]
    simp only [isAssociatedWith, hs, hev]
    split_ifs with hin
    · exact ⟨true, rfl, iff_of_true rfl (.inl ⟨ev, rfl, hin⟩)⟩
    · obtain ⟨b, hb, hiff⟩ := ih fun e' he' => hslots e' (List.mem_cons_of_mem _ he')
      refine ⟨b, hb, hiff.trans (or_iff_right ?_).symm⟩
      rintro ⟨ev', hev', hin'⟩
      cases hev'
      exact hin hin'

/-- `keccak(k)`: the Keccak-256 of the bytes the pre-image `k` spells, as a number. -/
def preimageKeccak (keccak256 : List UInt8 → List UInt8) (k : String) : ℤ :=
  bytesValue (keccak256 (hex2Bytes (k.toList.drop 2)))

/-- **The slots associated with a staked entity**: for lowercase pre-images and a `Keccak256`
that returns bytes, `isAssociatedWith` never panics on a slot that parses, and finds it
associated with a non-zero address of the stakes map exactly when some pre-image begins with
the address's 32-byte word and its hash is at most the slot and at least the slot less 128,
bounds included. -/
theorem isAssociatedWith_newStorageSlotsByEntity (keccak256 : List UInt8 → List UInt8)
    (hkeccak : ∀ bs, keccak256 bs ≠ []) (stakes : List Address) (keccak : List String)
    (hK : ∀ k ∈ keccak, IsLowerHex k) {A : Address} (hA : A ∈ stakes) (hA0 : A ≠ 0)
    {s : String} {sv : ℤ} (hs : setString0 s = some sv) :
    ∃ b, isAssociatedWith (newStorageSlotsByEntity keccak256 stakes keccak A) s = some b ∧
      (b = true ↔ ∃ k ∈ keccak, wordBytes 32 A.toNat <+: hex2Bytes (k.toList.drop 2) ∧
        preimageKeccak keccak256 k ≤ sv ∧ sv ≤ preimageKeccak keccak256 k + 128) := by
  have hmem := mem_newStorageSlotsByEntity keccak256 keccak hA hA0
  have hslots : ∀ e ∈ newStorageSlotsByEntity keccak256 stakes keccak A,
      (setString0 e).isSome := by
    intro e he
    obtain ⟨k, -, -, rfl⟩ := (hmem e).1 he
    rw [setString0_hexEncode (hkeccak _)]
    rfl
  obtain ⟨b, hb, hiff⟩ := isAssociatedWith_eq_some _ hs hslots
  refine ⟨b, hb, hiff.trans ⟨?_, ?_⟩⟩
  · rintro ⟨e, he, ev, hev, hlo, hhi⟩
    obtain ⟨k, hk, hpre, rfl⟩ := (hmem e).1 he
    rw [setString0_hexEncode (hkeccak _)] at hev
    cases hev
    exact ⟨k, hk, (addrPadded_isPrefixOf_iff (hK k hk) A).1 hpre, hlo, hhi⟩
  · rintro ⟨k, hk, hpre, hlo, hhi⟩
    exact ⟨_, (hmem _).2 ⟨k, hk, (addrPadded_isPrefixOf_iff (hK k hk) A).2 hpre, rfl⟩, _,
      setString0_hexEncode (hkeccak _), hlo, hhi⟩

/-- The address `1` staked, one pre-image beginning with its word, a `Keccak256` that hashes
everything to `0x01`, and the slot `0x81`, at the upper end of the association. -/
theorem isAssociatedWith_upper_end :
    let keccak256 : List UInt8 → List UInt8 := fun _ => [1]
    let k := "0x0000000000000000000000000000000000000000000000000000000000000001ab"
    (∀ bs, keccak256 bs ≠ []) ∧ (∀ k' ∈ [k], IsLowerHex k') ∧ (1 : Address) ∈ [1] ∧
      (1 : Address) ≠ 0 ∧ setString0 "0x81" = some 129 ∧
      ∃ b, isAssociatedWith (newStorageSlotsByEntity keccak256 [1] [k] 1) "0x81" = some b ∧
        (b = true ↔ ∃ k' ∈ [k], wordBytes 32 (1 : Address).toNat <+: hex2Bytes (k'.toList.drop 2) ∧
          preimageKeccak keccak256 k' ≤ 129 ∧ 129 ≤ preimageKeccak keccak256 k' + 128) := by
  intro keccak256 k
  have hkeccak : ∀ bs, keccak256 bs ≠ [] := fun _ => List.cons_ne_nil _ _
  exact ⟨hkeccak, by decide, by decide, by decide, by decide,
    isAssociatedWith_newStorageSlotsByEntity keccak256 hkeccak [1] [k] (by decide) (by decide)
      (by decide) (by decide)⟩

end AiopsBundler
