import Mathlib

/-!
  The `ruint` arithmetic of the L1 fee computation (`crates/optimism/src/l1block.rs`).

  A `U256` is a `BitVec 256`; the fee formulas use only `saturating_mul`,
  `saturating_add`, `wrapping_div` and `U256::from` of machine integers, and the
  loader decodes a storage word through `to_be_bytes::<32>` and `from_be_slice`.

  * `toNat_saturatingMul`, `toNat_saturatingAdd`: over `ℕ` the saturating
    operations are the exact ones followed by `clamp`, the minimum with `MAX`;
  * `clamp_mul_clamp`, `clamp_add_clamp`: clamping once at the end is the same as
    clamping after every step, so a chain of saturating operations computes the
    clamped exact result;
  * `fromBeSlice_slice_toBeBytes`: a byte window of the big-endian encoding is the
    matching digit range of the word.
-/

namespace OpL1Block

/-- `U256` of `ruint`. -/
abbrev U256 := BitVec 256

/-- `Address`: a 20-byte account address. -/
abbrev Address := BitVec 160

/-- The largest `U256`, `2^256 - 1`, as a number. -/
def MAX : ℕ := 2 ^ 256 - 1

/-- The minimum with `MAX`: what a saturating operation makes of an exact result. -/
def clamp (n : ℕ) : ℕ := min n MAX

namespace U256

/-- `U256::MAX`. -/
def max : U256 := BitVec.allOnes 256

/-- `Uint::saturating_mul`: the product, or `MAX` when it overflows. -/
def saturatingMul (a b : U256) : U256 :=
  if a.toNat * b.toNat < 2 ^ 256 then a * b else max

/-- `Uint::saturating_add`: the sum, or `MAX` when it overflows. -/
def saturatingAdd (a b : U256) : U256 :=
  if a.toNat + b.toNat < 2 ^ 256 then a + b else max

/-- `Uint::wrapping_div`: floor division (every divisor in the fee code is a non-zero
    constant). -/
def wrappingDiv (a b : U256) : U256 := a / b

/-- `U256::from` of a `u64`. -/
def ofU64 (n : UInt64) : U256 := BitVec.ofNat 256 n.toNat

@[simp] theorem toNat_max : max.toNat = MAX := by
  simp [max, MAX, BitVec.toNat_allOnes]

@[simp] theorem toNat_saturatingMul (a b : U256) :
    (saturatingMul a b).toNat = clamp (a.toNat * b.toNat) := by
  unfold saturatingMul clamp MAX
  split
  · simp only [BitVec.toNat_mul, Nat.mod_eq_of_lt ‹_›]; omega
  · simp only [toNat_max, MAX]; omega

@[simp] theorem toNat_saturatingAdd (a b : U256) :
    (saturatingAdd a b).toNat = clamp (a.toNat + b.toNat) := by
  unfold saturatingAdd clamp MAX
  split
  · simp only [BitVec.toNat_add, Nat.mod_eq_of_lt ‹_›]; omega
  · simp only [toNat_max, MAX]; omega

@[simp] theorem toNat_wrappingDiv (a b : U256) :
    (wrappingDiv a b).toNat = a.toNat / b.toNat :=
  BitVec.toNat_udiv

@[simp] theorem toNat_ofU64 (n : UInt64) : (ofU64 n).toNat = n.toNat := by
  have : n.toNat < 2 ^ 64 := n.toBitVec.isLt
  simp only [ofU64, BitVec.toNat_ofNat]
  exact Nat.mod_eq_of_lt (by omega)

end U256

/-! ## Clamping once or at every step -/

theorem clamp_mul_clamp (a b : ℕ) : clamp (clamp a * b) = clamp (a * b) := by
  unfold clamp
  rcases Nat.eq_zero_or_pos b with rfl | hb
  · simp
  · rcases le_total a MAX with h | h
    · rw [min_eq_left h]
    · have h₁ : MAX ≤ MAX * b := Nat.le_mul_of_pos_right _ hb
      have h₂ : a ≤ a * b := Nat.le_mul_of_pos_right _ hb
      rw [min_eq_right h, min_eq_right h₁, min_eq_right (h.trans h₂)]

theorem clamp_mul_clamp' (a b : ℕ) : clamp (a * clamp b) = clamp (a * b) := by
  rw [Nat.mul_comm, clamp_mul_clamp, Nat.mul_comm]

theorem clamp_add_clamp (a b : ℕ) : clamp (clamp a + clamp b) = clamp (a + b) := by
  unfold clamp; omega

/-- Saturation keeps the order of exact results. -/
@[gcongr]
theorem clamp_le_clamp {a b : ℕ} (h : a ≤ b) : clamp a ≤ clamp b :=
  min_le_min_right _ h

theorem clamp_eq_self {n : ℕ} (h : n ≤ MAX) : clamp n = n :=
  min_eq_left h

/-! ## Big-endian bytes -/

/-- `to_be_bytes::<n>` on the number `w`: its `n` low bytes, most significant first. -/
def toBeBytes : ℕ → ℕ → List UInt8
  | 0, _ => []
  | n + 1, w => toBeBytes n (w / 256) ++ [UInt8.ofNat w]

/-- `from_be_slice`: the number whose big-endian bytes are `bs`. -/
def fromBeSlice (bs : List UInt8) : ℕ := bs.foldl (fun acc b => acc * 256 + b.toNat) 0

/-- The Rust slice `bs[i..j]`. -/
def slice {α : Type} (bs : List α) (i j : ℕ) : List α := (bs.drop i).take (j - i)

/-- `U256::to_be_bytes::<32>`. -/
def U256.toBeBytes (w : U256) : List UInt8 := OpL1Block.toBeBytes 32 w.toNat

/-- `U256::from_be_slice` (of at most 32 bytes). -/
def U256.fromBeSlice (bs : List UInt8) : U256 := BitVec.ofNat 256 (OpL1Block.fromBeSlice bs)

theorem toNat_uInt8_ofNat (n : ℕ) : (UInt8.ofNat n).toNat = n % 256 := by
  simp [UInt8.toNat, UInt8.ofNat]

@[simp] theorem length_toBeBytes (n w : ℕ) : (toBeBytes n w).length = n := by
  induction n generalizing w <;> simp [toBeBytes, *]

@[simp] theorem fromBeSlice_append_singleton (bs : List UInt8) (b : UInt8) :
    fromBeSlice (bs ++ [b]) = fromBeSlice bs * 256 + b.toNat := by
  simp [fromBeSlice]

/-- Decoding the big-endian encoding gives back the encoded digits. -/
theorem fromBeSlice_toBeBytes (n w : ℕ) : fromBeSlice (toBeBytes n w) = w % 256 ^ n := by
  induction n generalizing w with
  | zero => simp [toBeBytes, fromBeSlice, Nat.mod_one]
  | succ n ih =>
    rw [toBeBytes, fromBeSlice_append_singleton, ih, toNat_uInt8_ofNat, Nat.pow_succ',
      Nat.mod_mul]
    omega

theorem toBeBytes_add (m n w : ℕ) :
    toBeBytes (m + n) w = toBeBytes m (w / 256 ^ n) ++ toBeBytes n w := by
  induction n generalizing w with
  | zero => simp [toBeBytes]
  | succ n ih =>
    rw [← Nat.add_assoc, toBeBytes, ih, toBeBytes, Nat.div_div_eq_div_mul, ← Nat.pow_succ',
      List.append_assoc]

/-- A window of the big-endian encoding is the encoding of the matching digits. -/
theorem slice_toBeBytes {i k n : ℕ} (w : ℕ) (h : i + k ≤ n) :
    slice (toBeBytes n w) i (i + k) = toBeBytes k (w / 256 ^ (n - (i + k))) := by
  obtain ⟨r, rfl⟩ := Nat.exists_eq_add_of_le h
  rw [toBeBytes_add, toBeBytes_add, List.append_assoc, slice,
    List.drop_left' (length_toBeBytes _ _), Nat.add_sub_cancel_left, Nat.add_sub_cancel_left,
    List.take_left' (length_toBeBytes _ _)]

theorem fromBeSlice_slice_toBeBytes {i k n : ℕ} (w : ℕ) (h : i + k ≤ n) :
    fromBeSlice (slice (toBeBytes n w) i (i + k)) = w / 256 ^ (n - (i + k)) % 256 ^ k := by
  rw [slice_toBeBytes w h, fromBeSlice_toBeBytes]

theorem fromBeSlice_replicate_zero (n : ℕ) : fromBeSlice (List.replicate n 0) = 0 := by
  induction n with
  | zero => rfl
  | succ n ih => rw [List.replicate_succ', fromBeSlice_append_singleton, ih]; rfl

theorem toBeBytes_eq_replicate_zero (n w : ℕ) :
    toBeBytes n w = List.replicate n 0 ↔ w % 256 ^ n = 0 := by
  constructor
  · intro h
    rw [← fromBeSlice_toBeBytes, h, fromBeSlice_replicate_zero]
  · induction n generalizing w with
    | zero => simp [toBeBytes]
    | succ n ih =>
      intro h
      rw [Nat.pow_succ', Nat.mod_mul] at h
      have hb : UInt8.ofNat w = 0 := UInt8.toNat.inj (by rw [toNat_uInt8_ofNat]; simp; omega)
      rw [toBeBytes, ih _ (by omega), hb, List.replicate_succ']

end OpL1Block
