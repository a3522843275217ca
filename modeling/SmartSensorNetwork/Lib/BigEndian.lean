import Mathlib.Algebra.BigOperators.Group.Finset.Basic
import Mathlib.Data.Nat.Bitwise
import Mathlib.Tactic

/-!
# Fixed-width big-endian byte strings

A natural number is written as exactly `w` bytes, most significant first,
and a byte string is read back as the numeral it spells in base 256. The
two maps are inverse to each other below `256 ^ w`, and the positional sum
of `decode_eq_sum` pins the byte order.
-/

namespace BigEndian

/-- The `w` low-order base-256 digits of `n`, most significant first. -/
def encode : ℕ → ℕ → List UInt8
  | 0, _ => []
  | w + 1, n => UInt8.ofNat (n / 256 ^ w) :: encode w n

/-- The numeral that a byte string spells in base 256. -/
def decode (bs : List UInt8) : ℕ :=
  bs.foldl (fun n b ↦ n * 256 + b.toNat) 0

@[simp] theorem encode_zero (n : ℕ) : encode 0 n = [] := rfl

@[simp] theorem encode_succ (w n : ℕ) :
    encode (w + 1) n = UInt8.ofNat (n / 256 ^ w) :: encode w n := rfl

@[simp] theorem length_encode (w n : ℕ) : (encode w n).length = w := by
  induction w with
  | zero => rfl
  | succ w ih => simp [ih]

theorem foldl_decode (bs : List UInt8) (n : ℕ) :
    bs.foldl (fun n b ↦ n * 256 + b.toNat) n = n * 256 ^ bs.length + decode bs := by
  induction bs generalizing n with
  | nil => simp [decode]
  | cons b bs ih =>
      simp only [List.foldl_cons, List.length_cons, decode]
      rw [ih, ih (0 * 256 + b.toNat)]
      ring

@[simp] theorem decode_nil : decode [] = 0 := rfl

theorem decode_cons (b : UInt8) (bs : List UInt8) :
    decode (b :: bs) = b.toNat * 256 ^ bs.length + decode bs := by
  have h := foldl_decode bs (0 * 256 + b.toNat)
  simpa [decode] using h

@[simp] theorem decode_singleton (b : UInt8) : decode [b] = b.toNat := by
  simp [decode]

theorem decode_lt (bs : List UInt8) : decode bs < 256 ^ bs.length := by
  induction bs with
  | nil => simp
  | cons b bs ih =>
      have hb : b.toNat < 256 := b.toNat_lt
      rw [decode_cons, List.length_cons, pow_succ]
      nlinarith [Nat.one_le_pow bs.length 256 (by norm_num)]

theorem decode_encode (w n : ℕ) : decode (encode w n) = n % 256 ^ w := by
  induction w with
  | zero => simp [Nat.mod_one]
  | succ w ih =>
      have hdigit : (UInt8.ofNat (n / 256 ^ w)).toNat = n / 256 ^ w % 256 := by
        simp [UInt8.toNat_ofNat']
      rw [encode_succ, decode_cons, length_encode, ih, hdigit, pow_succ, Nat.mod_mul]
      ring

theorem decode_encode_of_lt {w n : ℕ} (h : n < 256 ^ w) : decode (encode w n) = n := by
  rw [decode_encode, Nat.mod_eq_of_lt h]

theorem encode_add_mul (w n k : ℕ) : encode w (n + k * 256 ^ w) = encode w n := by
  induction w generalizing k with
  | zero => rfl
  | succ w ih =>
      have hpos : 0 < 256 ^ w := by positivity
      have hsplit : n + k * 256 ^ (w + 1) = n + k * 256 * 256 ^ w := by ring
      rw [encode_succ, encode_succ, hsplit, ih, Nat.add_mul_div_right _ _ hpos]
      congr 1
      apply UInt8.toNat_inj.mp
      simp [UInt8.toNat_ofNat']

theorem encode_decode (bs : List UInt8) : encode bs.length (decode bs) = bs := by
  induction bs with
  | nil => rfl
  | cons b bs ih =>
      have hlt := decode_lt bs
      have hpos : 0 < 256 ^ bs.length := by positivity
      have hdiv : decode (b :: bs) / 256 ^ bs.length = b.toNat := by
        rw [decode_cons, Nat.add_comm, Nat.add_mul_div_right _ _ hpos,
          Nat.div_eq_of_lt hlt, Nat.zero_add]
      rw [List.length_cons, encode_succ, hdiv, decode_cons, Nat.add_comm, encode_add_mul, ih]
      simp

theorem decode_eq_sum (bs : List UInt8) :
    decode bs = ∑ k ∈ Finset.range bs.length,
      (bs.getD k 0).toNat * 256 ^ (bs.length - 1 - k) := by
  induction bs with
  | nil => simp
  | cons b bs ih =>
      rw [decode_cons, ih, List.length_cons, Finset.sum_range_succ', Nat.add_comm]
      congr 1
      apply Finset.sum_congr rfl
      intro k hk
      have hk' : k < bs.length := Finset.mem_range.mp hk
      have hexp : bs.length + 1 - 1 - (k + 1) = bs.length - 1 - k := by omega
      rw [hexp]
      simp

/-! ## The shift-and-mask form of a digit -/

/-- Shifting right by `8 * i` bits and masking leaves digit `i`. -/
theorem shiftRight_and_mask (n i : ℕ) : n >>> (i * 8) &&& 255 = n / 256 ^ i % 256 := by
  rw [Nat.shiftRight_eq_div_pow, show (255 : ℕ) = 2 ^ 8 - 1 from rfl,
    Nat.and_two_pow_sub_one_eq_mod, Nat.mul_comm, pow_mul]
  norm_num

theorem shiftLeft_or_byte (n : ℕ) (b : UInt8) : n <<< 8 ||| b.toNat = n * 256 + b.toNat := by
  have hb : b.toNat < 2 ^ 8 := b.toNat_lt
  rw [← Nat.shiftLeft_add_eq_or_of_lt hb, Nat.shiftLeft_eq]

end BigEndian
