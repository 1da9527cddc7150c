import Mathlib.Data.Nat.Digits.Defs
import Mathlib.Data.Nat.Digits.Lemmas

/-!
# Little-endian fields

The packed structures of a wire format on a little-endian host are
concatenations of fixed-width fields. This module has the two directions of
one field – `leBytes`, the bytes of a number, and `leNat`, the number of some
bytes, which is `Nat.ofDigits` at base 256 – and the rules every decoder
needs: reading a field at its offset in a concatenation gives back what was
put there. They are simp lemmas, so that a decoder is checked against its
encoder by simplification.

The fixed-width types carry their own range, so none of the round trips has
a side condition.
-/

/-- The `w` least significant bytes of `n`, least significant first. -/
def leBytes : ℕ → ℕ → List UInt8
  | 0, _ => []
  | w + 1, n => UInt8.ofNat n :: leBytes w (n / 256)

/-- The number some bytes stand for, least significant first. -/
def leNat (bs : List UInt8) : ℕ := Nat.ofDigits 256 (bs.map UInt8.toNat)

@[simp] theorem length_leBytes (w n : ℕ) : (leBytes w n).length = w := by
  induction w generalizing n with
  | zero => rfl
  | succ w ih => rw [leBytes, List.length_cons, ih]

@[simp] theorem leNat_nil : leNat [] = 0 := rfl

theorem leNat_cons (b : UInt8) (bs : List UInt8) :
    leNat (b :: bs) = b.toNat + 256 * leNat bs := by
  unfold leNat
  rw [List.map_cons, Nat.ofDigits_cons]

/-- **A number is read back up to its width.** -/
theorem leNat_leBytes (w n : ℕ) : leNat (leBytes w n) = n % 256 ^ w := by
  induction w generalizing n with
  | zero => rw [leBytes, leNat_nil, pow_zero, Nat.mod_one]
  | succ w ih =>
    have hb : (UInt8.ofNat n).toNat = n % 256 := UInt8.toNat_ofNat'
    rw [leBytes, leNat_cons, ih, hb, pow_succ', Nat.mod_mul]

/-- A number is bounded by the width of its bytes. -/
theorem leNat_lt (bs : List UInt8) : leNat bs < 256 ^ bs.length := by
  induction bs with
  | nil => exact Nat.one_pos
  | cons b bs ih =>
    have hb : b.toNat < 256 := b.toNat_lt
    rw [leNat_cons, List.length_cons, pow_succ']
    omega

/-- **The bytes are read back from their number.** -/
theorem leBytes_leNat (bs : List UInt8) : leBytes bs.length (leNat bs) = bs := by
  induction bs with
  | nil => rfl
  | cons b bs ih =>
    have hb : b.toNat < 256 := b.toNat_lt
    have hmod : (b.toNat + 256 * leNat bs) % 256 = b.toNat := by omega
    have hdiv : (b.toNat + 256 * leNat bs) / 256 = leNat bs := by omega
    rw [List.length_cons, leNat_cons, leBytes, hdiv, ih]
    refine congrArg (· :: bs) (UInt8.toNat_inj.mp ?_)
    rw [UInt8.toNat_ofNat']
    exact hmod

/-! ## Fields of a fixed width

A field is a list of bytes of a known length, and so is what is cut out at an
offset. The two rules about slices, to skip a field that lies in front and to
take the one that is there, are all that the fixed widths are derived from. -/

/-- The two bytes of a 16-bit field. -/
def le16 (x : UInt16) : List UInt8 := leBytes 2 x.toNat

/-- The four bytes of a 32-bit field. -/
def le32 (x : UInt32) : List UInt8 := leBytes 4 x.toNat

/-- The eight bytes of a 64-bit field. -/
def le64 (x : UInt64) : List UInt8 := leBytes 8 x.toNat

@[simp] theorem length_le16 (x : UInt16) : (le16 x).length = 2 := length_leBytes _ _
@[simp] theorem length_le32 (x : UInt32) : (le32 x).length = 4 := length_leBytes _ _
@[simp] theorem length_le64 (x : UInt64) : (le64 x).length = 8 := length_leBytes _ _

/-- The `w` bytes at offset `off`. -/
def slice (off w : ℕ) (bs : List UInt8) : List UInt8 := (bs.drop off).take w

/-- The 16-bit field at offset `off`. -/
def get16 (off : ℕ) (bs : List UInt8) : UInt16 := UInt16.ofNat (leNat (slice off 2 bs))

/-- The 32-bit field at offset `off`. -/
def get32 (off : ℕ) (bs : List UInt8) : UInt32 := UInt32.ofNat (leNat (slice off 4 bs))

/-- The 64-bit field at offset `off`. -/
def get64 (off : ℕ) (bs : List UInt8) : UInt64 := UInt64.ofNat (leNat (slice off 8 bs))

/-- A slice of what follows a field. -/
theorem slice_skip {off w : ℕ} {a bs : List UInt8} (h : a.length ≤ off) :
    slice off w (a ++ bs) = slice (off - a.length) w bs := by
  rw [slice, slice, List.drop_append, List.drop_of_length_le h, List.nil_append]

/-- The slice that is the field in front. -/
theorem slice_front {w : ℕ} {a : List UInt8} (h : a.length = w) (bs : List UInt8) :
    slice 0 w (a ++ bs) = a := by
  rw [slice, List.drop_zero, List.take_left' h]

/-! ### Reading a field of a concatenation

The two rules of each width find a field wherever it stands: the one skips a
field that lies before the offset, the other reads the field at it. -/

@[simp] theorem get16_skip {off : ℕ} {a bs : List UInt8} (h : a.length ≤ off) :
    get16 off (a ++ bs) = get16 (off - a.length) bs := by
  rw [get16, get16, slice_skip h]

@[simp] theorem get32_skip {off : ℕ} {a bs : List UInt8} (h : a.length ≤ off) :
    get32 off (a ++ bs) = get32 (off - a.length) bs := by
  rw [get32, get32, slice_skip h]

@[simp] theorem get64_skip {off : ℕ} {a bs : List UInt8} (h : a.length ≤ off) :
    get64 off (a ++ bs) = get64 (off - a.length) bs := by
  rw [get64, get64, slice_skip h]

/-- **A 16-bit field is read back.** -/
@[simp] theorem get16_le16 (x : UInt16) (bs : List UInt8) : get16 0 (le16 x ++ bs) = x := by
  rw [get16, slice_front (length_le16 x), le16, leNat_leBytes,
    Nat.mod_eq_of_lt (show x.toNat < 256 ^ 2 from x.toNat_lt), UInt16.ofNat_toNat]

/-- **A 32-bit field is read back.** -/
@[simp] theorem get32_le32 (x : UInt32) (bs : List UInt8) : get32 0 (le32 x ++ bs) = x := by
  rw [get32, slice_front (length_le32 x), le32, leNat_leBytes,
    Nat.mod_eq_of_lt (show x.toNat < 256 ^ 4 from x.toNat_lt), UInt32.ofNat_toNat]

/-- **A 64-bit field is read back.** -/
@[simp] theorem get64_le64 (x : UInt64) (bs : List UInt8) : get64 0 (le64 x ++ bs) = x := by
  rw [get64, slice_front (length_le64 x), le64, leNat_leBytes,
    Nat.mod_eq_of_lt (show x.toNat < 256 ^ 8 from x.toNat_lt), UInt64.ofNat_toNat]
