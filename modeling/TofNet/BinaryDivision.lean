import Mathlib.Algebra.Field.ZMod
import Mathlib.Algebra.Polynomial.Div
import Mathlib.Algebra.CharP.Two
import Mathlib.RingTheory.Coprime.Lemmas

/-!
# Division of binary polynomials in a register

A register of `w` bits divides a sequence of bits, the first the highest, by a
polynomial of degree `w` over the field of two elements: with each bit it
moves up by one place, and where a bit leaves it the divisor is taken off.

What is in the register at the end is the remainder (`poly_divide`). Sequences
that differ within a window no longer than the register have different
remainders if the divisor has a constant term (`divide_ne_of_window`), and a
few bits can be divided at a time (`divide_eq_lookup`).

The proofs go through the polynomials, not through the bits. `poly` takes a
register to the polynomial with its bits for coefficients, and `poly_feed` says
that a bit multiplies it by `X` and adds the bit, up to a multiple of the
divisor. From there on it is division with remainder in a ring of polynomials
over a field, where Mathlib has all that is needed; back from it
`poly_injective` leads, since a register holds only remainders.
-/

open Polynomial

namespace BinaryDivision

variable {w : ℕ}

/-! ## The register -/

/-- The register `r` takes a bit; `p` is the divisor without its highest term. -/
def feed (p r : BitVec w) (b : Bool) : BitVec w :=
  if r.msb ^^ b then (r <<< 1) ^^^ p else r <<< 1

/-- **The bits are divided**, from what is in the register before. -/
def divide (p r : BitVec w) (bits : List Bool) : BitVec w := bits.foldl (feed p) r

@[simp] theorem divide_nil (p r : BitVec w) : divide p r [] = r := rfl

@[simp] theorem divide_cons (p r : BitVec w) (b : Bool) (bits : List Bool) :
    divide p r (b :: bits) = divide p (feed p r b) bits := rfl

theorem divide_append (p r : BitVec w) (bits more : List Bool) :
    divide p r (bits ++ more) = divide p (divide p r bits) more := List.foldl_append

/-! ## The polynomials

A register of `w` bits is a polynomial of degree less than `w`, and different
registers are different polynomials. The divisor has degree `w` and does not fit
in a register: its highest term is left out of `p`, because where it would be
subtracted the bit has just left the register anyway. -/

/-- A bit as a coefficient. -/
def coeffOf (b : Bool) : ZMod 2 := if b then 1 else 0

@[simp] theorem coeffOf_false : coeffOf false = 0 := rfl

@[simp] theorem coeffOf_true : coeffOf true = 1 := rfl

theorem coeffOf_xor (a b : Bool) : coeffOf (a ^^ b) = coeffOf a + coeffOf b := by
  cases a <;> cases b <;> decide

theorem coeffOf_injective : Function.Injective coeffOf := by
  intro a b
  cases a <;> cases b <;> decide

/-- **The polynomial of a register.** -/
noncomputable def poly (r : BitVec w) : (ZMod 2)[X] :=
  ∑ i ∈ Finset.range w, C (coeffOf (r.getLsbD i)) * X ^ i

@[simp] theorem coeff_poly (r : BitVec w) (i : ℕ) : (poly r).coeff i = coeffOf (r.getLsbD i) := by
  rw [poly, finsetSum_coeff]
  simp only [coeff_C_mul_X_pow]
  rw [Finset.sum_ite_eq]
  split
  · rfl
  · next hi =>
    rw [BitVec.getLsbD_of_ge r i (by simpa using hi)]
    rfl

theorem degree_poly_lt (r : BitVec w) : (poly r).degree < w := by
  rw [degree_lt_iff_coeff_zero]
  intro i hi
  rw [coeff_poly, BitVec.getLsbD_of_ge r i hi]
  rfl

theorem poly_injective : Function.Injective (poly (w := w)) := by
  intro r s h
  refine BitVec.eq_of_getLsbD_eq fun i _ => coeffOf_injective ?_
  rw [← coeff_poly, ← coeff_poly, h]

@[simp] theorem poly_zero : poly (0 : BitVec w) = 0 := by
  ext i
  simp

theorem poly_xor (r s : BitVec w) : poly (r ^^^ s) = poly r + poly s := by
  ext i
  rw [coeff_add, coeff_poly, coeff_poly, coeff_poly, BitVec.getLsbD_xor, coeffOf_xor]

/-- The divisor: the highest term is not kept in `p`. -/
noncomputable def divisor (p : BitVec w) : (ZMod 2)[X] := X ^ w + poly p

theorem monic_divisor (p : BitVec w) : (divisor p).Monic := monic_X_pow_add (degree_poly_lt p)

theorem degree_divisor (p : BitVec w) : (divisor p).degree = w := by
  rw [divisor, degree_add_eq_left_of_degree_lt, degree_X_pow]
  rw [degree_X_pow]
  exact degree_poly_lt p

/-- A register is its own remainder. -/
theorem poly_mod_divisor (p r : BitVec w) : poly r %ₘ divisor p = poly r := by
  rw [modByMonic_eq_self_iff (monic_divisor p), degree_divisor]
  exact degree_poly_lt r

/-- A place up, but for the bit that leaves the register. -/
theorem poly_shiftLeft_one (r : BitVec w) :
    poly (r <<< 1) = X * poly r + C (coeffOf r.msb) * X ^ w := by
  ext i
  rw [coeff_add, coeff_poly, coeff_C_mul_X_pow, BitVec.getLsbD_shiftLeft]
  cases i with
  | zero =>
    rw [coeff_X_mul_zero]
    cases w with
    | zero => simp [BitVec.msb, BitVec.getMsbD]
    | succ w => simp
  | succ i =>
    rw [coeff_X_mul, coeff_poly]
    by_cases hi : i + 1 < w
    · simp [hi, hi.ne]
    · by_cases htop : i + 1 = w
      · subst htop
        rw [if_pos rfl, BitVec.msb_eq_getLsbD_last, Nat.add_sub_cancel, CharTwo.add_self_eq_zero]
        simp
      · have hout : r.getLsbD i = false := BitVec.getLsbD_of_ge r i (by omega)
        simp [hi, htop, hout]

/-- **What a bit does**, up to a multiple of the divisor. -/
theorem poly_feed (p r : BitVec w) (b : Bool) :
    poly (feed p r b)
      = X * poly r + C (coeffOf b) * X ^ w + C (coeffOf (r.msb ^^ b)) * divisor p := by
  have htwice : ∀ q : (ZMod 2)[X], q + q = 0 := CharTwo.add_self_eq_zero
  rw [feed]
  cases hm : r.msb <;> cases b <;>
    simp only [Bool.xor_false, Bool.xor_true, Bool.not_false, Bool.not_true, if_true, if_false,
      Bool.false_eq_true, poly_xor, poly_shiftLeft_one, hm, coeffOf_true, coeffOf_false, divisor,
      map_zero, map_one, zero_mul, one_mul, add_zero]
  · rw [← add_assoc, add_assoc (X * poly r), htwice, add_zero]
  · rw [← add_assoc]

/-! ## The remainder

The bits that are divided are a polynomial as well, of a degree that grows with
their number. What was in the register before counts as if it stood in front of
them. `poly_divide` is by induction on the bits, with the register arbitrary,
and each bit is an application of `poly_feed`. -/

/-- The polynomial of a sequence of bits. -/
noncomputable def bitsPoly : List Bool → (ZMod 2)[X]
  | [] => 0
  | b :: bits => C (coeffOf b) * X ^ bits.length + bitsPoly bits

theorem degree_bitsPoly_lt (bits : List Bool) : (bitsPoly bits).degree < bits.length := by
  induction bits with
  | nil => simp [bitsPoly]
  | cons b bits ih =>
    have hlt : (bits.length : WithBot ℕ) < (b :: bits).length := by
      rw [List.length_cons]
      exact_mod_cast Nat.lt_succ_self _
    refine (degree_add_le _ _).trans_lt (max_lt ?_ (ih.trans hlt))
    exact (degree_C_mul_X_pow_le _ _).trans_lt hlt

/-- **Bits behind others**. -/
theorem bitsPoly_append (bits more : List Bool) :
    bitsPoly (bits ++ more) = bitsPoly bits * X ^ more.length + bitsPoly more := by
  induction bits with
  | nil => simp [bitsPoly]
  | cons b bits ih =>
    rw [List.cons_append, bitsPoly, ih, bitsPoly, List.length_append, pow_add]
    ring

/-- A sequence of bits is known from its polynomial. -/
theorem bitsPoly_injective {bits more : List Bool} (hlength : bits.length = more.length)
    (h : bitsPoly bits = bitsPoly more) : bits = more := by
  induction bits generalizing more with
  | nil => exact (List.length_eq_zero_iff.mp hlength.symm).symm
  | cons b bits ih =>
    obtain ⟨c, more, rfl⟩ := List.exists_cons_of_length_eq_add_one hlength.symm
    have hlengths : bits.length = more.length := Nat.succ_injective hlength
    have hcoeff : ∀ (b : Bool) (bits : List Bool),
        (bitsPoly (b :: bits)).coeff bits.length = coeffOf b := fun b bits => by
      rw [bitsPoly, coeff_add, coeff_C_mul_X_pow, if_pos rfl,
        coeff_eq_zero_of_degree_lt (degree_bitsPoly_lt bits), add_zero]
    have hb : b = c := by
      apply coeffOf_injective
      rw [← hcoeff b bits, h, hlengths, hcoeff c more]
    subst hb
    rw [bitsPoly, bitsPoly, hlengths] at h
    rw [ih hlengths (add_left_cancel h)]

/-- **What is left in the register is the remainder** of the bits, a register's
length up, and of what was in the register, as many places up as there are bits. -/
theorem poly_divide (p r : BitVec w) (bits : List Bool) :
    poly (divide p r bits)
      = (X ^ bits.length * poly r + X ^ w * bitsPoly bits) %ₘ divisor p := by
  induction bits generalizing r with
  | nil =>
    rw [divide_nil, List.length_nil, pow_zero, one_mul, bitsPoly, mul_zero, add_zero,
      poly_mod_divisor]
  | cons b bits ih =>
    rw [divide_cons, ih]
    refine modByMonic_eq_of_dvd_sub (monic_divisor p)
      ⟨X ^ bits.length * C (coeffOf (r.msb ^^ b)), ?_⟩
    rw [poly_feed, bitsPoly, List.length_cons, pow_succ]
    ring

/-! ## What a remainder tells apart

Two sequences of bits have the same remainder exactly if the divisor divides
their difference. If they differ only within a window, the difference is a power
of `X` times a polynomial of small degree. A divisor with a constant term has no
factor in common with the power of `X` (`isCoprime_divisor`), so it would have
to divide the other factor, whose degree is less than its own. -/

/-- A divisor with a constant term has no power of `X` in it. -/
theorem isCoprime_divisor {p : BitVec w} (hw : 0 < w) (hp : p.getLsbD 0 = true) (n : ℕ) :
    IsCoprime (divisor p) (X ^ n) := by
  have hcoeff : (divisor p).coeff 0 = 1 := by
    rw [divisor, coeff_add, coeff_X_pow, if_neg hw.ne, coeff_poly, hp, coeffOf_true, zero_add]
  refine IsCoprime.pow_right ⟨1, -divX (divisor p), ?_⟩
  have hsplit := divX_mul_X_add (divisor p)
  rw [hcoeff, map_one] at hsplit
  rw [one_mul, neg_mul, ← sub_eq_add_neg, sub_eq_iff_eq_add']
  exact hsplit.symm

/-- A window no longer than the register, and what follows it. -/
theorem divide_window_ne {p r : BitVec w} (hw : 0 < w) (hp : p.getLsbD 0 = true)
    {window window' after : List Bool} (hlength : window.length = window'.length)
    (hshort : window.length ≤ w) (hne : window ≠ window') :
    divide p r (window ++ after) ≠ divide p r (window' ++ after) := by
  intro h
  have hpoly := congrArg poly h
  rw [poly_divide, poly_divide, bitsPoly_append, bitsPoly_append, List.length_append,
    List.length_append, hlength] at hpoly
  have hdvd : divisor p ∣ X ^ (w + after.length) * (bitsPoly window - bitsPoly window') := by
    rw [← modByMonic_eq_zero_iff_dvd (monic_divisor p), pow_add]
    have hsub := sub_eq_zero.mpr hpoly
    rw [← sub_modByMonic] at hsub
    rw [← hsub]
    congr 1
    ring
  have hdvd' := (isCoprime_divisor hw hp _).dvd_of_dvd_mul_left hdvd
  -- a multiple of the divisor, of a smaller degree
  have hzero := eq_zero_of_dvd_of_degree_lt hdvd' <| by
    rw [degree_divisor]
    refine (degree_sub_le _ _).trans_lt (max_lt ?_ ?_)
    · exact (degree_bitsPoly_lt window).trans_le (by exact_mod_cast hshort)
    · exact (degree_bitsPoly_lt window').trans_le (by exact_mod_cast hlength ▸ hshort)
  exact hne (bitsPoly_injective hlength (sub_eq_zero.mp hzero))

/-- **Sequences that differ within a window** that is no longer than the register have
different remainders. -/
theorem divide_ne_of_window {p r : BitVec w} (hw : 0 < w) (hp : p.getLsbD 0 = true)
    {before window window' after : List Bool} (hlength : window.length = window'.length)
    (hshort : window.length ≤ w) (hne : window ≠ window') :
    divide p r (before ++ (window ++ after)) ≠ divide p r (before ++ (window' ++ after)) := by
  rw [divide_append p r before, divide_append p r before]
  exact divide_window_ne hw hp hlength hshort hne

/-- The bits from `k` on that a register holds are the only ones that differ. -/
def Burst (k w : ℕ) (bits bits' : List Bool) : Prop :=
  bits.length = bits'.length ∧ ∀ i, bits[i]? ≠ bits'[i]? → k ≤ i ∧ i < k + w

/-- **A burst changes the remainder.** -/
theorem divide_ne_of_burst {p r : BitVec w} (hw : 0 < w) (hp : p.getLsbD 0 = true) {k : ℕ}
    {bits bits' : List Bool} (h : Burst k w bits bits') (hne : bits ≠ bits') :
    divide p r bits ≠ divide p r bits' := by
  obtain ⟨hlength, hsame⟩ := h
  have hbefore : bits.take k = bits'.take k := by
    refine List.ext_getElem? fun i => ?_
    rw [List.getElem?_take, List.getElem?_take]
    split
    · next hi =>
      by_contra hdiff
      exact absurd (hsame i hdiff).1 (Nat.not_le.mpr hi)
    · rfl
  have hafter : (bits.drop k).drop w = (bits'.drop k).drop w := by
    refine List.ext_getElem? fun i => ?_
    rw [List.drop_drop, List.drop_drop, List.getElem?_drop, List.getElem?_drop]
    by_contra hdiff
    exact absurd (hsame _ hdiff).2 (by omega)
  have hsplit : ∀ bits : List Bool,
      bits = bits.take k ++ ((bits.drop k).take w ++ (bits.drop k).drop w) := fun bits => by
    rw [List.take_append_drop, List.take_append_drop]
  rw [hsplit bits, hsplit bits', ← hbefore, ← hafter]
  refine divide_ne_of_window hw hp ?_ ?_ fun hwindow => hne ?_
  · rw [List.length_take, List.length_drop, List.length_take, List.length_drop, hlength]
  · exact List.length_take_le _ _
  · rw [hsplit bits, hsplit bits', hbefore, hafter, hwindow]

/-! ## A few bits at a time

A program does not take bit after bit, but a byte at a time with the help of a
table. The table has the remainder for each value of the bits that leave the
register. That this comes to the same is because taking a bit is linear: what
leaves the register at the top, and what stays in it, may be followed separately
(`iterate_shift_xor`), and what stays only moves up, as none of it leaves
(`iterate_shift_of_low`). -/

/-- The bits, at the upper end of a register. -/
def atTop (w : ℕ) (bits : List Bool) : BitVec w :=
  (BitVec.ofBoolListBE bits).setWidth w <<< (w - bits.length)

theorem getMsbD_atTop {bits : List Bool} (h : bits.length ≤ w) (i : ℕ) :
    (atTop w bits).getMsbD i = bits.getD i false := by
  rw [atTop, BitVec.getMsbD_shiftLeft, BitVec.getMsbD_setWidth, BitVec.getMsbD_ofBoolListBE,
    decide_eq_true (Nat.le_add_left _ _), Bool.true_and,
    show i + (w - bits.length) + bits.length - w = i by omega]

@[simp] theorem atTop_nil : atTop w [] = 0 := by
  refine BitVec.eq_of_getMsbD_eq fun i _ => ?_
  rw [getMsbD_atTop (Nat.zero_le w)]
  simp

/-- One place up, with no bit. -/
abbrev shift (p r : BitVec w) : BitVec w := feed p r false

theorem poly_shift (p r : BitVec w) :
    poly (shift p r) = X * poly r + C (coeffOf r.msb) * divisor p := by
  rw [shift, poly_feed, Bool.xor_false, coeffOf_false, map_zero, zero_mul, add_zero]

/-- A bit is taken as if it were in the register before. -/
theorem feed_eq_shift (p r : BitVec w) (b : Bool) (hw : 0 < w) :
    feed p r b = shift p (r ^^^ atTop w [b]) := by
  have htop : (r ^^^ atTop w [b]).msb = (r.msb ^^ b) := by
    rw [BitVec.msb_eq_getMsbD_zero, BitVec.getMsbD_xor, getMsbD_atTop hw]
    rfl
  have hshift : (r ^^^ atTop w [b]) <<< 1 = r <<< 1 := by
    refine BitVec.eq_of_getMsbD_eq fun i _ => ?_
    rw [BitVec.getMsbD_shiftLeft, BitVec.getMsbD_shiftLeft, BitVec.getMsbD_xor, getMsbD_atTop hw]
    simp
  rw [shift, feed, feed, htop, hshift, Bool.xor_false]

theorem shift_xor (p r s : BitVec w) : shift p (r ^^^ s) = shift p r ^^^ shift p s := by
  apply poly_injective
  rw [poly_xor, poly_shift, poly_shift, poly_shift, poly_xor, BitVec.msb_xor, coeffOf_xor, map_add]
  ring

theorem iterate_shift_xor (p r s : BitVec w) (n : ℕ) :
    (shift p)^[n] (r ^^^ s) = (shift p)^[n] r ^^^ (shift p)^[n] s := by
  induction n generalizing r s with
  | zero => rfl
  | succ n ih => rw [Function.iterate_succ_apply, shift_xor, ih]; rfl

/-- Where no bit leaves the register, the divisor is not taken off. -/
theorem iterate_shift_of_low (p : BitVec w) {r : BitVec w} {n : ℕ}
    (h : ∀ i < n, r.getMsbD i = false) : (shift p)^[n] r = r <<< n := by
  induction n with
  | zero => simp
  | succ n ih =>
    have hout : (r <<< n).msb = false := by
      rw [BitVec.msb_eq_getMsbD_zero, BitVec.getMsbD_shiftLeft, Nat.zero_add]
      exact h n (Nat.lt_succ_self n)
    rw [Function.iterate_succ_apply', ih fun i hi => h i (Nat.lt_succ_of_lt hi), shift, feed, hout,
      BitVec.shiftLeft_add]
    rfl

/-- **A few bits are taken as if they were in the register before.** -/
theorem divide_eq_iterate_shift (p r : BitVec w) {bits : List Bool} (h : bits.length ≤ w) :
    divide p r bits = (shift p)^[bits.length] (r ^^^ atTop w bits) := by
  induction bits generalizing r with
  | nil => simp
  | cons b bits ih =>
    have hw : 0 < w := Nat.lt_of_lt_of_le (Nat.succ_pos _) h
    have hbits : bits.length ≤ w := Nat.le_of_succ_le h
    have hfalse : (false :: bits).length ≤ w := h
    -- the later bits, one place further down, are shifted up with the first
    have hrest : shift p (atTop w (false :: bits)) = atTop w bits := by
      have hout : (atTop w (false :: bits)).msb = false := by
        rw [BitVec.msb_eq_getMsbD_zero, getMsbD_atTop hfalse]
        rfl
      rw [shift, feed, hout]
      refine BitVec.eq_of_getMsbD_eq fun i _ => ?_
      show ((atTop w (false :: bits)) <<< 1).getMsbD i = _
      rw [BitVec.getMsbD_shiftLeft, getMsbD_atTop hfalse, getMsbD_atTop hbits]
      rfl
    have hsplit : atTop w (b :: bits) = atTop w [b] ^^^ atTop w (false :: bits) := by
      refine BitVec.eq_of_getMsbD_eq fun i _ => ?_
      rw [BitVec.getMsbD_xor, getMsbD_atTop h, getMsbD_atTop hw, getMsbD_atTop hfalse]
      cases i <;> simp
    rw [divide_cons, ih _ hbits, List.length_cons, Function.iterate_succ_apply, hsplit,
      ← BitVec.xor_assoc, shift_xor, hrest, feed_eq_shift p r b hw]

/-- **With a table**: the bits that leave the register are looked up together. -/
theorem divide_eq_lookup (p : BitVec w) {r high low : BitVec w} {bits : List Bool}
    (h : bits.length ≤ w) (hr : r = high ^^^ low)
    (hlow : ∀ i < bits.length, low.getMsbD i = false) :
    divide p r bits
      = (shift p)^[bits.length] (high ^^^ atTop w bits) ^^^ low <<< bits.length := by
  rw [divide_eq_iterate_shift p r h, hr, BitVec.xor_assoc, BitVec.xor_comm low,
    ← BitVec.xor_assoc, iterate_shift_xor, iterate_shift_of_low p hlow]

end BinaryDivision
