import Mathlib

/-!
# Bit fields of a word

Several values share a word: each is shifted to where its field begins and cut
off by the field's mask, and the results are put together by `|`. What comes back
from a field is what went in, whatever the other fields hold, if the value fits
and the fields lie apart (`get_pack`).

All of it is shown bit by bit. A bit of `prep` is a bit of the value if it lies
within the field, and 0 if it does not (`getLsbD_prep`); what is read from a
field has the bits of the word from where the field begins (`getLsbD_get`). With
these two, equations between words need no arithmetic on shifts and masks.
-/

/-- **A field**: so many bits, from this bit on. -/
structure BitField where
  low : ℕ
  width : ℕ

namespace BitField

variable {w : ℕ}

/-- The bits of the field. -/
def mask (w : ℕ) (f : BitField) : BitVec w := BitVec.ofNat w ((2 ^ f.width - 1) <<< f.low)

/-- The value, in its place. -/
def prep (f : BitField) (x : BitVec w) : BitVec w := (x <<< f.low) &&& f.mask w

/-- What stands in the field. -/
def get (f : BitField) (x : BitVec w) : BitVec w := (x &&& f.mask w) >>> f.low

/-- The field lies within the word. -/
def Within (w : ℕ) (f : BitField) : Prop := f.low + f.width ≤ w

instance (w : ℕ) (f : BitField) : Decidable (f.Within w) :=
  inferInstanceAs (Decidable (f.low + f.width ≤ w))

/-- The fields have no bit in common. -/
def Apart (f g : BitField) : Prop := f.low + f.width ≤ g.low ∨ g.low + g.width ≤ f.low

instance (f g : BitField) : Decidable (Apart f g) :=
  inferInstanceAs (Decidable (f.low + f.width ≤ g.low ∨ g.low + g.width ≤ f.low))

theorem Apart.symm {f g : BitField} (h : Apart f g) : Apart g f := Or.symm h

/-- The value needs no more bits than the field has. -/
def Fits (f : BitField) (x : BitVec w) : Prop := x.toNat < 2 ^ f.width

variable {f g : BitField} {x y : BitVec w}

theorem getLsbD_mask (f : BitField) (i : ℕ) :
    (f.mask w).getLsbD i
      = (decide (i < w) && (decide (f.low ≤ i) && decide (i - f.low < f.width))) := by
  rw [mask, BitVec.getLsbD_ofNat, Nat.testBit_shiftLeft, Nat.testBit_two_pow_sub_one]

theorem getLsbD_prep (f : BitField) (x : BitVec w) (i : ℕ) :
    (f.prep x).getLsbD i
      = (decide (i < w) && (decide (f.low ≤ i) && decide (i - f.low < f.width))
        && x.getLsbD (i - f.low)) := by
  rw [prep, BitVec.getLsbD_and, BitVec.getLsbD_shiftLeft, getLsbD_mask]
  by_cases hw : i < w
  · by_cases hlow : f.low ≤ i
    · have hnot : ¬ i < f.low := Nat.not_lt.mpr hlow
      simp [hw, hlow, hnot, Bool.and_comm]
    · simp [hlow]
  · simp [hw]

theorem getLsbD_get (hf : f.Within w) (x : BitVec w) (i : ℕ) :
    (f.get x).getLsbD i = (decide (i < f.width) && x.getLsbD (f.low + i)) := by
  rw [get, BitVec.getLsbD_ushiftRight, BitVec.getLsbD_and, getLsbD_mask, Nat.add_sub_cancel_left]
  by_cases hi : i < f.width
  · have hw : f.low + i < w := Nat.lt_of_lt_of_le (Nat.add_lt_add_left hi _) hf
    simp [hi, hw]
  · simp [hi]

theorem get_or (f : BitField) (x y : BitVec w) : f.get (x ||| y) = f.get x ||| f.get y := by
  refine BitVec.eq_of_getLsbD_eq fun i _ => ?_
  rw [BitVec.getLsbD_or, get, get, get, BitVec.getLsbD_ushiftRight, BitVec.getLsbD_ushiftRight,
    BitVec.getLsbD_ushiftRight, BitVec.getLsbD_and, BitVec.getLsbD_and, BitVec.getLsbD_and,
    BitVec.getLsbD_or, Bool.and_or_distrib_right]

/-- The field itself. -/
theorem get_prep (hf : f.Within w) (hx : f.Fits x) : f.get (f.prep x) = x := by
  refine BitVec.eq_of_getLsbD_eq fun i hi => ?_
  rw [getLsbD_get hf, getLsbD_prep, Nat.add_sub_cancel_left]
  by_cases hwidth : i < f.width
  · have hw : f.low + i < w := Nat.lt_of_lt_of_le (Nat.add_lt_add_left hwidth _) hf
    simp [hwidth, hw]
  · have hzero : x.getLsbD i = false :=
      Nat.testBit_lt_two_pow
        (Nat.lt_of_lt_of_le hx (Nat.pow_le_pow_right (by decide) (Nat.not_lt.mp hwidth)))
    simp [hwidth, hzero]

/-- Another field. -/
theorem get_prep_apart (hf : f.Within w) (hfg : Apart f g) (x : BitVec w) :
    f.get (g.prep x) = 0#w := by
  refine BitVec.eq_of_getLsbD_eq fun i _ => ?_
  rw [getLsbD_get hf, getLsbD_prep]
  by_cases hwidth : i < f.width
  · have hout : ¬ (g.low ≤ f.low + i ∧ f.low + i - g.low < g.width) := by
      unfold Apart at hfg
      omega
    by_cases hlow : g.low ≤ f.low + i
    · have hout' : ¬ f.low + i - g.low < g.width := fun h => hout ⟨hlow, h⟩
      simp [hout']
    · simp [hlow]
  · simp [hwidth]

/-- A shorter register that holds the field. -/
theorem get_setWidth {n : ℕ} (hf : f.Within n) (hn : n ≤ w) (x : BitVec w) :
    f.get (x.setWidth n) = (f.get x).setWidth n := by
  refine BitVec.eq_of_getLsbD_eq fun i hi => ?_
  have hw : f.Within w := Nat.le_trans hf hn
  rw [getLsbD_get hf, BitVec.getLsbD_setWidth, BitVec.getLsbD_setWidth, getLsbD_get hw]
  by_cases hwidth : i < f.width
  · have hlt : f.low + i < n := Nat.lt_of_lt_of_le (Nat.add_lt_add_left hwidth _) hf
    simp [hlt, hi]
  · simp [hwidth]

/-! ## All fields of a word

The fields are added one after the other, so the induction is over the list of
them. The field that is asked for is either the one that is added now, or one of
the others; what is added later changes nothing in it, as the fields lie apart
(`get_pack_apart`). -/

/-- The values of several fields, added to a word one after the other. -/
def pack (word : BitVec w) (fields : List (BitField × BitVec w)) : BitVec w :=
  fields.foldl (fun word field => word ||| field.1.prep field.2) word

theorem get_pack_apart (hf : f.Within w) {fields : List (BitField × BitVec w)}
    (hapart : ∀ field ∈ fields, Apart f field.1) (word : BitVec w) :
    f.get (pack word fields) = f.get word := by
  induction fields generalizing word with
  | nil => rfl
  | cons field fields ih =>
    have hrest := ih (fun other hother => hapart other (List.mem_cons_of_mem _ hother))
      (word ||| field.1.prep field.2)
    rw [get_or, get_prep_apart hf (hapart field List.mem_cons_self), BitVec.or_zero] at hrest
    exact hrest

/-- **What is read from a field is what was put there.** -/
theorem get_pack {fields : List (BitField × BitVec w)}
    (hapart : fields.Pairwise fun field other => Apart field.1 other.1)
    (hmem : (f, x) ∈ fields) (hf : f.Within w) (hx : f.Fits x) {word : BitVec w}
    (hword : f.get word = 0#w) : f.get (pack word fields) = x := by
  induction fields generalizing word with
  | nil => cases hmem
  | cons field fields ih =>
    rw [List.pairwise_cons] at hapart
    rcases List.mem_cons.mp hmem with rfl | hmem
    · have hrest := get_pack_apart hf hapart.1 (word ||| f.prep x)
      rw [get_or, hword, get_prep hf hx, BitVec.zero_or] at hrest
      exact hrest
    · refine ih hapart.2 hmem ?_
      rw [get_or, hword, get_prep_apart hf (hapart.1 _ hmem).symm, BitVec.or_zero]

end BitField
