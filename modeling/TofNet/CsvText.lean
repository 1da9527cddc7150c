import Mathlib.Data.List.Forall2

/-!
# Records of a CSV text

A reader of one record of a CSV text, on bytes, with the quoting of RFC 4180: a
field may be put in quotes, within which a quote is written twice and commas
and line breaks stand for themselves. A field without quotes has none of these.
A record ends with a line feed, with or without a carriage return.

The reader is a reader of what anybody may write, and the writer below is the
simplest one that it reads. A field is read back if it is one that `Reads`:
plain characters do, and so does anything in quotes. `record_row` puts fields
together, with the number of fields as the measure, so that the reader needs no
more fuel than the record has characters.
-/

namespace Csv

/-- What is behind the opening quote of a field: the field, and what is behind
its closing quote. -/
def quoted : List UInt8 → Option (List UInt8 × List UInt8)
  | [] => none
  | 34 :: 34 :: rest => (quoted rest).map fun r => (34 :: r.1, r.2)
  | 34 :: rest => some ([], rest)
  | c :: rest => (quoted rest).map fun r => (c :: r.1, r.2)

/-- A character that a field may have without quotes. -/
def Plain (c : UInt8) : Prop := c ≠ 34 ∧ c ≠ 44 ∧ c ≠ 13 ∧ c ≠ 10

instance (c : UInt8) : Decidable (Plain c) := inferInstanceAs (Decidable (_ ∧ _))

/-- A field, and what is behind it. -/
def field (text : List UInt8) : Option (List UInt8 × List UInt8) :=
  match text with
  | 34 :: rest => quoted rest
  | _ => some (text.takeWhile fun c => decide (Plain c), text.dropWhile fun c => decide (Plain c))

/-- At most `n` fields up to the end of the record, and what is behind it. -/
def fields : ℕ → List UInt8 → Option (List (List UInt8) × List UInt8)
  | 0, _ => none
  | n + 1, text => do
    let f ← field text
    match f.2 with
    | 44 :: rest => (fields n rest).map fun r => (f.1 :: r.1, r.2)
    | 13 :: 10 :: rest => some ([f.1], rest)
    | 10 :: rest => some ([f.1], rest)
    | _ => none

/-- **A record**, and what is behind it. -/
def record (text : List UInt8) : Option (List (List UInt8) × List UInt8) :=
  fields (text.length + 1) text

/-! ## Writing

Between the quotes a quote is doubled, so that the closing quote is the only one
that no other follows; nothing else has to be known about what is in between,
and line breaks go through as they are. -/

/-- A field in quotes. -/
def quote (value : List UInt8) : List UInt8 :=
  34 :: (value.flatMap (fun c => if c = 34 then [34, 34] else [c]) ++ [34])

/-- **A text is read as a field** wherever a comma or a line feed follows. -/
def Reads (text value : List UInt8) : Prop :=
  ∀ c rest, c = 44 ∨ c = 10 → field (text ++ c :: rest) = some (value, c :: rest)

/-- What stands for itself in quotes. -/
theorem quoted_cons {c : UInt8} (hc : c ≠ 34) (rest : List UInt8) :
    quoted (c :: rest) = (quoted rest).map fun r => (c :: r.1, r.2) := by
  rw [quoted.eq_def]
  split
  · rename_i heq
    cases heq
  · rename_i heq
    exact absurd (List.cons.inj heq).1 hc
  · rename_i heq
    exact absurd (List.cons.inj heq).1 hc
  · rename_i heq
    obtain ⟨rfl, rfl⟩ := List.cons.inj heq
    rfl

/-- The closing quote is the one that no other follows. -/
theorem quoted_close {rest : List UInt8} (h : rest.head? ≠ some 34) :
    quoted (34 :: rest) = some ([], rest) := by
  rw [quoted.eq_def]
  split
  · rename_i heq
    cases heq
  · rename_i heq
    rw [(List.cons.inj heq).2] at h
    exact absurd rfl h
  · rename_i heq
    rw [(List.cons.inj heq).2]
  · rename_i hnot heq
    exact absurd (List.cons.inj heq).1.symm hnot

/-- **Quotes are taken off again**, whatever is between them. -/
theorem reads_quote (value : List UInt8) : Reads (quote value) value := by
  intro c rest hc
  have hhead : (c :: rest).head? ≠ some 34 := by
    obtain rfl | rfl := hc
    · exact fun h => absurd (Option.some.inj h) (by decide)
    · exact fun h => absurd (Option.some.inj h) (by decide)
  show quoted ((value.flatMap _ ++ [34]) ++ c :: rest) = _
  induction value with
  | nil => exact quoted_close hhead
  | cons d value ih =>
    rw [List.flatMap_cons]
    by_cases hd : d = 34
    · rw [if_pos hd, hd]
      exact congrArg (Option.map fun r => ((34 : UInt8) :: r.1, r.2)) ih
    · rw [if_neg hd]
      refine (quoted_cons hd _).trans ?_
      exact congrArg (Option.map fun r => (d :: r.1, r.2)) ih

/-- **Plain characters stand for themselves.** -/
theorem reads_plain {value : List UInt8} (h : ∀ c ∈ value, Plain c) : Reads value value := by
  intro c rest hc
  have hnot : ¬ Plain c := by
    obtain rfl | rfl := hc
    · decide
    · decide
  have hfield : field (value ++ c :: rest)
      = some ((value ++ c :: rest).takeWhile (fun c => decide (Plain c)),
        (value ++ c :: rest).dropWhile (fun c => decide (Plain c))) := by
    unfold field
    split
    · next heq =>
      cases value with
      | nil =>
        rw [List.nil_append] at heq
        obtain rfl | rfl := hc
        · exact absurd (List.cons.inj heq).1 (by decide)
        · exact absurd (List.cons.inj heq).1 (by decide)
      | cons d value =>
        exact absurd (List.cons.inj heq).1 (h d List.mem_cons_self).1
    · rfl
  have hall : ∀ d ∈ value, decide (Plain d) = true := fun d hd => decide_eq_true (h d hd)
  rw [hfield, List.takeWhile_append_of_pos hall, List.dropWhile_append_of_pos hall,
    List.takeWhile_cons_of_neg (by simpa using hnot),
    List.dropWhile_cons_of_neg (by simpa using hnot), List.append_nil]

/-- Fields with commas between them and a line feed behind them. -/
def row (texts : List (List UInt8)) : List UInt8 := List.intercalate [44] texts ++ [10]

/-- A field in front of others. -/
theorem intercalate_cons (t t' : List UInt8) (ts : List (List UInt8)) :
    List.intercalate [44] (t :: t' :: ts) = t ++ 44 :: List.intercalate [44] (t' :: ts) := by
  rw [List.intercalate, List.intersperse_cons_cons, List.flatten_cons, List.flatten_cons]
  rfl

/-- There are no more fields than characters. -/
theorem length_le_length_row (ts : List (List UInt8)) : ts.length ≤ (row ts).length := by
  induction ts with
  | nil => exact Nat.zero_le _
  | cons t ts ih =>
    cases ts with
    | nil => simp [row]
    | cons t' ts =>
      rw [row, List.length_append] at ih ⊢
      rw [intercalate_cons, List.length_append, List.length_cons (a := t),
        List.length_cons (a := 44)]
      omega

theorem fields_row {texts values : List (List UInt8)} (h : List.Forall₂ Reads texts values)
    (hne : texts ≠ []) (rest : List UInt8) {n : ℕ} (hn : texts.length ≤ n) :
    fields n (row texts ++ rest) = some (values, rest) := by
  induction h generalizing n with
  | nil => exact absurd rfl hne
  | @cons t v ts vs ht hts ih =>
    obtain ⟨n, rfl⟩ : ∃ m, n = m + 1 :=
      Nat.exists_eq_succ_of_ne_zero (Nat.ne_of_gt (Nat.lt_of_lt_of_le (Nat.succ_pos _) hn))
    cases hts with
    | nil =>
      have htext : row [t] ++ rest = t ++ 10 :: rest := by simp [row]
      rw [htext, fields, ht 10 rest (.inr rfl)]
      rfl
    | @cons t' v' ts vs ht' hts =>
      have htext : row (t :: t' :: ts) ++ rest = t ++ 44 :: (row (t' :: ts) ++ rest) := by
        rw [row, intercalate_cons, row]
        simp
      rw [htext, fields, ht 44 _ (.inl rfl)]
      show (fields n _).map _ = _
      rw [ih (List.cons_ne_nil _ _) (Nat.le_of_succ_le_succ hn)]
      rfl

/-- **A record is read back.** -/
theorem record_row {texts values : List (List UInt8)} (h : List.Forall₂ Reads texts values)
    (hne : texts ≠ []) (rest : List UInt8) : record (row texts ++ rest) = some (values, rest) := by
  refine fields_row h hne rest ?_
  have hlength := length_le_length_row texts
  rw [List.length_append]
  omega

end Csv
