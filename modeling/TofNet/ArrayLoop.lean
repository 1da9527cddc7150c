import Mathlib.Data.List.ProdSigma

/-!
# Loops that write an array

An array as a program without initialisation sees it: its size is fixed, a
cell holds nothing until it is written, and an access outside the array has no
result. The loops here go over a list of rounds, each of which writes at most
one cell with a value that does not come from the array itself. Such a loop
has a result exactly if every write falls inside, and the result can be read
off the rounds.

A matrix is an array with its rows one after the other; its loop is over the
pairs of a row and a column.

Two theorems are what the rest of the development uses. `isSome_fill_iff` says
when a loop has a result, and is about the rounds alone, not about the array: a
round that reads the array, or that depends on an earlier round, would not fit.
And `fill_eq` says what the result is, by giving an array that agrees with every
write and with every cell that no round writes; it is not necessary to say which
round has written a cell last.
-/

/-- An array: a cell that has not been written holds nothing. -/
abbrev Cells (α : Type) := List (Option α)

namespace Cells

variable {α β ι : Type}

/-- An array of `n` cells, as it is allocated. -/
def alloc (n : ℕ) : Cells α := List.replicate n none

def read (b : Cells α) (k : ℕ) : Option α := b[k]?.join

def write (b : Cells α) (k : ℕ) (v : α) : Option (Cells α) :=
  if k < b.length then some (b.set k (some v)) else none

/-- The write of a round, or none. -/
def put (b : Cells α) : Option (ℕ × α) → Option (Cells α)
  | none => some b
  | some (k, v) => b.write k v

/-- **The loop.** A round has no result, or it writes nothing, or a cell. -/
def fill (round : ι → Option (Option (ℕ × α))) (rounds : List ι) (b : Cells α) :
    Option (Cells α) :=
  rounds.foldlM (fun b i => (round i).bind b.put) b

@[simp] theorem length_alloc (n : ℕ) : (alloc n : Cells α).length = n := List.length_replicate

theorem write_eq_some {b b' : Cells α} {k : ℕ} {v : α} (h : b.write k v = some b') :
    k < b.length ∧ b' = b.set k (some v) := by
  unfold write at h
  split at h
  · next hk => exact ⟨hk, (Option.some.inj h).symm⟩
  · cases h

theorem isSome_put_iff (b : Cells α) (w : Option (ℕ × α)) :
    (b.put w).isSome = true ↔ ∀ kv ∈ w, kv.1 < b.length := by
  cases w with
  | none => exact ⟨fun _ kv hkv => absurd hkv (Option.not_mem_none kv), fun _ => rfl⟩
  | some kv =>
    obtain ⟨k, v⟩ := kv
    simp only [put, write, Option.mem_some_iff, forall_eq']
    split <;> simp_all

theorem length_put {b b' : Cells α} {w : Option (ℕ × α)} (h : b.put w = some b') :
    b'.length = b.length := by
  cases w with
  | none => rw [← Option.some.inj h]
  | some kv => rw [(write_eq_some h).2, List.length_set]

theorem fill_nil (round : ι → Option (Option (ℕ × α))) (b : Cells α) :
    fill round [] b = some b := rfl

theorem fill_cons (round : ι → Option (Option (ℕ × α))) (i : ι) (rounds : List ι) (b : Cells α) :
    fill round (i :: rounds) b = ((round i).bind b.put).bind (fill round rounds) := by
  unfold fill
  rw [List.foldlM_cons]
  rfl

/-- A loop does not change the size. -/
theorem length_fill {round : ι → Option (Option (ℕ × α))} {rounds : List ι} {b b' : Cells α}
    (h : fill round rounds b = some b') : b'.length = b.length := by
  induction rounds generalizing b with
  | nil => rw [← Option.some.inj h]
  | cons i rounds ih =>
    rw [fill_cons] at h
    obtain ⟨c, hc, hfill⟩ := Option.bind_eq_some_iff.1 h
    obtain ⟨w, -, hput⟩ := Option.bind_eq_some_iff.1 hc
    rw [ih hfill, length_put hput]

/-- **A loop has a result exactly if each round has one and writes inside the
array.** -/
theorem isSome_fill_iff (round : ι → Option (Option (ℕ × α))) (rounds : List ι) (b : Cells α) :
    (fill round rounds b).isSome = true
      ↔ ∀ i ∈ rounds, ∃ w, round i = some w ∧ ∀ kv ∈ w, kv.1 < b.length := by
  induction rounds generalizing b with
  | nil => simp [fill_nil]
  | cons i rounds ih =>
    rw [fill_cons, List.forall_mem_cons]
    constructor
    · intro h
      obtain ⟨b', hb'⟩ := Option.isSome_iff_exists.1 h
      obtain ⟨c, hc, hfill⟩ := Option.bind_eq_some_iff.1 hb'
      obtain ⟨w, hw, hput⟩ := Option.bind_eq_some_iff.1 hc
      have hrest := (ih c).1 (Option.isSome_iff_exists.2 ⟨b', hfill⟩)
      rw [length_put hput] at hrest
      exact ⟨⟨w, hw, (isSome_put_iff b w).1 (Option.isSome_iff_exists.2 ⟨c, hput⟩)⟩, hrest⟩
    · rintro ⟨⟨w, hw, hin⟩, hrest⟩
      obtain ⟨c, hc⟩ := Option.isSome_iff_exists.1 ((isSome_put_iff b w).2 hin)
      rw [hw, Option.bind_some, hc, Option.bind_some, ih, length_put hc]
      exact hrest

/-- What a cell holds after a round: the value written to it, or what it held
before. -/
theorem getElem?_put {b b' : Cells α} {w : Option (ℕ × α)} (h : b.put w = some b') (n : ℕ) :
    (∃ v, w = some (n, v) ∧ b'[n]? = some (some v))
      ∨ (∀ v, w ≠ some (n, v)) ∧ b'[n]? = b[n]? := by
  cases w with
  | none => exact Or.inr ⟨fun v => (Option.some_ne_none _).symm, by rw [← Option.some.inj h]⟩
  | some kv =>
    obtain ⟨k, v⟩ := kv
    obtain ⟨hk, rfl⟩ := write_eq_some h
    by_cases hkn : k = n
    · subst hkn
      exact Or.inl ⟨v, rfl, List.getElem?_set_self hk⟩
    · refine Or.inr ⟨fun u hu => hkn ?_, List.getElem?_set_ne hkn⟩
      exact congrArg Prod.fst (Option.some.inj hu)

/-- **What a cell holds after a loop** is what some round wrote to it, or what
it held before, and then no round wrote to it. -/
theorem getElem?_fill {round : ι → Option (Option (ℕ × α))} {rounds : List ι} {b b' : Cells α}
    (h : fill round rounds b = some b') (n : ℕ) :
    (∃ i ∈ rounds, ∃ v, round i = some (some (n, v)) ∧ b'[n]? = some (some v))
      ∨ (∀ i ∈ rounds, ∀ v, round i ≠ some (some (n, v))) ∧ b'[n]? = b[n]? := by
  induction rounds generalizing b with
  | nil => exact Or.inr ⟨fun i hi => absurd hi List.not_mem_nil, by rw [← Option.some.inj h]⟩
  | cons i rounds ih =>
    rw [fill_cons] at h
    obtain ⟨c, hc, hfill⟩ := Option.bind_eq_some_iff.1 h
    obtain ⟨w, hw, hput⟩ := Option.bind_eq_some_iff.1 hc
    rcases ih hfill with ⟨j, hj, v, hv⟩ | ⟨hnone, hkeep⟩
    · exact Or.inl ⟨j, List.mem_cons_of_mem i hj, v, hv⟩
    · rcases getElem?_put hput n with ⟨v, rfl, hv⟩ | ⟨hne, hv⟩
      · exact Or.inl ⟨i, List.mem_cons_self, v, hw, hkeep.trans hv⟩
      · refine Or.inr ⟨List.forall_mem_cons.2 ⟨fun v hiv => hne v ?_, hnone⟩, hkeep.trans hv⟩
        exact Option.some.inj (hw.symm.trans hiv)

/-! ## Matrices

The pairs of a row and a column are listed as two nested loops go through them,
and `cell_injective` is what makes such a loop easy: no two rounds write the
same cell, so that the order of the rounds does not matter. A matrix whose cells
are all written is `ofGrid` of its entries, and a later loop may read it by row
and column (`getElem?_ofGrid`), or by cell (`read_ofGrid_of_lt`), where the row
and the column are a quotient and a remainder. -/

/-- The pairs of a row and a column, row by row. -/
def grid (rows cols : ℕ) : List (ℕ × ℕ) := List.range rows ×ˢ List.range cols

theorem mem_grid {rows cols : ℕ} {p : ℕ × ℕ} : p ∈ grid rows cols ↔ p.1 < rows ∧ p.2 < cols := by
  obtain ⟨j, i⟩ := p
  unfold grid
  rw [List.mem_product, List.mem_range, List.mem_range]

theorem length_grid (rows cols : ℕ) : (grid rows cols).length = rows * cols := by
  unfold grid
  rw [List.length_product, List.length_range, List.length_range]

/-- The cell of a pair lies in the matrix. -/
theorem cell_lt {rows cols : ℕ} {p : ℕ × ℕ} (h : p ∈ grid rows cols) :
    p.1 * cols + p.2 < rows * cols := by
  obtain ⟨hrow, hcol⟩ := mem_grid.1 h
  calc p.1 * cols + p.2 < p.1 * cols + cols := Nat.add_lt_add_left hcol _
    _ = (p.1 + 1) * cols := (Nat.succ_mul _ _).symm
    _ ≤ rows * cols := Nat.mul_le_mul_right cols hrow

/-- Every cell is that of a pair. -/
theorem exists_cell {rows cols n : ℕ} (h : n < rows * cols) :
    ∃ p ∈ grid rows cols, p.1 * cols + p.2 = n := by
  have hcols : 0 < cols := Nat.pos_of_ne_zero (fun hzero => by simp [hzero] at h)
  refine ⟨(n / cols, n % cols), mem_grid.2 ⟨?_, Nat.mod_lt n hcols⟩, Nat.div_add_mod' n cols⟩
  exact (Nat.div_lt_iff_lt_mul hcols).2 h

/-- Two pairs do not share a cell. -/
theorem cell_injective {rows cols : ℕ} {p q : ℕ × ℕ} (hp : p ∈ grid rows cols)
    (hq : q ∈ grid rows cols) (h : p.1 * cols + p.2 = q.1 * cols + q.2) : p = q := by
  have hcol := (mem_grid.1 hp).2
  have hcol' := (mem_grid.1 hq).2
  have hcols : 0 < cols := Nat.zero_lt_of_lt hcol
  have hdiv : ∀ j i, i < cols → (j * cols + i) / cols = j := fun j i hi => by
    rw [Nat.mul_comm, Nat.mul_add_div hcols, Nat.div_eq_of_lt hi, Nat.add_zero]
  have hrow : p.1 = q.1 := by rw [← hdiv p.1 p.2 hcol, h, hdiv q.1 q.2 hcol']
  rw [hrow] at h
  exact Prod.ext hrow (Nat.add_left_cancel h)

/-- The pair of a cell of the matrix. -/
theorem getElem?_grid {rows cols : ℕ} {p : ℕ × ℕ} (h : p ∈ grid rows cols) :
    (grid rows cols)[p.1 * cols + p.2]? = some p := by
  induction rows with
  | zero => exact absurd (mem_grid.1 h).1 (Nat.not_lt_zero _)
  | succ rows ih =>
    have hsplit : grid (rows + 1) cols
        = grid rows cols ++ (List.range cols).map (fun i => (rows, i)) := by
      change (List.range (rows + 1)).flatMap (fun j => (List.range cols).map (Prod.mk j)) = _
      rw [List.range_succ, List.flatMap_append, List.flatMap_singleton]
      rfl
    obtain ⟨hrow, hcol⟩ := mem_grid.1 h
    rw [hsplit]
    rcases Nat.lt_succ_iff_lt_or_eq.1 hrow with hlt | heq
    · have hin : p ∈ grid rows cols := mem_grid.2 ⟨hlt, hcol⟩
      rw [List.getElem?_append_left (by rw [length_grid]; exact cell_lt hin), ih hin]
    · rw [List.getElem?_append_right (by rw [length_grid, heq]; exact Nat.le_add_right _ _),
        length_grid, heq, Nat.add_sub_cancel_left, List.getElem?_map, List.getElem?_range hcol,
        Option.map_some, ← heq]

/-- The matrix with the entries `v`, all of them written. -/
def ofGrid (rows cols : ℕ) (v : ℕ × ℕ → α) : Cells α := (grid rows cols).map (fun p => some (v p))

@[simp] theorem length_ofGrid (rows cols : ℕ) (v : ℕ × ℕ → α) :
    (ofGrid rows cols v).length = rows * cols := by
  unfold ofGrid
  rw [List.length_map, length_grid]

theorem getElem?_ofGrid {rows cols : ℕ} (v : ℕ × ℕ → α) {p : ℕ × ℕ} (h : p ∈ grid rows cols) :
    (ofGrid rows cols v)[p.1 * cols + p.2]? = some (some (v p)) := by
  unfold ofGrid
  rw [List.getElem?_map, getElem?_grid h, Option.map_some]

theorem read_ofGrid {rows cols : ℕ} (v : ℕ × ℕ → α) {p : ℕ × ℕ} (h : p ∈ grid rows cols) :
    (ofGrid rows cols v).read (p.1 * cols + p.2) = some (v p) := by
  unfold read
  rw [getElem?_ofGrid v h, Option.join_some]

/-- The pair of cell `n` of the matrix is the quotient and the remainder. -/
theorem read_ofGrid_of_lt {rows cols n : ℕ} (v : ℕ × ℕ → α) (h : n < rows * cols) :
    (ofGrid rows cols v).read n = some (v (n / cols, n % cols)) := by
  have hcols : 0 < cols := Nat.pos_of_ne_zero (fun hzero => by simp [hzero] at h)
  have hp : (n / cols, n % cols) ∈ grid rows cols :=
    mem_grid.2 ⟨(Nat.div_lt_iff_lt_mul hcols).2 h, Nat.mod_lt n hcols⟩
  have hread := read_ofGrid v hp
  rwa [Nat.div_add_mod'] at hread

theorem read_eq_none {b : Cells α} {n : ℕ} (h : b.length ≤ n) : b.read n = none := by
  unfold read
  rw [List.getElem?_eq_none h]
  rfl

/-- Two matrices of the same size are joined cell by cell. -/
theorem zipWith_ofGrid {γ : Type} (f : Option α → Option β → Option γ) (rows cols : ℕ)
    (v : ℕ × ℕ → α) (u : ℕ × ℕ → β) (w : ℕ × ℕ → γ)
    (h : ∀ p, f (some (v p)) (some (u p)) = some (w p)) :
    List.zipWith f (ofGrid rows cols v) (ofGrid rows cols u) = ofGrid rows cols w := by
  unfold ofGrid
  rw [List.zipWith_map, List.zipWith_self]
  exact List.map_congr_left (fun p _ => h p)

/-- **The result of a loop.** Every write puts into its cell what the array
`e` has there, and the cells that no round writes hold it already. -/
theorem fill_eq {round : ι → Option (Option (ℕ × α))} {rounds : List ι} {b e : Cells α}
    (hlen : b.length = e.length)
    (hround : ∀ i ∈ rounds, ∃ w, round i = some w ∧ ∀ kv ∈ w, e[kv.1]? = some (some kv.2))
    (hcell : ∀ n < e.length,
      (∃ i ∈ rounds, ∃ v, round i = some (some (n, v))) ∨ b[n]? = e[n]?) :
    fill round rounds b = some e := by
  have hsome : (fill round rounds b).isSome = true := by
    refine (isSome_fill_iff round rounds b).2 (fun i hi => ?_)
    obtain ⟨w, hw, hin⟩ := hround i hi
    refine ⟨w, hw, fun kv hkv => ?_⟩
    rw [hlen]
    exact (List.getElem?_eq_some_iff.1 (hin kv hkv)).1
  obtain ⟨b', hb'⟩ := Option.isSome_iff_exists.1 hsome
  rw [hb']
  refine congrArg some (List.ext_getElem? (fun n => ?_))
  rcases getElem?_fill hb' n with ⟨i, hi, v, hv, hget⟩ | ⟨hnone, hget⟩
  · obtain ⟨w, hw, hin⟩ := hround i hi
    rw [hget, hin (n, v) (Option.some.inj (hw.symm.trans hv))]
  · by_cases hn : n < e.length
    · rcases hcell n hn with ⟨i, hi, v, hv⟩ | hkeep
      · exact absurd hv (hnone i hi v)
      · rw [hget, hkeep]
    · rw [List.getElem?_eq_none (Nat.le_of_not_lt hn), List.getElem?_eq_none]
      rw [length_fill hb', hlen]
      exact Nat.le_of_not_lt hn

/-- **A loop over a matrix that replaces some entries**: the others stay as
they were. -/
theorem fill_grid {rows cols : ℕ} {round : ℕ × ℕ → Option (Option (ℕ × α))} {v : ℕ × ℕ → α}
    {b : Cells α} (hlen : b.length = rows * cols)
    (hround : ∀ p ∈ grid rows cols, round p = some (some (p.1 * cols + p.2, v p))
      ∨ round p = some none ∧ b[p.1 * cols + p.2]? = some (some (v p))) :
    fill round (grid rows cols) b = some (ofGrid rows cols v) := by
  refine fill_eq (by rw [hlen, length_ofGrid]) (fun p hp => ?_) (fun n hn => ?_)
  · rcases hround p hp with hw | ⟨hw, -⟩
    · refine ⟨_, hw, fun kv hkv => ?_⟩
      rw [← Option.some.inj hkv]
      exact getElem?_ofGrid v hp
    · exact ⟨_, hw, fun kv hkv => absurd hkv (Option.not_mem_none kv)⟩
  · rw [length_ofGrid] at hn
    obtain ⟨p, hp, rfl⟩ := exists_cell hn
    rcases hround p hp with hw | ⟨-, hkeep⟩
    · exact Or.inl ⟨p, hp, v p, hw⟩
    · exact Or.inr (hkeep.trans (getElem?_ofGrid v hp).symm)

/-- **A loop that also carries a value** is the loop of the array, and beside
it the value's own. -/
theorem foldlM_pair {σ : Type} (body : Cells α × σ → ι → Option (Cells α × σ))
    (round : ι → Option (Option (ℕ × α))) (next : σ → ι → σ) (rounds : List ι)
    (h : ∀ b s, ∀ i ∈ rounds,
      body (b, s) i = ((round i).bind b.put).map (fun b' => (b', next s i))) (b : Cells α) (s : σ) :
    rounds.foldlM body (b, s)
      = (fill round rounds b).map (fun b' => (b', rounds.foldl next s)) := by
  induction rounds generalizing b s with
  | nil => rfl
  | cons i rounds ih =>
    rw [List.foldlM_cons, fill_cons, h b s i List.mem_cons_self, List.foldl_cons]
    cases (round i).bind b.put with
    | none => rfl
    | some b' => exact ih (fun b s j hj => h b s j (List.mem_cons_of_mem i hj)) b' (next s i)

end Cells
