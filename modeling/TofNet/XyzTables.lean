import TofNet.ArrayLoop
import TofNet.ComputeBounds

/-!
# The XYZ tables

`GenerateXYZTables` makes the tables by which `ComputeXYZ` multiplies a depth:
the positions of all pixels of the sensor are undistorted, the pixels outside
of the valid radius are zeroed, and the window of the output is cut out. Seven
of its parameters come out of the dealias data, a message of which
`ensureTofiIsp` has only checked that the two dimensions of the output are not
0.

`wellDefined_iff` says for which dealias data the tables are defined. It fails
in three ways: a bin factor may be 0; the window may reach past the table it
is cut out of, or be so large that its size is not a 32-bit number; and an
entry of the window whose pixel was zeroed is not written at all.

The numbers of the tables are `float`s, of which little has to be known: that 0
is zero, that the root of a whole number is a number, and that taking 2 from
both sides does not turn an order around. So the arithmetic is a parameter, and
what is proved holds of any with these laws (`Floats.Laws`).

The loops are run over tables whose cells may not have been written. Each is
first computed for all pixels (`columnTable_eq` and the others), so that the
window can be followed with tables that are known.
-/

namespace OpenSource

open Cells

/-- **Arithmetic with `float`**, as far as the tables use it. -/
structure Floats (F : Type) where
  ofNat : ℕ → F
  /-- The number with these bits. -/
  ofBits : UInt32 → F
  add : F → F → F
  sub : F → F → F
  mul : F → F → F
  div : F → F → F
  sqrt : F → F
  isNan : F → Bool
  isZero : F → Bool
  lt : F → F → Bool
  ge : F → F → Bool

/-- What the order and the subtraction of a buffer of 2 have to do with each
other. A comparison with a number that is not one fails, and a subtraction
does not turn the order around. -/
structure Floats.Laws {F : Type} (fl : Floats F) : Prop where
  isZero_zero : fl.isZero (fl.ofNat 0) = true
  isNan_sqrt (n : ℕ) : fl.isNan (fl.sqrt (fl.ofNat n)) = false
  isNan_of_lt {r m : F} : fl.lt r m = true → fl.isNan r = false
  ge_of_lt {r m x : F} : fl.lt r m = true → fl.ge x (fl.sub m (fl.ofNat 2)) = true →
    fl.ge x (fl.sub r (fl.ofNat 2)) = true
  ge_of_not_lt {r m x : F} : fl.isNan m = false → fl.lt r m = false →
    fl.ge x (fl.sub r (fl.ofNat 2)) = true → fl.ge x (fl.sub m (fl.ofNat 2)) = true

/-- The parameters of `GenerateXYZTables`, with the types they have in
`TofiXYZDealiasData`. -/
structure XyzArgs where
  /-- The intrinsics of the camera. -/
  intrinsics : Bytes
  /-- The rows of the sensor, … -/
  sensorRows : UInt16
  /-- … and its columns. -/
  sensorCols : UInt16
  /-- The rows of the output, … -/
  outRows : UInt32
  /-- … and its columns. -/
  outCols : UInt32
  /-- Where the window begins, … -/
  offsetRows : UInt16
  /-- … in either direction. -/
  offsetCols : UInt16
  /-- How many rows make one, … -/
  rowBin : UInt8
  /-- … and how many columns. -/
  colBin : UInt8
  deriving DecidableEq

/-- `GEN_XYZ_ITERATIONS`. -/
def genXyzIterations : ℕ := 20

/-- Where `InitTofiCompute` takes the parameters from. -/
def xyzArgs (dealias : Bytes) : XyzArgs where
  intrinsics := slice 32 cameraIntrinsicsSize dealias
  sensorRows := get16 16 dealias
  sensorCols := get16 18 dealias
  outRows := dealiasRows dealias
  outCols := dealiasCols dealias
  offsetRows := get16 12 dealias
  offsetCols := get16 14 dealias
  rowBin := dealias.getD 9 0
  colBin := dealias.getD 10 0

/-! ## The sizes

The source has the sizes in 32 bits, and counts with an `int` in its loops. The
sensor's dimensions have 16 bits each, and are divided; so their product never
wraps, and that of the output may. -/

namespace XyzArgs

variable (a : XyzArgs)

/-- `n_rows` and `n_cols`: the full table. -/
def rows : ℕ := a.sensorRows.toNat / a.rowBin.toNat

/-- The columns of the full table. -/
def cols : ℕ := a.sensorCols.toNat / a.colBin.toNat

/-- `n_rows * n_cols`, a `uint32_t`, and the same product of the output. -/
def fullSize : ℕ := a.rows * a.cols % 2 ^ 32

/-- The product of the output's two dimensions. -/
def outSize : ℕ := a.outRows.toNat * a.outCols.toNat % 2 ^ 32

/-- The three arrays of the full table, and later those of the output, of 4
bytes an entry. `malloc` says which request is granted. -/
def fullAllocated (malloc : ℕ → ℕ → Bool) : Bool :=
  malloc 0 (a.fullSize * 4) && malloc 1 (a.fullSize * 4) && malloc 2 (a.fullSize * 4)

/-- The three arrays of the output. -/
def outAllocated (malloc : ℕ → ℕ → Bool) : Bool :=
  malloc 3 (a.outSize * 4) && malloc 4 (a.outSize * 4) && malloc 5 (a.outSize * 4)

end XyzArgs

/-- A `uint32_t` as the index of type `int` that it is assigned to; a negative
one is no index. -/
def intIndex (n : ℕ) : Option ℕ := if n % 2 ^ 32 < 2 ^ 31 then some (n % 2 ^ 32) else none

/-! ## The loops of GenerateXYZTables

They follow the source, each as a function of the tables that it reads. A table
is a list of cells, and a cell is none until it is written. -/

section Loops

variable {F : Type} (fl : Floats F) (undistort : Bytes → ℕ → UInt8 → UInt8 → F → F → F × F)
  (a : XyzArgs)

/-- `cx` and `cy`, the third and fourth number of the intrinsics, in binned
pixels. -/
def centerX : F := fl.div (fl.ofBits (get32 8 a.intrinsics)) (fl.ofNat a.rowBin.toNat)

/-- `cy`, likewise. -/
def centerY : F := fl.div (fl.ofBits (get32 12 a.intrinsics)) (fl.ofNat a.colBin.toNat)

/-- `r`: the distance of a pixel, a row and a column, from the center. -/
def radius (p : ℕ × ℕ) : F :=
  let ix := fl.sub (fl.ofNat p.2) (centerX fl a)
  let iy := fl.sub (fl.ofNat p.1) (centerY fl a)
  fl.sqrt (fl.add (fl.mul ix ix) (fl.mul iy iy))

/-- What `r_min` starts from. -/
def diagonal : F :=
  fl.sqrt (fl.ofNat ((a.rows * a.rows + a.cols * a.cols) % 2 ^ 32))

/-- What `p_z` gets. -/
def zValue (xy : F × F) : F :=
  fl.sqrt (fl.add (fl.add (fl.mul xy.1 xy.1) (fl.mul xy.2 xy.2)) (fl.ofNat 1))

/-- The check for invalid values. -/
def invalid (xy : F × F) : Bool :=
  fl.isNan xy.1 || fl.isNan xy.2 || fl.isNan (zValue fl xy) || fl.isZero (zValue fl xy)

/-- `p_xp`: a row of columns, copied to every row. The first row is its own
copy. -/
def columnTable : Option (Cells F) := do
  let row ← fill (fun i => some (some (i, fl.ofNat i))) (List.range a.cols) (alloc a.fullSize)
  fill (fun p => (row.read p.2).map (fun v => some (p.1 * a.cols % 2 ^ 32 + p.2, v)))
    (grid a.rows a.cols) row

/-- `p_yp`. -/
def rowTable : Option (Cells F) :=
  fill (fun p => some (some ((p.1 * a.cols + p.2) % 2 ^ 32, fl.ofNat p.1)))
    (grid a.rows a.cols) (alloc a.fullSize)

/-- `UndistortPoints`, which counts the pixels with an `int`. -/
def undistortPoints (xs ys : Cells F) : Option (Cells (F × F)) :=
  if a.rows * a.cols < 2 ^ 31 then
    fill (fun i => do
        let x ← xs.read i
        let y ← ys.read i
        some (some (i, undistort a.intrinsics genXyzIterations a.rowBin a.colBin x y)))
      (List.range (a.rows * a.cols)) (alloc a.fullSize)
  else none

/-- The loop that fills `p_z` and finds the smallest radius of an invalid
pixel. -/
def zTable (xys : Cells (F × F)) : Option (Cells F × F) :=
  (grid a.rows a.cols).foldlM (fun s p => do
      let idx ← intIndex (p.1 * a.cols + p.2)
      let xy ← xys.read idx
      let zs ← s.1.write idx (zValue fl xy)
      let r := radius fl a p
      some (zs, if (invalid fl xy && fl.lt r s.2) = true then r else s.2))
    (alloc a.fullSize, diagonal fl a)

/-- The three arrays side by side. -/
def joinTables (xys : Cells (F × F)) (zs : Cells F) : Cells (F × F × F) :=
  List.zipWith (fun xy z => do some ((← xy).1, (← xy).2, ← z)) xys zs

/-- The loop that zeroes the pixels outside of the valid radius. -/
def filterTables (xys : Cells (F × F)) (zs : Cells F) (rMin : F) : Option (Cells (F × F × F)) :=
  fill (fun p =>
      if fl.ge (radius fl a p) rMin = true then
        (intIndex (p.1 * a.cols + p.2)).map
          (fun idx => some (idx, (fl.ofNat 0, fl.ofNat 0, fl.ofNat 0)))
      else some none)
    (grid a.rows a.cols) (joinTables xys zs)

/-- `p_xfull`, `p_yfull` and `p_zfull`. -/
def fullTables : Option (Cells (F × F × F)) := do
  let xs ← columnTable fl a
  let ys ← rowTable fl a
  let xys ← undistortPoints undistort a xs ys
  let (zs, rMin) ← zTable fl a xys
  filterTables fl a xys zs (fl.sub rMin (fl.ofNat 2))

/-- What an entry of the output gets: `x / z`, `y / z` and `1 / z`. -/
def scaled (c : F × F × F) : F × F × F :=
  (fl.div c.1 c.2.2, fl.div c.2.1 c.2.2, fl.div (fl.ofNat 1) c.2.2)

/-- The index of an entry of the window in the full tables. -/
def windowIndex (p : ℕ × ℕ) : ℕ :=
  (p.1 + a.offsetRows.toNat) * a.cols + p.2 + a.offsetCols.toNat

/-- A round of the loop that cuts the window out of the full tables. An entry
whose `z` is 0 is skipped. -/
def cropRound (full : Cells (F × F × F)) (p : ℕ × ℕ) : Option (Option (ℕ × F × F × F)) := do
  let idx ← intIndex (windowIndex a p)
  let c ← full.read idx
  if fl.isZero c.2.2 = true then some none
  else (intIndex (p.1 * a.outCols.toNat + p.2)).map (fun cropIdx => some (cropIdx, scaled fl c))

/-- All rounds of it. -/
def cropTables (full out : Cells (F × F × F)) : Option (Cells (F × F × F)) :=
  fill (cropRound fl a full) (grid a.outRows.toNat a.outCols.toNat) out

/-- **`GenerateXYZTables`**: the status and the tables, where no tables are a
null pointer among the three; a null pointer has no cell to write to. There is
no result where the code divides by 0 or accesses a table outside of it. -/
def generateXYZTables (malloc : ℕ → ℕ → Bool) : Option (UInt32 × Option (Cells (F × F × F))) :=
  if a.rowBin = 0 ∨ a.colBin = 0 then none
  else if a.fullAllocated malloc = true then do
    let full ← fullTables fl undistort a
    if a.outAllocated malloc = true then do
      let out ← cropTables fl a full (alloc a.outSize)
      some (0, some out)
    else do
      let _ ← cropTables fl a full []
      some (0, none)
  else some (0xFFFFFFFF, none)

/-- `XYZTable`. -/
structure XYZTable (F : Type) where
  x : Cells F
  y : Cells F
  z : Cells F

/-- The structure, filled from the cells. -/
def XYZTable.ofCells (cells : Cells (F × F × F)) : XYZTable F where
  x := cells.map (Option.map (fun c => c.1))
  y := cells.map (Option.map (fun c => c.2.1))
  z := cells.map (Option.map (fun c => c.2.2))

/-- **`InitTofiCompute`**, as far as the tables: none where it reports
failure. -/
def initTofiCompute (malloc : ℕ → ℕ → Bool) (cal : Cal) : Option (Option (XYZTable F)) := do
  let (status, tables) ← generateXYZTables fl undistort (xyzArgs cal.dealias) malloc
  if status = 0 then some (tables.map XYZTable.ofCells) else some none

end Loops

/-! ## What the loops compute

Where an `int` counts the pixels, each loop visits every pixel once, and no
access is outside. -/

section Values

variable {F : Type} (fl : Floats F) (undistort : Bytes → ℕ → UInt8 → UInt8 → F → F → F × F)
  (a : XyzArgs)

/-- The undistorted position of a pixel. -/
def position (p : ℕ × ℕ) : F × F :=
  undistort a.intrinsics genXyzIterations a.rowBin a.colBin (fl.ofNat p.2) (fl.ofNat p.1)

/-- `r_min` after the loop. -/
def minRadius : F :=
  (grid a.rows a.cols).foldl (fun m p =>
      if (invalid fl (position fl undistort a p) && fl.lt (radius fl a p) m) = true
      then radius fl a p else m)
    (diagonal fl a)

/-- What the full tables have for a pixel. -/
def filtered (p : ℕ × ℕ) : F × F × F :=
  if fl.ge (radius fl a p) (fl.sub (minRadius fl undistort a) (fl.ofNat 2)) = true then
    (fl.ofNat 0, fl.ofNat 0, fl.ofNat 0)
  else ((position fl undistort a p).1, (position fl undistort a p).2,
    zValue fl (position fl undistort a p))

/-- The number of pixels of the sensor is a 32-bit number. -/
theorem XyzArgs.rows_mul_cols_lt : a.rows * a.cols < 2 ^ 32 := by
  have hrows : a.rows ≤ 65535 := (Nat.div_le_self _ _).trans (Nat.le_of_lt_succ (UInt16.toNat_lt _))
  have hcols : a.cols ≤ 65535 := (Nat.div_le_self _ _).trans (Nat.le_of_lt_succ (UInt16.toNat_lt _))
  calc a.rows * a.cols ≤ 65535 * 65535 := Nat.mul_le_mul hrows hcols
    _ < 2 ^ 32 := by norm_num

/-- The product of the full table does not wrap. -/
theorem XyzArgs.fullSize_eq : a.fullSize = a.rows * a.cols :=
  Nat.mod_eq_of_lt a.rows_mul_cols_lt

/-- A number that an `int` holds is its own index. -/
theorem intIndex_of_lt {n : ℕ} (h : n < 2 ^ 31) : intIndex n = some n := by
  unfold intIndex
  rw [Nat.mod_eq_of_lt (by omega), if_pos h]

/-- There is no other index. -/
theorem intIndex_eq_some {n k : ℕ} (hn : n < 2 ^ 32) (h : intIndex n = some k) :
    k = n ∧ n < 2 ^ 31 := by
  unfold intIndex at h
  rw [Nat.mod_eq_of_lt hn] at h
  split at h
  · next hlt => exact ⟨(Option.some.inj h).symm, hlt⟩
  · cases h

/-- `p_xp` is the column of each pixel. -/
theorem columnTable_eq (hpos : 0 < a.rows * a.cols) :
    columnTable fl a = some (ofGrid a.rows a.cols (fun p => fl.ofNat p.2)) := by
  have hrows : 0 < a.rows := Nat.pos_of_mul_pos_right hpos
  have hlen : a.cols ≤ a.rows * a.cols := Nat.le_mul_of_pos_left _ hrows
  have hsome : (fill (fun i => some (some (i, fl.ofNat i))) (List.range a.cols)
      (alloc a.fullSize)).isSome = true := by
    refine (isSome_fill_iff _ _ _).2 (fun i hi => ⟨_, rfl, fun kv hkv => ?_⟩)
    rw [← Option.some.inj hkv, length_alloc, a.fullSize_eq]
    exact (List.mem_range.1 hi).trans_le hlen
  obtain ⟨row, hrow⟩ := Option.isSome_iff_exists.1 hsome
  have hread : ∀ i < a.cols, row[i]? = some (some (fl.ofNat i)) := fun i hi => by
    rcases getElem?_fill hrow i with ⟨j, -, v, hv, hget⟩ | ⟨hnone, -⟩
    · obtain ⟨rfl, rfl⟩ := Prod.mk.inj (Option.some.inj (Option.some.inj hv))
      exact hget
    · exact absurd rfl (hnone i (List.mem_range.2 hi) (fl.ofNat i))
  unfold columnTable
  rw [hrow]
  refine fill_grid ?_ (fun p hp => Or.inl ?_)
  · rw [length_fill hrow, length_alloc, a.fullSize_eq]
  · have hcell := cell_lt hp
    have hsize := a.rows_mul_cols_lt
    unfold Cells.read
    rw [hread p.2 (mem_grid.1 hp).2, Nat.mod_eq_of_lt (by omega)]
    rfl

/-- `p_yp` is its row. -/
theorem rowTable_eq :
    rowTable fl a = some (ofGrid a.rows a.cols (fun p => fl.ofNat p.1)) := by
  refine fill_grid (by rw [length_alloc, a.fullSize_eq]) (fun p hp => Or.inl ?_)
  rw [Nat.mod_eq_of_lt ((cell_lt hp).trans a.rows_mul_cols_lt)]

/-- All pixels are undistorted. -/
theorem undistortPoints_eq (hint : a.rows * a.cols < 2 ^ 31) :
    undistortPoints undistort a (ofGrid a.rows a.cols (fun p => fl.ofNat p.2))
        (ofGrid a.rows a.cols (fun p => fl.ofNat p.1))
      = some (ofGrid a.rows a.cols (position fl undistort a)) := by
  unfold undistortPoints
  rw [if_pos hint]
  have hround : ∀ p ∈ grid a.rows a.cols, ∀ i, i = p.1 * a.cols + p.2 →
      (do
        let x ← (ofGrid a.rows a.cols (fun p => fl.ofNat p.2)).read i
        let y ← (ofGrid a.rows a.cols (fun p => fl.ofNat p.1)).read i
        some (some (i, undistort a.intrinsics genXyzIterations a.rowBin a.colBin x y)))
      = some (some (i, position fl undistort a p)) := by
    rintro p hp i rfl
    rw [read_ofGrid _ hp, read_ofGrid _ hp]
    rfl
  refine fill_eq (by rw [length_alloc, length_ofGrid, a.fullSize_eq]) (fun i hi => ?_)
    (fun n hn => Or.inl ?_)
  · obtain ⟨p, hp, hcell⟩ := exists_cell (List.mem_range.1 hi)
    refine ⟨_, hround p hp i hcell.symm, fun kv hkv => ?_⟩
    rw [← Option.some.inj hkv, ← hcell]
    exact getElem?_ofGrid _ hp
  · rw [length_ofGrid] at hn
    obtain ⟨p, hp, hcell⟩ := exists_cell hn
    exact ⟨n, List.mem_range.2 hn, _, hround p hp n hcell.symm⟩

/-- `p_z` for all pixels, and the smallest radius of an invalid one. -/
theorem zTable_eq (hint : a.rows * a.cols < 2 ^ 31) :
    zTable fl a (ofGrid a.rows a.cols (position fl undistort a))
      = some (ofGrid a.rows a.cols (fun p => zValue fl (position fl undistort a p)),
          minRadius fl undistort a) := by
  unfold zTable
  rw [foldlM_pair _
    (fun p => some (some (p.1 * a.cols + p.2, zValue fl (position fl undistort a p))))
    (fun m p => if (invalid fl (position fl undistort a p) && fl.lt (radius fl a p) m) = true
      then radius fl a p else m)]
  · rw [fill_grid (by rw [length_alloc, a.fullSize_eq]) (fun p _ => Or.inl rfl)]
    rfl
  · intro b s p hp
    rw [intIndex_of_lt ((cell_lt hp).trans hint)]
    simp only [Option.bind_eq_bind, Option.bind_some, read_ofGrid _ hp, put]
    cases b.write (p.1 * a.cols + p.2) (zValue fl (position fl undistort a p)) <;> rfl

/-- The tables behind the filter, for all pixels. -/
theorem filterTables_eq (hint : a.rows * a.cols < 2 ^ 31) :
    filterTables fl a (ofGrid a.rows a.cols (position fl undistort a))
        (ofGrid a.rows a.cols (fun p => zValue fl (position fl undistort a p)))
        (fl.sub (minRadius fl undistort a) (fl.ofNat 2))
      = some (ofGrid a.rows a.cols (filtered fl undistort a)) := by
  have hjoin : joinTables (ofGrid a.rows a.cols (position fl undistort a))
      (ofGrid a.rows a.cols (fun p => zValue fl (position fl undistort a p)))
      = ofGrid a.rows a.cols (fun p => ((position fl undistort a p).1,
          (position fl undistort a p).2, zValue fl (position fl undistort a p))) :=
    zipWith_ofGrid _ _ _ _ _ _ (fun p => rfl)
  unfold filterTables
  rw [hjoin]
  refine fill_grid (length_ofGrid _ _ _) (fun p hp => ?_)
  rw [intIndex_of_lt ((cell_lt hp).trans hint)]
  unfold filtered
  split
  · exact Or.inl rfl
  · exact Or.inr ⟨rfl, getElem?_ofGrid _ hp⟩

/-- **The full tables**, where the sensor has pixels, and not too many for an
`int`. -/
theorem fullTables_eq (hpos : 0 < a.rows * a.cols) (hint : a.rows * a.cols < 2 ^ 31) :
    fullTables fl undistort a = some (ofGrid a.rows a.cols (filtered fl undistort a)) := by
  unfold fullTables
  rw [columnTable_eq fl a hpos, rowTable_eq]
  simp only [Option.bind_eq_bind, Option.bind_some]
  rw [undistortPoints_eq fl undistort a hint, Option.bind_some, zTable_eq fl undistort a hint]
  exact filterTables_eq fl undistort a hint

/-- The full tables have no more entries than the sensor has pixels, and an
`int` counts them. -/
theorem of_fullTables {full : Cells (F × F × F)} (h : fullTables fl undistort a = some full) :
    a.rows * a.cols < 2 ^ 31 ∧ full.length ≤ a.rows * a.cols := by
  unfold fullTables at h
  obtain ⟨xs, -, h⟩ := Option.bind_eq_some_iff.1 h
  obtain ⟨ys, -, h⟩ := Option.bind_eq_some_iff.1 h
  obtain ⟨xys, hxys, h⟩ := Option.bind_eq_some_iff.1 h
  obtain ⟨⟨zs, rMin⟩, -, hfull⟩ := Option.bind_eq_some_iff.1 h
  unfold undistortPoints at hxys
  split at hxys
  case isFalse => cases hxys
  case isTrue hint =>
    have hlen : xys.length = a.rows * a.cols := by
      rw [length_fill hxys, length_alloc, a.fullSize_eq]
    refine ⟨hint, ?_⟩
    rw [length_fill hfull, joinTables, List.length_zipWith, hlen]
    exact Nat.min_le_left _ _

/-! ## The pixels that are zeroed

The loop finds the smallest radius, and the condition is about all the radii.
Comparing with a minimum is comparing with one of the numbers, which is where
the law of the subtraction is used. -/

/-- **A pixel that the output does not get**: it lies outside of the valid
radius, which is 2 pixels less than the diagonal and than the radius of every
invalid pixel, or its `z` is 0. -/
def Blank (p : ℕ × ℕ) : Prop :=
  fl.ge (radius fl a p) (fl.sub (diagonal fl a) (fl.ofNat 2)) = true
    ∨ (∃ q ∈ grid a.rows a.cols, invalid fl (position fl undistort a q) = true
        ∧ fl.ge (radius fl a p) (fl.sub (radius fl a q) (fl.ofNat 2)) = true)
    ∨ fl.isZero (zValue fl (position fl undistort a p)) = true

variable {fl}

/-- Outside of the smallest radius is outside of one of them. -/
theorem ge_foldl_iff (hfl : fl.Laws) (x : F) (bad : ℕ × ℕ → Bool) (pixels : List (ℕ × ℕ)) (m : F)
    (hm : fl.isNan m = false) :
    fl.ge x (fl.sub (pixels.foldl (fun m p =>
        if (bad p && fl.lt (radius fl a p) m) = true then radius fl a p else m) m) (fl.ofNat 2))
        = true
      ↔ fl.ge x (fl.sub m (fl.ofNat 2)) = true ∨ ∃ q ∈ pixels, bad q = true
          ∧ fl.ge x (fl.sub (radius fl a q) (fl.ofNat 2)) = true := by
  induction pixels generalizing m with
  | nil => simp
  | cons q pixels ih =>
    rw [List.foldl_cons]
    simp only [List.exists_mem_cons_iff]
    by_cases hq : (bad q && fl.lt (radius fl a q) m) = true
    · obtain ⟨hbad, hlt⟩ := Bool.and_eq_true_iff.1 hq
      rw [if_pos hq, ih _ (hfl.isNan_of_lt hlt)]
      have hless := hfl.ge_of_lt (x := x) hlt
      tauto
    · rw [if_neg hq, ih m hm]
      have hmore : bad q = true → fl.ge x (fl.sub (radius fl a q) (fl.ofNat 2)) = true →
          fl.ge x (fl.sub m (fl.ofNat 2)) = true := fun hbad =>
        hfl.ge_of_not_lt hm (by simpa [hbad] using hq)
      tauto

/-- The output skips exactly these pixels. -/
theorem isZero_filtered_iff (hfl : fl.Laws) (p : ℕ × ℕ) :
    fl.isZero (filtered fl undistort a p).2.2 = true ↔ Blank fl undistort a p := by
  have hmin : fl.ge (radius fl a p) (fl.sub (minRadius fl undistort a) (fl.ofNat 2)) = true ↔ _ :=
    ge_foldl_iff a hfl (radius fl a p) (fun q => invalid fl (position fl undistort a q)) _ _
      (hfl.isNan_sqrt _)
  unfold Blank filtered
  rw [← or_assoc, ← hmin]
  split
  · next h => exact ⟨fun _ => Or.inl h, fun _ => hfl.isZero_zero⟩
  · next h => exact ⟨Or.inr, fun hz => hz.resolve_left h⟩

end Values

/-! ## The window

The window is read entry by entry, and its index grows with both of its
coordinates; so the last entry decides for all of them. -/

section Window

variable {F : Type} {fl : Floats F} (undistort : Bytes → ℕ → UInt8 → UInt8 → F → F → F × F)
  {a : XyzArgs}

/-- The pixel that an entry of the window is cut out of. -/
def windowPixel (a : XyzArgs) (p : ℕ × ℕ) : ℕ × ℕ :=
  (windowIndex a p / a.cols, windowIndex a p % a.cols)

/-- The last entry of the window lies in the full table. -/
def XyzArgs.WindowInside (a : XyzArgs) : Prop :=
  (a.offsetRows.toNat + a.outRows.toNat - 1) * a.cols
    + (a.offsetCols.toNat + a.outCols.toNat - 1) < a.rows * a.cols

instance (a : XyzArgs) : Decidable a.WindowInside := inferInstanceAs (Decidable (_ < _))

/-- The index of an entry of the window, where nothing wraps. -/
theorem windowIndex_mk (a : XyzArgs) (j i : ℕ) :
    windowIndex a (j, i) = (j + a.offsetRows.toNat) * a.cols + i + a.offsetCols.toNat := rfl

/-- Then every entry does. -/
theorem XyzArgs.WindowInside.windowIndex_lt (h : a.WindowInside) {p : ℕ × ℕ}
    (hp : p ∈ grid a.outRows.toNat a.outCols.toNat) : windowIndex a p < a.rows * a.cols := by
  obtain ⟨hrow, hcol⟩ := mem_grid.1 hp
  have hrows : (p.1 + a.offsetRows.toNat) * a.cols
      ≤ (a.offsetRows.toNat + a.outRows.toNat - 1) * a.cols :=
    Nat.mul_le_mul_right _ (by omega)
  unfold XyzArgs.WindowInside at h
  unfold windowIndex
  omega

/-- **A window that reaches past the table is read past it**: the first entry
outside is still counted by 32 bits. -/
theorem XyzArgs.windowInside_of_read (hint : a.rows * a.cols < 2 ^ 31) (hrows : a.outRows ≠ 0)
    (hcols : a.outCols ≠ 0)
    (hread : ∀ p ∈ grid a.outRows.toNat a.outCols.toNat,
      ∃ idx, intIndex (windowIndex a p) = some idx ∧ idx < a.rows * a.cols) :
    a.WindowInside := by
  have hpos : 0 < a.outRows.toNat :=
    Nat.pos_of_ne_zero (fun h => hrows (UInt32.toNat_inj.1 h))
  have hpos' : 0 < a.outCols.toNat :=
    Nat.pos_of_ne_zero (fun h => hcols (UInt32.toNat_inj.1 h))
  have hoffr : a.offsetRows.toNat < 65536 := UInt16.toNat_lt _
  have hoffc : a.offsetCols.toNat < 65536 := UInt16.toNat_lt _
  have hbin : a.cols ≤ 65535 :=
    (Nat.div_le_self _ _).trans (Nat.le_of_lt_succ (UInt16.toNat_lt _))
  -- an index of 32 bits that is read lies in the table
  have hin : ∀ p ∈ grid a.outRows.toNat a.outCols.toNat, windowIndex a p < 2 ^ 32 →
      windowIndex a p < a.rows * a.cols := fun p hp hlt => by
    obtain ⟨idx, hidx, hlt'⟩ := hread p hp
    rwa [← (intIndex_eq_some hlt hidx).1]
  have hfirst : windowIndex a (0, 0) < a.rows * a.cols := by
    refine hin _ (mem_grid.2 ⟨hpos, hpos'⟩) ?_
    have hmul : a.offsetRows.toNat * a.cols ≤ 65535 * 65535 :=
      Nat.mul_le_mul (Nat.le_of_lt_succ hoffr) hbin
    rw [windowIndex_mk, Nat.zero_add]
    omega
  -- the rest of the first row
  have hfirstRow : ∀ i < a.outCols.toNat, windowIndex a (0, i) < a.rows * a.cols := by
    intro i hi
    induction i with
    | zero => exact hfirst
    | succ i ih =>
      have hprev := ih (by omega)
      refine hin _ (mem_grid.2 ⟨hpos, hi⟩) ?_
      rw [windowIndex_mk] at hprev ⊢
      omega
  -- and the last column
  have hlast : ∀ j < a.outRows.toNat,
      windowIndex a (j, a.outCols.toNat - 1) < a.rows * a.cols := by
    intro j hj
    induction j with
    | zero => exact hfirstRow _ (by omega)
    | succ j ih =>
      have hprev := ih (by omega)
      refine hin _ (mem_grid.2 ⟨hj, by omega⟩) ?_
      rw [windowIndex_mk] at hprev ⊢
      have hstep : (j + 1 + a.offsetRows.toNat) * a.cols
          = (j + a.offsetRows.toNat) * a.cols + a.cols := by ring
      omega
  have hcorner := hlast (a.outRows.toNat - 1) (by omega)
  rw [windowIndex_mk] at hcorner
  unfold XyzArgs.WindowInside
  rw [show a.offsetRows.toNat + a.outRows.toNat - 1
    = a.outRows.toNat - 1 + a.offsetRows.toNat by omega]
  omega

/-- A round reads the pixel of the window, and writes if that is not zeroed. -/
theorem cropRound_eq (hint : a.rows * a.cols < 2 ^ 31) (hinside : a.WindowInside) {p : ℕ × ℕ}
    (hp : p ∈ grid a.outRows.toNat a.outCols.toNat) :
    cropRound fl a (ofGrid a.rows a.cols (filtered fl undistort a)) p
      = if fl.isZero (filtered fl undistort a (windowPixel a p)).2.2 = true then some none
        else (intIndex (p.1 * a.outCols.toNat + p.2)).map
          (fun idx => some (idx, scaled fl (filtered fl undistort a (windowPixel a p)))) := by
  have hlt := hinside.windowIndex_lt hp
  unfold cropRound
  rw [intIndex_of_lt (hlt.trans hint)]
  simp only [Option.bind_eq_bind, Option.bind_some]
  rw [read_ofGrid_of_lt _ hlt]
  rfl

/-- Without the arrays of the output, nothing may be written. -/
theorem isSome_cropTables_nil_iff (hfl : fl.Laws) (hint : a.rows * a.cols < 2 ^ 31)
    (hinside : a.WindowInside) :
    (cropTables fl a (ofGrid a.rows a.cols (filtered fl undistort a)) []).isSome = true
      ↔ ∀ p ∈ grid a.outRows.toNat a.outCols.toNat, Blank fl undistort a (windowPixel a p) := by
  unfold cropTables
  rw [isSome_fill_iff]
  refine forall₂_congr (fun p hp => ?_)
  rw [cropRound_eq undistort hint hinside hp, ← isZero_filtered_iff undistort a hfl]
  constructor
  · rintro ⟨w, hw, hin⟩
    by_contra hz
    rw [if_neg hz] at hw
    obtain ⟨idx, -, rfl⟩ := Option.map_eq_some_iff.1 hw
    exact absurd (hin _ rfl) (Nat.not_lt_zero _)
  · intro hz
    exact ⟨none, if_pos hz, fun kv hkv => absurd hkv (Option.not_mem_none kv)⟩

/-- **Every entry of the output is written** exactly if an `int` counts the
entries and no pixel of the window is zeroed. -/
theorem written_cropTables_iff (hfl : fl.Laws) (hint : a.rows * a.cols < 2 ^ 31)
    (hinside : a.WindowInside) (hout : a.outRows.toNat * a.outCols.toNat < 2 ^ 32)
    (hpos : 0 < a.outRows.toNat * a.outCols.toNat) :
    (∃ out, cropTables fl a (ofGrid a.rows a.cols (filtered fl undistort a)) (alloc a.outSize)
        = some out ∧ ∀ c ∈ out, c.isSome = true)
      ↔ a.outRows.toNat * a.outCols.toNat ≤ 2 ^ 31
        ∧ ∀ p ∈ grid a.outRows.toNat a.outCols.toNat,
            ¬ Blank fl undistort a (windowPixel a p) := by
  have hout' : a.outSize = a.outRows.toNat * a.outCols.toNat := Nat.mod_eq_of_lt hout
  have hsize : (alloc a.outSize : Cells (F × F × F)).length
      = a.outRows.toNat * a.outCols.toNat := by
    rw [length_alloc, hout']
  constructor
  · rintro ⟨out, hcrop, hall⟩
    -- whatever is written is written in the round of its own cell
    have hcell : ∀ p ∈ grid a.outRows.toNat a.outCols.toNat,
        p.1 * a.outCols.toNat + p.2 < 2 ^ 31 ∧ ¬ Blank fl undistort a (windowPixel a p) := by
      intro p hp
      have hlt := cell_lt hp
      rcases getElem?_fill hcrop (p.1 * a.outCols.toNat + p.2) with
        ⟨q, hq, v, hv, -⟩ | ⟨-, hget⟩
      · rw [cropRound_eq undistort hint hinside hq] at hv
        split at hv
        · exact absurd (Option.some.inj hv).symm (Option.some_ne_none _)
        · next hz =>
          obtain ⟨idx, hidx, heq⟩ := Option.map_eq_some_iff.1 hv
          obtain ⟨hqidx, hqlt⟩ := intIndex_eq_some ((cell_lt hq).trans hout) hidx
          have hidx' : idx = p.1 * a.outCols.toNat + p.2 := congrArg Prod.fst (Option.some.inj heq)
          obtain rfl : q = p := cell_injective hq hp (hqidx.symm.trans hidx')
          rw [← isZero_filtered_iff undistort a hfl]
          exact ⟨hqlt, hz⟩
      · rw [hout', alloc, List.getElem?_replicate_of_lt hlt] at hget
        exact absurd (hall none (List.mem_of_getElem? hget)) Bool.false_ne_true
    refine ⟨?_, fun p hp => (hcell p hp).2⟩
    obtain ⟨p, hp, hlast⟩ := exists_cell (Nat.sub_lt hpos Nat.one_pos)
    have := (hcell p hp).1
    omega
  · rintro ⟨hcount, hnone⟩
    refine ⟨ofGrid a.outRows.toNat a.outCols.toNat
      (fun p => scaled fl (filtered fl undistort a (windowPixel a p))), ?_, fun c hc => ?_⟩
    · refine fill_grid hsize (fun p hp => Or.inl ?_)
      rw [cropRound_eq undistort hint hinside hp, if_neg,
        intIndex_of_lt ((cell_lt hp).trans_le hcount)]
      · rfl
      · rw [isZero_filtered_iff undistort a hfl]
        exact hnone p hp
    · obtain ⟨p, -, rfl⟩ := List.mem_map.1 hc
      rfl

end Window

/-! ## When the tables are defined

The condition has a part for each way in which the tables may not be defined. It
is shown first that defined tables need a window that fits, and then that one
that fits is enough. -/

section WellDefined

variable {F : Type} (fl : Floats F) (undistort : Bytes → ℕ → UInt8 → UInt8 → F → F → F × F)
  (malloc : ℕ → ℕ → Bool)

/-- The pairs of numbers whose product is the size of an array. -/
def sizeProducts (a : XyzArgs) : List (ℕ × ℕ) :=
  (a.rows, a.cols)
    :: if a.fullAllocated malloc = true then [(a.outRows.toNat, a.outCols.toNat)] else []

/-- **The tables are well-defined**: nothing is divided by 0 and no array is
accessed outside of it, the sizes do not wrap, and tables that are returned
have all their entries, each of which has been written. -/
structure WellDefined (cal : Cal) : Prop where
  /-- Nothing undefined happens. -/
  defined : (initTofiCompute fl undistort malloc cal).isSome = true
  /-- No size wraps. -/
  products : ∀ p ∈ sizeProducts malloc (xyzArgs cal.dealias), p.1 * p.2 < 2 ^ 32
  /-- Tables that are returned have all their entries. -/
  complete : ∀ xyz, initTofiCompute fl undistort malloc cal = some (some xyz) →
    ∀ t ∈ [xyz.x, xyz.y, xyz.z],
      t.length = (dealiasRows cal.dealias).toNat * (dealiasCols cal.dealias).toNat
        ∧ ∀ c ∈ t, c.isSome = true

/-- What the window has to be once the full table has been allocated. -/
structure WindowFits (a : XyzArgs) : Prop where
  /-- The full table can be indexed with an `int`. -/
  fullCount : a.rows * a.cols < 2 ^ 31
  /-- The window lies in it. -/
  inside : a.WindowInside
  /-- The size of the window is a 32-bit number. -/
  outSize : a.outRows.toNat * a.outCols.toNat < 2 ^ 32
  /-- Where there is memory for it, each of its entries is written. -/
  written : a.outAllocated malloc = true → a.outRows.toNat * a.outCols.toNat ≤ 2 ^ 31
    ∧ ∀ p ∈ grid a.outRows.toNat a.outCols.toNat, ¬ Blank fl undistort a (windowPixel a p)
  /-- Where there is none, no entry would have been. -/
  skipped : a.outAllocated malloc = false →
    ∀ p ∈ grid a.outRows.toNat a.outCols.toNat, Blank fl undistort a (windowPixel a p)

/-- **The condition on the dealias data.** -/
structure TablesFit (a : XyzArgs) : Prop where
  /-- Neither factor is 0. -/
  rowBin : a.rowBin ≠ 0
  /-- The other of the two. -/
  colBin : a.colBin ≠ 0
  /-- The window fits, once it is come to. -/
  window : a.fullAllocated malloc = true → WindowFits fl undistort malloc a

variable {fl malloc} {a : XyzArgs}

/-- A result needs the window inside the full table. -/
theorem window_of_crop {full out : Cells (F × F × F)} (hrows : a.outRows ≠ 0)
    (hcols : a.outCols ≠ 0) (hfull : fullTables fl undistort a = some full)
    (hcrop : (cropTables fl a full out).isSome = true) :
    a.rows * a.cols < 2 ^ 31 ∧ a.WindowInside := by
  obtain ⟨hint, hlen⟩ := of_fullTables fl undistort a hfull
  refine ⟨hint, a.windowInside_of_read hint hrows hcols (fun p hp => ?_)⟩
  obtain ⟨w, hw, -⟩ := (isSome_fill_iff _ _ _).1 hcrop p hp
  obtain ⟨idx, hidx, hw⟩ := Option.bind_eq_some_iff.1 hw
  obtain ⟨c, hc, -⟩ := Option.bind_eq_some_iff.1 hw
  refine ⟨idx, hidx, ?_⟩
  by_contra hge
  rw [read_eq_none (hlen.trans (Nat.le_of_not_lt hge))] at hc
  exact Option.some_ne_none _ hc.symm

/-- The output has pixels, as its dimensions were checked. -/
theorem outPixels_pos {dealias : Bytes} (hrows : dealiasRows dealias ≠ 0)
    (hcols : dealiasCols dealias ≠ 0) :
    0 < (dealiasRows dealias).toNat * (dealiasCols dealias).toNat :=
  Nat.mul_pos (Nat.pos_of_ne_zero (fun h => hrows (UInt32.toNat_inj.1 h)))
    (Nat.pos_of_ne_zero (fun h => hcols (UInt32.toNat_inj.1 h)))

/-- A window inside the full table needs pixels of the sensor. -/
theorem XyzArgs.WindowInside.pos (h : a.WindowInside) : 0 < a.rows * a.cols :=
  Nat.zero_lt_of_lt h

/-- `InitTofiCompute` where the full tables can be allocated. -/
theorem initTofiCompute_eq {cal : Cal} (hrow : (xyzArgs cal.dealias).rowBin ≠ 0)
    (hcol : (xyzArgs cal.dealias).colBin ≠ 0)
    (halloc : (xyzArgs cal.dealias).fullAllocated malloc = true) :
    initTofiCompute fl undistort malloc cal
      = (fullTables fl undistort (xyzArgs cal.dealias)).bind (fun full =>
          if (xyzArgs cal.dealias).outAllocated malloc = true then
            (cropTables fl (xyzArgs cal.dealias) full (alloc (xyzArgs cal.dealias).outSize)).map
              (fun out => some (XYZTable.ofCells out))
          else (cropTables fl (xyzArgs cal.dealias) full []).map (fun _ => none)) := by
  unfold initTofiCompute generateXYZTables
  rw [if_neg (by simp [hrow, hcol]), if_pos halloc]
  cases fullTables fl undistort (xyzArgs cal.dealias) with
  | none => rfl
  | some full =>
    simp only [Option.bind_eq_bind, Option.bind_some]
    split
    · cases cropTables fl (xyzArgs cal.dealias) full (alloc (xyzArgs cal.dealias).outSize) <;> rfl
    · cases cropTables fl (xyzArgs cal.dealias) full [] <;> rfl

/-- The three tables are written where their entries are. -/
theorem forall_mem_ofCells (out : Cells (F × F × F)) (n : ℕ) :
    (∀ t ∈ [(XYZTable.ofCells out).x, (XYZTable.ofCells out).y, (XYZTable.ofCells out).z],
        t.length = n ∧ ∀ c ∈ t, c.isSome = true)
      ↔ out.length = n ∧ ∀ c ∈ out, c.isSome = true := by
  simp [XYZTable.ofCells]

/-- The tables have as many entries as the context of the library counts. -/
theorem length_of_initTofiCompute {cal : Cal} {xyz : XYZTable F}
    (h : initTofiCompute fl undistort malloc cal = some (some xyz)) :
    ∀ t ∈ [xyz.x, xyz.y, xyz.z],
      t.length = (dealiasRows cal.dealias * dealiasCols cal.dealias).toNat := by
  unfold initTofiCompute generateXYZTables at h
  split at h
  · cases h
  split at h
  case isFalse => cases h
  case isTrue =>
    obtain ⟨⟨status, tables⟩, hgen, h⟩ := Option.bind_eq_some_iff.1 h
    obtain ⟨full, -, hgen⟩ := Option.bind_eq_some_iff.1 hgen
    split at hgen
    · obtain ⟨out, hcrop, hgen⟩ := Option.bind_eq_some_iff.1 hgen
      obtain ⟨rfl, rfl⟩ := Prod.mk.inj (Option.some.inj hgen)
      obtain rfl := Option.some.inj (Option.some.inj h)
      have hlen : out.length = (dealiasRows cal.dealias * dealiasCols cal.dealias).toNat := by
        rw [UInt32.toNat_mul, length_fill hcrop, length_alloc]
        rfl
      simpa [XYZTable.ofCells] using hlen
    · obtain ⟨out, -, hgen⟩ := Option.bind_eq_some_iff.1 hgen
      obtain ⟨rfl, rfl⟩ := Prod.mk.inj (Option.some.inj hgen)
      cases h

variable (fl malloc) in
/-- For which dealias data the library has tables. -/
def generates (dealias : Bytes) : Bool :=
  (initTofiCompute fl undistort malloc { dealias := dealias, bits := 0 }).any Option.isSome

/-- **A context of the library has its tables**: as many entries as it counts. -/
theorem tables_of_library {allocates : ℕ → Bool} {cal : Cal} {context : Context}
    (h : ((library (generates fl undistort malloc) allocates).initTofiCompute cal).1
      = some context) :
    ∃ xyz, initTofiCompute fl undistort malloc cal = some (some xyz)
      ∧ ∀ t ∈ [xyz.x, xyz.y, xyz.z], t.length = context.tables := by
  unfold library at h
  dsimp only at h
  split at h
  case isFalse => cases h
  case isTrue hgen =>
    obtain rfl := Option.some.inj h
    change (initTofiCompute fl undistort malloc cal).any Option.isSome = true at hgen
    cases hinit : initTofiCompute fl undistort malloc cal with
    | none =>
      rw [hinit] at hgen
      exact absurd hgen Bool.false_ne_true
    | some tables =>
      rw [hinit, Option.any_some] at hgen
      obtain ⟨xyz, rfl⟩ := Option.isSome_iff_exists.1 hgen
      exact ⟨xyz, rfl, length_of_initTofiCompute undistort hinit⟩

/-- The products that may wrap. -/
theorem mem_sizeProducts (halloc : a.fullAllocated malloc = true) :
    (a.outRows.toNat, a.outCols.toNat) ∈ sizeProducts malloc a := by
  unfold sizeProducts
  rw [if_pos halloc]
  exact List.mem_cons_of_mem _ List.mem_cons_self

/-- **Defined tables have a window that fits.** -/
theorem WellDefined.windowFits (hfl : fl.Laws) {cal : Cal} (h : WellDefined fl undistort malloc cal)
    (hrows : dealiasRows cal.dealias ≠ 0) (hcols : dealiasCols cal.dealias ≠ 0)
    (hrow : (xyzArgs cal.dealias).rowBin ≠ 0) (hcol : (xyzArgs cal.dealias).colBin ≠ 0)
    (halloc : (xyzArgs cal.dealias).fullAllocated malloc = true) :
    WindowFits fl undistort malloc (xyzArgs cal.dealias) := by
  obtain ⟨hdefined, hsizes, hcomplete⟩ := h
  have hinit : initTofiCompute fl undistort malloc cal = _ :=
    initTofiCompute_eq undistort hrow hcol halloc
  have hout : (dealiasRows cal.dealias).toNat * (dealiasCols cal.dealias).toNat < 2 ^ 32 :=
    hsizes (_, _) (mem_sizeProducts halloc)
  obtain ⟨r, hr⟩ := Option.isSome_iff_exists.1 hdefined
  rw [hinit] at hr
  obtain ⟨full, hfull, hr⟩ := Option.bind_eq_some_iff.1 hr
  by_cases houts : (xyzArgs cal.dealias).outAllocated malloc = true
  · rw [if_pos houts] at hr
    obtain ⟨out, hcrop, -⟩ := Option.map_eq_some_iff.1 hr
    obtain ⟨hint, hinside⟩ := window_of_crop undistort (a := xyzArgs cal.dealias) hrows hcols
      hfull (Option.isSome_iff_exists.2 ⟨out, hcrop⟩)
    refine ⟨hint, hinside, hout, fun _ => ?_, fun h => absurd houts (by rw [h]; decide)⟩
    have hreturned : initTofiCompute fl undistort malloc cal
        = some (some (XYZTable.ofCells out)) := by
      rw [hinit, hfull, Option.bind_some, if_pos houts, hcrop]
      rfl
    rw [fullTables_eq fl undistort _ hinside.pos hint] at hfull
    obtain rfl := Option.some.inj hfull
    exact (written_cropTables_iff undistort hfl hint hinside hout (outPixels_pos hrows hcols)).1
      ⟨out, hcrop, ((forall_mem_ofCells out _).1 (hcomplete _ hreturned)).2⟩
  · rw [if_neg houts] at hr
    obtain ⟨out, hcrop, -⟩ := Option.map_eq_some_iff.1 hr
    have hsome : (cropTables fl (xyzArgs cal.dealias) full []).isSome = true :=
      Option.isSome_iff_exists.2 ⟨out, hcrop⟩
    obtain ⟨hint, hinside⟩ := window_of_crop undistort (a := xyzArgs cal.dealias) hrows hcols
      hfull hsome
    rw [fullTables_eq fl undistort _ hinside.pos hint] at hfull
    obtain rfl := Option.some.inj hfull
    exact ⟨hint, hinside, hout, fun h => absurd h houts,
      fun _ => (isSome_cropTables_nil_iff undistort hfl hint hinside).1 hsome⟩

/-- **With a window that fits, the tables are defined.** -/
theorem WindowFits.wellDefined (hfl : fl.Laws) {cal : Cal}
    (h : WindowFits fl undistort malloc (xyzArgs cal.dealias))
    (hrows : dealiasRows cal.dealias ≠ 0) (hcols : dealiasCols cal.dealias ≠ 0)
    (hrow : (xyzArgs cal.dealias).rowBin ≠ 0) (hcol : (xyzArgs cal.dealias).colBin ≠ 0)
    (halloc : (xyzArgs cal.dealias).fullAllocated malloc = true) :
    WellDefined fl undistort malloc cal := by
  obtain ⟨hint, hinside, hout, hwritten, hskipped⟩ := h
  have hproducts : ∀ p ∈ sizeProducts malloc (xyzArgs cal.dealias), p.1 * p.2 < 2 ^ 32 := by
    unfold sizeProducts
    rw [if_pos halloc, List.forall_mem_cons, List.forall_mem_singleton]
    exact ⟨(xyzArgs cal.dealias).rows_mul_cols_lt, hout⟩
  have hinit : initTofiCompute fl undistort malloc cal = _ :=
    initTofiCompute_eq undistort hrow hcol halloc
  rw [fullTables_eq fl undistort (xyzArgs cal.dealias) hinside.pos hint, Option.bind_some] at hinit
  by_cases houts : (xyzArgs cal.dealias).outAllocated malloc = true
  · obtain ⟨out, hcrop, hall⟩ := (written_cropTables_iff undistort hfl hint hinside hout
      (outPixels_pos hrows hcols)).2 (hwritten houts)
    rw [if_pos houts, hcrop, Option.map_some] at hinit
    refine ⟨by rw [hinit]; rfl, hproducts, fun xyz hxyz => ?_⟩
    obtain rfl := Option.some.inj (Option.some.inj (hinit.symm.trans hxyz))
    refine (forall_mem_ofCells out _).2 ⟨?_, hall⟩
    rw [length_fill hcrop, length_alloc]
    exact Nat.mod_eq_of_lt hout
  · obtain ⟨out, hcrop⟩ := Option.isSome_iff_exists.1
      ((isSome_cropTables_nil_iff undistort hfl hint hinside).2
        (hskipped (Bool.eq_false_iff.2 houts)))
    rw [if_neg houts, hcrop, Option.map_some] at hinit
    refine ⟨by rw [hinit]; rfl, hproducts, fun xyz hxyz => ?_⟩
    exact absurd (Option.some.inj (hinit.symm.trans hxyz)) (Option.some_ne_none _).symm

/-- A bin factor of 0 has no result. -/
theorem initTofiCompute_of_bin {cal : Cal}
    (h : (xyzArgs cal.dealias).rowBin = 0 ∨ (xyzArgs cal.dealias).colBin = 0) :
    initTofiCompute fl undistort malloc cal = none := by
  unfold initTofiCompute generateXYZTables
  rw [if_pos h]
  rfl

/-- Without memory for the full tables there is a failure. -/
theorem wellDefined_of_not_fullAllocated {cal : Cal} (hrow : (xyzArgs cal.dealias).rowBin ≠ 0)
    (hcol : (xyzArgs cal.dealias).colBin ≠ 0)
    (halloc : ¬ (xyzArgs cal.dealias).fullAllocated malloc = true) :
    WellDefined fl undistort malloc cal := by
  have hfails : initTofiCompute fl undistort malloc cal = some none := by
    unfold initTofiCompute generateXYZTables
    rw [if_neg (not_or.2 ⟨hrow, hcol⟩), if_neg halloc]
    rfl
  refine ⟨by rw [hfails]; rfl, ?_, fun xyz hxyz => ?_⟩
  · unfold sizeProducts
    rw [if_neg halloc, List.forall_mem_singleton]
    exact (xyzArgs cal.dealias).rows_mul_cols_lt
  · rw [hfails] at hxyz
    exact absurd (Option.some.inj hxyz).symm (Option.some_ne_none xyz)

/-- **The tables are defined exactly if their window fits.**

The two assumptions on the dealias data are those that `ensureTofiIsp` has
checked. All other parameters may be anything, and so may the undistortion and
what the allocator answers; where the full tables cannot be allocated the
function returns at once, and there is nothing for the window to fit into. The
arithmetic is any with the laws of `Floats`. -/
theorem wellDefined_iff (hfl : fl.Laws) {cal : Cal} (hrows : dealiasRows cal.dealias ≠ 0)
    (hcols : dealiasCols cal.dealias ≠ 0) :
    WellDefined fl undistort malloc cal
      ↔ TablesFit fl undistort malloc (xyzArgs cal.dealias) := by
  by_cases hbin : (xyzArgs cal.dealias).rowBin = 0 ∨ (xyzArgs cal.dealias).colBin = 0
  · constructor
    · intro h
      have hdefined := h.defined
      rw [initTofiCompute_of_bin undistort hbin] at hdefined
      exact absurd hdefined Bool.false_ne_true
    · intro h
      exact absurd hbin (not_or.2 ⟨h.rowBin, h.colBin⟩)
  · obtain ⟨hrow, hcol⟩ := not_or.1 hbin
    constructor
    · intro h
      exact ⟨hrow, hcol, h.windowFits undistort hfl hrows hcols hrow hcol⟩
    · intro h
      by_cases halloc : (xyzArgs cal.dealias).fullAllocated malloc = true
      · exact (h.window halloc).wellDefined undistort hfl hrows hcols hrow hcol halloc
      · exact wellDefined_of_not_fullAllocated undistort hrow hcol halloc

/-! ## Numbers without a fraction

Any arithmetic with the laws will do for an example, and the integers have them. -/

/-- Integers as numbers; the square root is the whole part. -/
def wholeFloats : Floats ℤ where
  ofNat n := n
  ofBits b := if b = 0x3F800000 then 1 else 0
  add := (· + ·)
  sub := (· - ·)
  mul := (· * ·)
  div := (· / ·)
  sqrt x := Nat.findGreatest (fun k => k * k ≤ x.toNat) x.toNat
  isNan _ := false
  isZero x := decide (x = 0)
  lt x y := decide (x < y)
  ge x y := decide (y ≤ x)

/-- The integers have the laws. -/
theorem laws_wholeFloats : wholeFloats.Laws where
  isZero_zero := rfl
  isNan_sqrt _ := rfl
  isNan_of_lt _ := rfl
  ge_of_lt {r m x} hlt hge := by
    have hlt : r < m := of_decide_eq_true hlt
    have hge : m - 2 ≤ x := of_decide_eq_true hge
    exact decide_eq_true (show r - 2 ≤ x by omega)
  ge_of_not_lt {r m x} _ hlt hge := by
    have hlt : ¬ r < m := of_decide_eq_false hlt
    have hge : r - 2 ≤ x := of_decide_eq_true hge
    exact decide_eq_true (show m - 2 ≤ x by omega)

/-- Dealias data with the given bin factor of the rows: an output of one
pixel, a sensor of 3 rows and 4 columns, a focal length of 1 and no
distortion. -/
def plainDealias (rowBin : UInt8) : Bytes :=
  [1, 0, 0, 0, 1, 0, 0, 0, 2, rowBin, 1, 0, 0, 0, 0, 0, 3, 0, 4, 0, 0, 0, 0, 0, 0, 0, 0, 0, 0, 0,
    0, 0, 0, 0, 128, 63, 0, 0, 128, 63] ++ List.replicate 48 0

/-- With a bin factor of 1 the tables are defined. -/
theorem wellDefined_plainDealias :
    WellDefined wholeFloats (fun _ _ _ _ x y => (x, y)) (fun _ _ => true)
      { dealias := plainDealias 1, bits := 0 } := by
  have hvalid : (grid 3 4).all (fun q => !invalid wholeFloats
      (position wholeFloats (fun _ _ _ _ x y => (x, y)) (xyzArgs (plainDealias 1)) q)) = true := by
    decide
  refine (wellDefined_iff _ laws_wholeFloats (by decide) (by decide)).2
    ⟨by decide, by decide, fun _ => ⟨by decide, by decide, by decide,
      fun _ => ⟨by decide, fun p hp => ?_⟩, fun h => absurd h (by decide)⟩⟩
  obtain ⟨hrow, hcol⟩ := mem_grid.1 hp
  obtain rfl : p = (0, 0) := Prod.ext (Nat.lt_one_iff.1 hrow) (Nat.lt_one_iff.1 hcol)
  rintro (hge | ⟨q, hq, hinvalid, -⟩ | hz)
  · exact absurd hge (by decide)
  · have := List.all_eq_true.1 hvalid q hq
    rw [hinvalid] at this
    exact absurd this (by decide)
  · exact absurd hz (by decide)

/-- **With a bin factor of 0 they are not**: the code divides by it. -/
theorem not_wellDefined_binZero :
    dealiasRows (plainDealias 0) ≠ 0 ∧ dealiasCols (plainDealias 0) ≠ 0
      ∧ ¬ WellDefined wholeFloats (fun _ _ _ _ x y => (x, y)) (fun _ _ => true)
          { dealias := plainDealias 0, bits := 0 } := by
  refine ⟨by decide, by decide, fun h => ?_⟩
  have hdefined := h.defined
  rw [initTofiCompute_of_bin _ (Or.inl (by decide))] at hdefined
  exact Bool.false_ne_true hdefined

end WellDefined

end OpenSource
