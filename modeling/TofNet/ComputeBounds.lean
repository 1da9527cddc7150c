import TofNet.TofiCache

/-!
# The buffers of TofiCompute

`TofiCompute` unpacks a raw frame with the dimensions of the dealias data and
the bit widths of the INI file, into buffers that the viewer has allocated for
those dimensions. The raw frame is a third message, and nothing compares its
length with the other two: `handleDataFrame` checks it against its own header,
and `ensureTofiIsp` checks the dimensions, which are signed, against 0.

Every access is made through a lookup here, so that `tofiCompute` has no
result where one falls outside its buffer. `bounds_iff` says for which
messages it has one.
-/

namespace OpenSource

/-! ## The computation

The arithmetic of the offsets is that of the source: the offset of a pixel is a
`uint32_t`, which may wrap, the index of `ComputeXYZ` is an `int`, and where a
field of the pixel begins depends on the widths. The coordinates are floating
point, and only their places are of interest here. -/

/-- `NUM_BITS`. -/
def numBits (input pos n : ℕ) : ℕ := ((1 <<< n) - 1) &&& (input >>> pos)

/-- Two bytes as a `uint16_t`. -/
def word (low high : UInt8) : ℕ := low.toNat ||| high.toNat <<< 8

/-- `n_bytes`: the bytes from one pixel to the next. -/
def pixelBytes (w : PixelWidths) : ℕ := (w.depth + w.conf + w.ab) / 8

/-- Where a pixel's active brightness begins. -/
def countConf (w : PixelWidths) : ℕ := if w.ab ≠ 0 then (w.depth + w.conf) / 8 else 0

/-- Where its second byte is. -/
def abCount (w : PixelWidths) : ℕ := if w.ab = 8 then 0 else countConf w + 1

/-- Where the second byte of the confidence is. -/
def isConf (w : PixelWidths) : ℕ := if w.depth + w.conf = 16 then 0 else 2

/-- The bit at which the confidence begins, a `uint32_t`. -/
def posConf (w : PixelWidths) : ℕ := if w.depth = 16 then 8 else (16 + 2 ^ 32 - w.depth) % 2 ^ 32

/-- The loop body of `DeInterleaveDepth`: depth, confidence and active
brightness of the pixel whose bytes begin at `base`. -/
def deInterleavePixel (w : PixelWidths) (raw : Bytes) (base : ℕ) : Option (ℕ × ℕ × ℕ) := do
  let b₀ ← raw[base]?
  let b₁ ← raw[base + 1]?
  let c ← raw[base + isConf w]?
  let a₀ ← raw[base + countConf w]?
  let a₁ ← raw[base + abCount w]?
  let posAb := if (w.depth + w.conf) % 8 ≠ 0 then 4 else 0
  some (numBits (word b₀ b₁) 0 w.depth, numBits (word b₁ c) (posConf w) w.conf,
    numBits (word a₀ a₁) posAb w.ab)

/-- `DeInterleaveDepth`, into planes of `planePixels` pixels. The offset of a
pixel is a `uint32_t`. -/
def deInterleaveDepth (w : PixelWidths) (raw : Bytes) (planePixels pixels : ℕ) :
    Option (List (ℕ × ℕ × ℕ)) :=
  (List.range pixels).mapM (fun pixel =>
    if pixel < planePixels then deInterleavePixel w raw (pixel * pixelBytes w % 2 ^ 32) else none)

/-- The accesses of `ComputeXYZ`, whose index is an `int`; the coordinates
themselves are floating point. -/
def computeXYZ (tables planePixels pixels : ℕ) : Option (List Unit) :=
  (List.range pixels).mapM (fun pixel =>
    if pixel < tables ∧ pixel < planePixels ∧ 3 * pixel + 2 < 2 ^ 31
      ∧ 3 * pixel + 2 < 3 * planePixels then some ()
    else none)

/-- **`TofiCompute`**: the pixels, or `none` where an access falls outside its
buffer. -/
def tofiCompute (raw : Bytes) (context : TofiContext Context) : Option (List (ℕ × ℕ × ℕ)) := do
  let cal := context.object.cal
  let pixels := (dealiasCols cal.dealias * dealiasRows cal.dealias).toNat
  let planePixels ← context.planePixels
  let out ← deInterleaveDepth context.object.widths raw planePixels pixels
  let _ ← computeXYZ context.object.tables planePixels pixels
  some out

/-! ## What it needs

A loop has a result if each of its rounds has one (`isSome_mapM_iff`), so the
question is about one pixel. Its bytes begin at a multiple of the bytes per
pixel, and for some widths it reads beyond those (`reach`), so that the last
pixel is the one that decides. The planes are of the size that the dealias data
gives, and so decide nothing, unless the number of pixels does not fit into its
type. -/

/-- The bytes a pixel reads, if they are more than those it takes up. -/
def reach (w : PixelWidths) : ℕ := max (max 1 (isConf w)) (max (countConf w) (abCount w))

/-- **The accesses stay in their buffers**: the dimensions are positive, the
output buffers hold that many pixels, the raw frame has the bytes of that many
pixels, and `TofiCompute` has a result. -/
structure Bounds (raw : Bytes) (context : TofiContext Context) : Prop where
  /-- There are rows, … -/
  rows : 0 < (dealiasRows context.object.cal.dealias).toInt32.toInt
  /-- … and columns, as `int`s. -/
  cols : 0 < (dealiasCols context.object.cal.dealias).toInt32.toInt
  /-- The frame that is made has these dimensions. -/
  geometry : context.geometry
    = some (dealiasRows context.object.cal.dealias, dealiasCols context.object.cal.dealias)
  /-- The output buffers hold as many pixels. -/
  output : ∃ planePixels, context.planePixels = some planePixels
    ∧ (dealiasRows context.object.cal.dealias).toNat
      * (dealiasCols context.object.cal.dealias).toNat ≤ planePixels
  /-- The raw frame has their bytes. -/
  input : (dealiasRows context.object.cal.dealias).toNat
    * (dealiasCols context.object.cal.dealias).toNat * pixelBytes context.object.widths
      ≤ raw.length
  /-- No access of the library is out of bounds. -/
  accesses : (tofiCompute raw context).isSome = true

/-- **A frame of `len` bytes fits dealias data and bit widths.** The number of
pixels counts as 32 bits, and three times it as an `int`. -/
structure Fits (dealias : Bytes) (w : PixelWidths) (len : ℕ) : Prop where
  /-- There are rows, … -/
  rows : 0 < (dealiasRows dealias).toInt32.toInt
  /-- … and columns, as `int`s. -/
  cols : 0 < (dealiasCols dealias).toInt32.toInt
  /-- The frame has the bytes of all pixels. -/
  bytes : (dealiasRows dealias).toNat * (dealiasCols dealias).toNat * pixelBytes w ≤ len
  /-- The coordinates of the pixels can be indexed with an `int`. -/
  coordinates : 3 * ((dealiasRows dealias).toNat * (dealiasCols dealias).toNat % 2 ^ 32) ≤ 2 ^ 31
  /-- What is read of the last pixel, beyond its own bytes, is in the
  frame. -/
  lastPixel : 0 < (dealiasRows dealias).toNat * (dealiasCols dealias).toNat % 2 ^ 32 →
    ((dealiasRows dealias).toNat * (dealiasCols dealias).toNat % 2 ^ 32 - 1) * pixelBytes w
      + reach w < len

/-- A loop has a result if every round has one. -/
theorem isSome_mapM_iff {α β : Type} (f : α → Option β) (l : List α) :
    (l.mapM f).isSome = true ↔ ∀ x ∈ l, (f x).isSome = true := by
  induction l with
  | nil => simp
  | cons x l ih =>
    rw [List.mapM_cons, List.forall_mem_cons, ← ih]
    cases f x with
    | none => simp
    | some y => cases l.mapM f <;> simp

/-- A pixel can be read if its last byte is there. -/
theorem isSome_deInterleavePixel_iff (w : PixelWidths) (raw : Bytes) (base : ℕ) :
    (deInterleavePixel w raw base).isSome = true ↔ base + reach w < raw.length := by
  have hread : ∀ i, (∃ b, raw[i]? = some b) ↔ i < raw.length := fun i => by
    rw [← Option.isSome_iff_exists, isSome_getElem?]
  have hall : (deInterleavePixel w raw base).isSome = true ↔ base < raw.length
      ∧ base + 1 < raw.length ∧ base + isConf w < raw.length ∧ base + countConf w < raw.length
      ∧ base + abCount w < raw.length := by
    unfold deInterleavePixel
    simp only [Option.bind_eq_bind, Option.isSome_iff_exists, Option.bind_eq_some_iff, ← hread]
    constructor
    · rintro ⟨_, b₀, h₀, b₁, h₁, c, hc, a₀, ha₀, a₁, ha₁, -⟩
      exact ⟨⟨b₀, h₀⟩, ⟨b₁, h₁⟩, ⟨c, hc⟩, ⟨a₀, ha₀⟩, ⟨a₁, ha₁⟩⟩
    · rintro ⟨⟨b₀, h₀⟩, ⟨b₁, h₁⟩, ⟨c, hc⟩, ⟨a₀, ha₀⟩, ⟨a₁, ha₁⟩⟩
      exact ⟨_, b₀, h₀, b₁, h₁, c, hc, a₀, ha₀, a₁, ha₁, rfl⟩
  rw [hall, reach]
  omega

/-- **All pixels are unpacked** if there is room for them and the bytes of
each are there. -/
theorem isSome_deInterleaveDepth_iff (w : PixelWidths) (raw : Bytes) (planePixels pixels : ℕ) :
    (deInterleaveDepth w raw planePixels pixels).isSome = true ↔
      ∀ pixel < pixels, pixel < planePixels
        ∧ pixel * pixelBytes w % 2 ^ 32 + reach w < raw.length := by
  unfold deInterleaveDepth
  rw [isSome_mapM_iff]
  simp only [List.mem_range]
  refine forall₂_congr (fun pixel _ => ?_)
  rw [← isSome_deInterleavePixel_iff]
  split
  · next h => exact ⟨fun hp => ⟨h, hp⟩, fun hp => hp.2⟩
  · next h => exact ⟨fun hp => Bool.noConfusion hp, fun hp => absurd hp.1 h⟩

theorem isSome_computeXYZ_iff (tables planePixels pixels : ℕ) :
    (computeXYZ tables planePixels pixels).isSome = true ↔
      ∀ pixel < pixels, pixel < tables ∧ pixel < planePixels ∧ 3 * pixel + 2 < 2 ^ 31
        ∧ 3 * pixel + 2 < 3 * planePixels := by
  unfold computeXYZ
  rw [isSome_mapM_iff]
  simp only [List.mem_range]
  refine forall₂_congr (fun pixel _ => ?_)
  split
  · next h => exact ⟨fun _ => h, fun _ => rfl⟩
  · next h => exact ⟨fun hp => Bool.noConfusion hp, fun hp => absurd hp h⟩

/-- A context as `ensureTofiIsp` makes it. -/
structure Made (context : TofiContext Context) : Prop where
  /-- The dimensions are those of the dealias data, … -/
  geometry : context.geometry
    = some (dealiasRows context.object.cal.dealias, dealiasCols context.object.cal.dealias)
  /-- … the buffers hold their product, … -/
  planePixels : context.planePixels = some ((dealiasRows context.object.cal.dealias).toNat
    * (dealiasCols context.object.cal.dealias).toNat)
  /-- … and so do the tables, as far as 32 bits have it. -/
  tables : context.object.tables = (dealiasRows context.object.cal.dealias
    * dealiasCols context.object.cal.dealias).toNat

/-- **The accesses stay in their buffers exactly if the frame fits.** -/
theorem bounds_iff {raw : Bytes} {context : TofiContext Context} (hmade : Made context)
    (hraw : raw.length < 2 ^ 32) :
    Bounds raw context
      ↔ Fits context.object.cal.dealias context.object.widths raw.length := by
  obtain ⟨⟨cal, w, tables⟩, geometry, planePixels⟩ := context
  obtain ⟨hgeometry, hplanes, htables⟩ := hmade
  dsimp only at hgeometry hplanes htables ⊢
  subst hgeometry hplanes htables
  generalize hn : (dealiasRows cal.dealias).toNat * (dealiasCols cal.dealias).toNat = n
  have hpixels : (dealiasCols cal.dealias * dealiasRows cal.dealias).toNat = n % 2 ^ 32 := by
    rw [UInt32.toNat_mul, Nat.mul_comm, hn]
  have htables : (dealiasRows cal.dealias * dealiasCols cal.dealias).toNat = n % 2 ^ 32 := by
    rw [UInt32.toNat_mul, hn]
  have haccesses : (tofiCompute raw ⟨⟨cal, w, n % 2 ^ 32⟩,
      some (dealiasRows cal.dealias, dealiasCols cal.dealias), some n⟩).isSome = true ↔
      (∀ pixel < n % 2 ^ 32, pixel < n ∧ pixel * pixelBytes w % 2 ^ 32 + reach w < raw.length)
        ∧ ∀ pixel < n % 2 ^ 32, pixel < n % 2 ^ 32 ∧ pixel < n ∧ 3 * pixel + 2 < 2 ^ 31
          ∧ 3 * pixel + 2 < 3 * n := by
    rw [← isSome_deInterleaveDepth_iff, ← isSome_computeXYZ_iff]
    unfold tofiCompute
    dsimp only
    rw [hpixels]
    simp only [Option.bind_eq_bind, Option.bind_some]
    cases deInterleaveDepth w raw n (n % 2 ^ 32) with
    | none => simp
    | some out => cases computeXYZ (n % 2 ^ 32) n (n % 2 ^ 32) <;> simp
  have hle : n % 2 ^ 32 ≤ n := Nat.mod_le _ _
  -- the bytes of the pixels do not wrap where they are in the frame
  have hbase : ∀ pixel < n % 2 ^ 32, n * pixelBytes w ≤ raw.length →
      pixel * pixelBytes w % 2 ^ 32 = pixel * pixelBytes w := by
    intro pixel hpixel hbytes
    refine Nat.mod_eq_of_lt (lt_of_le_of_lt ?_ (lt_of_le_of_lt hbytes hraw))
    exact Nat.mul_le_mul_right _ (hpixel.le.trans hle)
  constructor
  · rintro ⟨hrows, hcols, -, -, hinput, hall⟩
    dsimp only at hrows hcols hinput hall
    rw [hn] at hinput
    rw [htables, haccesses] at hall
    refine ⟨hrows, hcols, ?_, ?_, ?_⟩
    · rw [hn]
      exact hinput
    · rw [hn]
      by_cases hpos : 0 < n % 2 ^ 32
      · have := (hall.2 (n % 2 ^ 32 - 1) (by omega)).2.2.1
        omega
      · omega
    · rw [hn]
      intro hpos
      have hlast := (hall.1 (n % 2 ^ 32 - 1) (by omega)).2
      rwa [hbase _ (by omega) hinput] at hlast
  · rintro ⟨hrows, hcols, hbytes, hcoordinates, hlast⟩
    rw [hn] at hbytes hcoordinates hlast
    refine ⟨hrows, hcols, rfl, ⟨n, rfl, hn.le⟩, ?_, ?_⟩
    · dsimp only
      rw [hn]
      exact hbytes
    · rw [htables, haccesses]
      refine ⟨fun pixel hpixel => ⟨by omega, ?_⟩, fun pixel hpixel => ⟨hpixel, by omega, by omega,
        by omega⟩⟩
      rw [hbase pixel hpixel hbytes]
      refine lt_of_le_of_lt (Nat.add_le_add_right ?_ _) (hlast (by omega))
      exact Nat.mul_le_mul_right _ (by omega)

section

variable {generates : Bytes → Bool} {allocates : ℕ → Bool} {slots : DealiasSlots}

/-- The open library's calibration is the dealias data and the bits of the INI file. -/
theorem configureIsp_eq_ok_iff {text : Bytes} {mode : UInt8}
    {result : Option Config × UInt32} :
    configureIsp (library generates allocates) slots text mode = .ok result ↔
      ∃ bits, initTofiConfigIsp text = some bits
        ∧ result = (some ⟨some ⟨slots.get mode, bits⟩⟩, 0) := by
  unfold configureIsp library
  dsimp only
  constructor
  · intro h
    cases hbits : initTofiConfigIsp text with
    | none =>
      rw [hbits] at h
      cases h
    | some bits =>
      rw [hbits] at h
      cases h
      exact ⟨bits, rfl, rfl⟩
  · rintro ⟨bits, hbits, rfl⟩
    rw [hbits]
    rfl

/-- Behind it, nothing but the tables of the open library can fail. -/
theorem initCompute_eq_ok_iff {cal : Cal} {failed invalid : Bytes}
    {made : Config × Context} :
    initCompute (library generates allocates) (some ⟨some cal⟩, 0) failed invalid
        = .ok made ↔
      generates cal.dealias = true ∧ made = (⟨some cal⟩, {
        cal := cal
        widths := unpackBits cal.bits
        tables := (dealiasRows cal.dealias * dealiasCols cal.dealias).toNat }) := by
  unfold initCompute library
  dsimp only
  rw [if_neg (fun h => h rfl)]
  by_cases hgenerates : generates cal.dealias = true
  · rw [if_pos hgenerates]
    refine ⟨fun h => ⟨hgenerates, ?_⟩, ?_⟩
    · cases h
      rfl
    · rintro ⟨-, rfl⟩
      rfl
  · rw [if_neg hgenerates]
    exact iff_of_false (fun h => nomatch h) (fun h => hgenerates h.1)

end

end OpenSource

/-! ## The frames of a run

For a frame in a run three things come together that were received at different
times. The context of the computation was made of dealias data and of an INI
file, perhaps for an earlier frame; that it is nonetheless the one which this
frame would make is what `TofiCache` shows, for every call that is coherent.
With it the bounds of the frame can be said in terms of what the frame itself is
computed with. -/

/-- A message of the viewer: dealias data, or a frame with its decoded
bytes. -/
inductive ComputeStep
  | dealiasData (m : Message)
  | dataFrame (header : DataFramePayloadHeader) (raw : Bytes)

namespace ViewerTofi

variable {κ χ γ : Type}

/-- **`computeTofiFrame`, up to its call of `TofiCompute`**: what the viewer
keeps, and the context of the call, if it gets there. `handleDataFrame` has
compared the number of bytes with the header's. -/
def computeTofiFrame (lib : TofiLibrary κ χ γ) (header : DataFramePayloadHeader) (raw : Bytes)
    (s : ViewerTofi κ γ) : ViewerTofi κ γ × Option (TofiContext γ) :=
  if raw.length ≠ header.rawBytes.toNat ∨ raw.length % 2 ≠ 0 then (s, none)
  else
    match s.ensure lib (tofiRequest s.files s.config header) with
    | .ok t => ({ s with tofi := t }, t.context)
    | .error (t, _) => ({ s with tofi := t }, none)

/-- One message. -/
def computeStep (lib : TofiLibrary κ χ γ) : Machine (ViewerTofi κ γ) ComputeStep := fun s a =>
  match a with
  | .dealiasData m =>
    match handleDealiasData m s.slots with
    | .error _ => some s
    | .ok slots => some { s with slots := slots, tofi := {} }
  | .dataFrame header raw => some (s.computeTofiFrame lib header raw).1

/-- The bit widths that the INI file of a frame gives. -/
def iniWidths (s : ViewerTofi κ γ) (header : DataFramePayloadHeader) : Option PixelWidths :=
  let r := tofiRequest s.files s.config header
  (s.files (resolveIniFile s.files r.iniFile r.frameType)).bind
    (fun text => (initTofiConfigIsp text).map unpackBits)

/-- The dealias data that a frame is computed with. -/
def frameDealias (s : ViewerTofi κ γ) (header : DataFramePayloadHeader) : Bytes :=
  s.slots.get (convertModeName (makeFrameType header s.config))

variable {generates : Bytes → Bool} {allocates : ℕ → Bool} {files : Files} {slots : DealiasSlots}

/-- **A context of the ISP's way**, with the open library. -/
theorem made_of_fresh {key : TofiKey} {t : Tofi OpenSource.Config OpenSource.Context}
    (h : freshTofi (OpenSource.library generates allocates) files slots true key = .ok t) :
    ∃ text bits context, files key.iniFile = some text ∧ initTofiConfigIsp text = some bits
      ∧ t.context = some context ∧ OpenSource.Made context
      ∧ context.object.cal.dealias = slots.get (convertModeName key.frameType)
      ∧ context.object.widths = unpackBits bits := by
  obtain ⟨_, -, h⟩ := bind_eq_ok.mp h
  obtain ⟨text, htext, h⟩ := bind_eq_ok.mp h
  obtain ⟨_, -, h⟩ := bind_eq_ok.mp h
  obtain ⟨_, -, h⟩ := bind_eq_ok.mp h
  obtain ⟨_, -, h⟩ := bind_eq_ok.mp h
  obtain ⟨result, hresult, h⟩ := bind_eq_ok.mp h
  obtain ⟨made, hmade, h⟩ := bind_eq_ok.mp h
  obtain ⟨hfile, -⟩ := readTofiFile_eq_ok_iff.mp htext
  obtain ⟨bits, hbits, rfl⟩ := OpenSource.configureIsp_eq_ok_iff.mp hresult
  obtain ⟨-, rfl⟩ := OpenSource.initCompute_eq_ok_iff.mp hmade
  dsimp only at h
  split at h
  · cases h
    exact ⟨text, bits, _, hfile, hbits, rfl, ⟨rfl, rfl, rfl⟩, rfl, rfl⟩
  · cases h

/-- What is kept was made in the ISP's way. -/
def IspOnly (s : ViewerTofi κ γ) : Prop :=
  s.config.isAdsd3500 = true ∧ s.pending = none
    ∧ (s.tofi.key.frameType ≠ [] → s.tofi.builtByIsp = true)

variable {lib : TofiLibrary κ χ γ} {s s' : ViewerTofi κ γ}

/-- **A call of `ensureTofi` is coherent**, as its key finds nothing but the
ISP's contexts. -/
theorem coherent_of_ispOnly (hs : s.Valid lib) (hisp : s.IspOnly) {r : TofiRequest}
    (hr : r.frameType ≠ []) {t : Tofi κ γ} (h : s.ensure lib r = .ok t) :
    ∃ t', freshTofi lib s.files s.slots true (requestKey s.files true r) = .ok t'
      ∧ t.context = t'.context := by
  have hvalid : Valid lib { s with pending := some r } := by
    refine ⟨hs.fresh, fun r' hr' => ?_⟩
    cases hr'
    exact hr
  have hok : ok { s with pending := some r } .ensure := by
    intro r' hr' hhits
    cases hr'
    obtain ⟨⟨⟨⟨⟨⟨-, -⟩, -⟩, hft⟩, -⟩, -⟩, -⟩ := by
      simpa only [Tofi.hits, Bool.and_eq_true] using hhits
    refine (hisp.2.2 ?_).trans hisp.1.symm
    rw [of_decide_eq_true hft]
    exact hr
  obtain ⟨t', ht', -, hcontext⟩ := hvalid.coherent hok rfl r t rfl h
  dsimp only at ht'
  rw [hisp.1] at ht'
  exact ⟨t', ht', hcontext⟩

/-- What `ensureTofi` keeps on the ISP's way. -/
theorem IspOnly.ensure (hs : s.Valid lib) (hisp : s.IspOnly) {r : TofiRequest} :
    (∀ t, s.ensure lib r = .ok t → Valid lib { s with tofi := t }
        ∧ IspOnly { s with tofi := t })
      ∧ ∀ t text, s.ensure lib r = .error (t, text) → Valid lib { s with tofi := t }
        ∧ IspOnly { s with tofi := t } := by
  unfold ViewerTofi.ensure ensureTofi
  rw [hisp.1]
  split
  · refine ⟨fun t ht => ?_, fun t text ht => by cases ht⟩
    cases ht
    exact ⟨hs, hisp⟩
  · refine ⟨fun t ht => ⟨⟨fun _ _ _ => valid_of_fresh ht, hs.pending⟩, hisp.1, hisp.2.1,
      fun _ => (freshTofi_ok ht).2.2.1⟩, fun t text ht => ?_⟩
    have hkey : t.key = {} := keyless_freshTofi _ _ _ _ _ _ _ ht
    have hft : t.key.frameType = [] := congrArg TofiKey.frameType hkey
    exact ⟨⟨fun _ _ hne => absurd hft hne, hs.pending⟩, hisp.1, hisp.2.1,
      fun hne => absurd hft hne⟩

/-- **Every message keeps the two invariants.** -/
theorem IspOnly.step (hs : s.Valid lib) (hisp : s.IspOnly) {a : ComputeStep}
    (h : computeStep lib s a = some s') : s'.Valid lib ∧ s'.IspOnly := by
  unfold computeStep at h
  cases a with
  | dealiasData m =>
    dsimp only at h
    split at h
    · cases h
      exact ⟨hs, hisp⟩
    · cases h
      exact ⟨hs.released _ _ _, hisp.1, hisp.2.1, fun hne => absurd rfl hne⟩
  | dataFrame header raw =>
    cases h
    unfold computeTofiFrame
    split
    · exact ⟨hs, hisp⟩
    · split
      · next t ht => exact (hisp.ensure hs).1 t ht
      · next t text ht => exact (hisp.ensure hs).2 t text ht

/-- **In every run, `TofiCompute` stays in its buffers exactly if the frame
fits** the dealias data and the bit widths it is computed with.

The three come from different places: the number of pixels from a DealiasData
message, the bits of a pixel from an INI file of the viewer, and the length of
the frame from the header of the DataFrame. The handler compares the last with
nothing but itself. Every access is modelled by a function without a result
where it is out of bounds, so `Bounds` asks that there is one; the products are
those of the code, with its widths. -/
theorem bounds_iff_fits {config : ViewerConfig} (hisp : config.isAdsd3500 = true)
    {as : List ComputeStep} {s : ViewerTofi OpenSource.Config OpenSource.Context}
    (hrun : Machine.Run (computeStep (OpenSource.library generates allocates)) Machine.always
      { config := config, files := files } as s)
    {header : DataFramePayloadHeader} {raw : Bytes} {context : TofiContext OpenSource.Context}
    (hcall : (s.computeTofiFrame (OpenSource.library generates allocates) header raw).2
      = some context) :
    OpenSource.Bounds raw context ↔ ∃ w, s.iniWidths header = some w
      ∧ OpenSource.Fits (s.frameDealias header) w raw.length := by
  obtain ⟨hvalid, hspOnly⟩ := hrun.invariant (I := fun s =>
      s.Valid (OpenSource.library generates allocates) ∧ s.IspOnly)
    (fun s a s' hs _ hstep => IspOnly.step hs.1 hs.2 hstep)
    ⟨⟨fun h => Bool.noConfusion h, fun _ h => nomatch h⟩, hisp, rfl, fun hne => absurd rfl hne⟩
  unfold computeTofiFrame at hcall
  split at hcall
  · cases hcall
  next hlength =>
    split at hcall
    · next t ht =>
      obtain ⟨t', ht', hcontext⟩ := coherent_of_ispOnly hvalid hspOnly
        (makeFrameType_ne_nil header s.config) ht
      obtain ⟨text, bits, context', htext, hbits, hcontext', hmade, hdealias, hwidths⟩ :=
        made_of_fresh ht'
      cases (hcall.symm.trans hcontext).trans hcontext'
      have hini : s.iniWidths header = some (unpackBits bits) := by
        unfold iniWidths
        dsimp only
        rw [show s.files (resolveIniFile s.files (tofiRequest s.files s.config header).iniFile
          (tofiRequest s.files s.config header).frameType) = some text from htext,
          Option.bind_some, hbits]
        rfl
      have hraw : raw.length < 2 ^ 32 := by
        rw [not_not.mp (not_or.mp hlength).1]
        exact header.rawBytes.toNat_lt
      rw [OpenSource.bounds_iff hmade hraw, hdealias, hwidths]
      refine ⟨fun h => ⟨_, hini, h⟩, ?_⟩
      rintro ⟨w, hw, h⟩
      cases hini.symm.trans hw
      exact h
    · cases hcall

/-! ### Two calls

Dealias data of two rows and two columns, and frames whose header is taken at
its word. The one has the bytes of four pixels, and the other the bytes of half
a pixel. -/

/-- The header of a frame of so many raw bytes. -/
def sampleFrame (n : UInt32) : DataFramePayloadHeader := { sampleHeader with rawBytes := n }

/-- The viewer with the dealias data of 2 rows and 2 columns. -/
def dealiasedViewer : ViewerTofi OpenSource.Config OpenSource.Context where
  config := sampleConfig true
  files := sampleFiles
  slots := (handleDealiasData sampleDealias sampleViewer.slots).toOption.getD sampleViewer.slots

theorem run_dealiasedViewer :
    Machine.Run (computeStep openLibrary) Machine.always sampleViewer
      [.dealiasData sampleDealias] dealiasedViewer := by
  refine Machine.run_iff_exec.mpr ?_
  have hok : (handleDealiasData sampleDealias sampleViewer.slots).toOption.isSome = true := by
    decide +kernel
  cases h : handleDealiasData sampleDealias sampleViewer.slots with
  | error e =>
    rw [h] at hok
    cases hok
  | ok slots =>
    have hstep : computeStep openLibrary sampleViewer (.dealiasData sampleDealias)
        = some dealiasedViewer := by
      rw [computeStep, dealiasedViewer, h]
      rfl
    rw [Machine.exec, hstep]
    rfl

/-- **The frame that fits.** The dealias data is that of a plane of 4 pixels,
the INI file has 4 bytes for each of them, and the frame has 16. -/
theorem bounds_iff_fits_frame :
    ∃ context, (dealiasedViewer.computeTofiFrame openLibrary (sampleFrame 16)
        (List.replicate 16 0)).2 = some context
      ∧ OpenSource.Bounds (List.replicate 16 0) context := by
  have hcall : (dealiasedViewer.computeTofiFrame openLibrary (sampleFrame 16)
      (List.replicate 16 0)).2.isSome = true := by decide +kernel
  obtain ⟨context, hcontext⟩ := Option.isSome_iff_exists.mp hcall
  have hwidths : dealiasedViewer.iniWidths (sampleFrame 16) = some ⟨12, 4, 16⟩ := by
    decide +kernel
  refine ⟨context, hcontext,
    (bounds_iff_fits rfl run_dealiasedViewer hcontext).mpr ⟨_, hwidths, ?_⟩⟩
  exact ⟨by decide +kernel, by decide +kernel, by decide +kernel, by decide +kernel,
    by decide +kernel⟩

/-- **A frame of two bytes is unpacked as if it had 16.** Its length is the
one that its header gives, and nothing else is compared. -/
theorem not_bounds_short_frame :
    ∃ s context, Machine.Run (computeStep openLibrary) Machine.always sampleViewer
        [.dealiasData sampleDealias] s
      ∧ (s.computeTofiFrame openLibrary (sampleFrame 2) [0, 0]).2 = some context
      ∧ ¬ OpenSource.Bounds [0, 0] context := by
  have hcall : (dealiasedViewer.computeTofiFrame openLibrary (sampleFrame 2) [0, 0]).2.map
      (fun context => (OpenSource.tofiCompute [0, 0] context).isSome) = some false := by
    decide +kernel
  obtain ⟨context, hcontext, hnone⟩ := Option.map_eq_some_iff.mp hcall
  refine ⟨dealiasedViewer, context, run_dealiasedViewer, hcontext, fun hbounds => ?_⟩
  rw [hbounds.accesses] at hnone
  cases hnone

end ViewerTofi
