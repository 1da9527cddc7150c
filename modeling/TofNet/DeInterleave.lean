import TofNet.ComputeBounds

/-!
# De-interleaving a frame

A pixel of a raw frame is its depth, its confidence and its active brightness,
one behind the other from the lowest bit on, in as many bits each as the INI
file says. `InitTofiConfig_isp` puts the three widths into `Freq[0]`,
`InitTofiCompute` takes them out of it, and `DeInterleaveDepth` takes a pixel
apart by them: it reads the confidence from one bit of the second byte on, and
the active brightness from the beginning or the middle of a byte.

`recovers_iff` says for which widths the pixels come out as they went in.

The statement is an equivalence, so for the widths outside of the list there has
to be a frame that comes out wrong. Three pixels are enough to find it, each
with one of its three values as great as it can be and the others 0
(`extremes`). There are finitely many widths that the library can be initialised
with, and the two directions are checked by going through them, for one pixel;
the arithmetic with bits is done before, in general, so that what is gone
through is small.
-/

/-! ## Packing

The packing is what the ADSD3500 does, and is not in the repository: a pixel is
a number, with the depth lowest, and its bytes are written the lowest first.
Widths whose sum is not a multiple of 8 have no such packing. -/

/-- The widths that an INI file gives, or none where a `std::stoi` throws. -/
def declaredWidths (iniText : Bytes) : Option PixelWidths :=
  (stoi (findKeyAndGetValue iniText (ascii "bitsInPhaseOrDepth"))).bind (fun nbDepth =>
  (stoi (findKeyAndGetValue iniText (ascii "bitsInAB"))).bind (fun nbAb =>
  (stoi (findKeyAndGetValue iniText (ascii "bitsInConf"))).map (fun nbConf =>
    { depth := toU16 nbDepth, conf := toU16 nbConf, ab := toU16 nbAb })))

namespace PixelWidths

/-- A pixel's depth, confidence and active brightness fit their widths. -/
def Fits (w : PixelWidths) (p : ℕ × ℕ × ℕ) : Prop :=
  p.1 < 2 ^ w.depth ∧ p.2.1 < 2 ^ w.conf ∧ p.2.2 < 2 ^ w.ab

instance (w : PixelWidths) (p : ℕ × ℕ × ℕ) : Decidable (w.Fits p) :=
  inferInstanceAs (Decidable (_ ∧ _ ∧ _))

/-- **A pixel as one number**, the depth lowest. -/
def bitsOf (w : PixelWidths) (p : ℕ × ℕ × ℕ) : ℕ :=
  p.1 + 2 ^ w.depth * p.2.1 + 2 ^ (w.depth + w.conf) * p.2.2

/-- A pixel's bytes. -/
def pack (w : PixelWidths) (p : ℕ × ℕ × ℕ) : Bytes :=
  leBytes (OpenSource.pixelBytes w) (w.bitsOf p)

end PixelWidths

/-- **The widths whose pixels can be taken apart.** -/
def recoverable : List PixelWidths := [
  ⟨8, 0, 16⟩, ⟨12, 0, 12⟩, ⟨12, 4, 0⟩, ⟨12, 4, 8⟩, ⟨12, 4, 16⟩, ⟨12, 8, 12⟩, ⟨12, 12, 0⟩,
  ⟨12, 12, 8⟩, ⟨12, 12, 16⟩, ⟨16, 0, 0⟩, ⟨16, 0, 8⟩, ⟨16, 0, 16⟩, ⟨16, 4, 12⟩, ⟨16, 8, 0⟩,
  ⟨16, 8, 8⟩, ⟨16, 8, 16⟩]

namespace OpenSource

/-- The pixels of a frame. -/
def framePixels (dealias : Bytes) : ℕ := (dealiasRows dealias).toNat * (dealiasCols dealias).toNat

/-- **Every frame comes out as it went in**: the library is initialised with
the widths of the INI file, reads them back as they are, and takes the packed
pixels apart. -/
def Recovers (lib : TofiLibrary Config Cal Context) (iniText : Bytes) (mode : UInt8)
    (slots : DealiasSlots) (w : PixelWidths) : Prop :=
  ∀ pixels : List (ℕ × ℕ × ℕ), pixels.length = framePixels (slots.get mode) →
    (∀ p ∈ pixels, w.Fits p) →
    ∃ config cal object, lib.initTofiConfigIsp iniText mode slots = some (some config, 0)
      ∧ lib.calConfig config = some cal ∧ lib.initTofiCompute cal = (some object, 0)
      ∧ object.widths = w
      ∧ tofiCompute (pixels.flatMap w.pack) {
          object := object
          geometry := some (dealiasRows (slots.get mode), dealiasCols (slots.get mode))
          planePixels := some (framePixels (slots.get mode)) } = some pixels

/-! ## Bytes of a number

The library does not read numbers but pairs of bytes, which it takes for words.
A pair of neighbouring bytes of a number is the number, shifted and cut off. -/

/-- A byte of a number. -/
theorem getElem?_leBytes {n i : ℕ} (h : i < n) (v : ℕ) :
    (leBytes n v)[i]? = some (UInt8.ofNat (v / 256 ^ i)) := by
  induction n generalizing i v with
  | zero => exact absurd h (Nat.not_lt_zero i)
  | succ n ih =>
    cases i with
    | zero => rw [leBytes, List.getElem?_cons_zero, pow_zero, Nat.div_one]
    | succ i =>
      rw [leBytes, List.getElem?_cons_succ, ih (by omega), Nat.div_div_eq_div_mul, ← pow_succ']

theorem numBits_eq (input pos n : ℕ) : numBits input pos n = input / 2 ^ pos % 2 ^ n := by
  rw [numBits, Nat.one_shiftLeft, Nat.and_comm, Nat.and_two_pow_sub_one_eq_mod,
    Nat.shiftRight_eq_div_pow]

theorem word_eq (low high : UInt8) : word low high = low.toNat + 256 * high.toNat := by
  have hlow : low.toNat < 2 ^ 8 := low.toNat_lt
  rw [word, Nat.or_comm, ← Nat.shiftLeft_add_eq_or_of_lt hlow, Nat.shiftLeft_eq]
  omega

/-- Two bytes of a number as a word. -/
theorem word_ofNat (v i j : ℕ) :
    word (UInt8.ofNat (v / 256 ^ i)) (UInt8.ofNat (v / 256 ^ j))
      = v / 256 ^ i % 256 + 256 * (v / 256 ^ j % 256) := by
  rw [word_eq, UInt8.toNat_ofNat', UInt8.toNat_ofNat']

/-- Two bytes in a row. -/
theorem word_next (v i : ℕ) :
    v / 256 ^ i % 256 + 256 * (v / 256 ^ (i + 1) % 256) = v / 256 ^ i % 2 ^ 16 := by
  rw [pow_succ, ← Nat.div_div_eq_div_mul]
  omega

/-! ## One pixel

If all that is read belongs to the pixel, what is made of it is a matter of
arithmetic: the depth is right for all widths, and the other two are right if
they begin where the library looks for them. Whether that is so depends on the
widths alone (`Readable`). -/

/-- The word the confidence is taken from. -/
def confWord (w : PixelWidths) (v : ℕ) : ℕ := v / 256 % 256 + 256 * (v / 256 ^ isConf w % 256)

/-- The word the active brightness is taken from. -/
def abWord (w : PixelWidths) (v : ℕ) : ℕ :=
  v / 256 ^ countConf w % 256 + 256 * (v / 256 ^ abCount w % 256)

/-- **What is made of a pixel's bits**, if all that is read is the pixel's. -/
theorem deInterleavePixel_pack {w : PixelWidths} {n : ℕ} (h : reach w < n) (v : ℕ) :
    deInterleavePixel w (leBytes n v) 0
      = some (v % 2 ^ 16 % 2 ^ w.depth, confWord w v / 2 ^ posConf w % 2 ^ w.conf,
        abWord w v / 2 ^ (if (w.depth + w.conf) % 8 ≠ 0 then 4 else 0) % 2 ^ w.ab) := by
  unfold reach at h
  have h₀ := getElem?_leBytes (n := n) (i := 0) (by omega) v
  have h₁ := getElem?_leBytes (n := n) (i := 1) (by omega) v
  have hc := getElem?_leBytes (n := n) (i := isConf w) (by omega) v
  have ha₀ := getElem?_leBytes (n := n) (i := countConf w) (by omega) v
  have ha₁ := getElem?_leBytes (n := n) (i := abCount w) (by omega) v
  unfold deInterleavePixel
  simp only [Nat.zero_add, h₀, h₁, hc, ha₀, ha₁, Option.bind_eq_bind, Option.bind_some]
  rw [numBits_eq, numBits_eq, numBits_eq, word_ofNat, word_ofNat, word_ofNat, word_next v 0,
    pow_zero, pow_zero, Nat.div_one, Nat.div_one, pow_one]
  rfl

/-- **The confidence and the active brightness are where they are looked for**:
behind 12 or 16 bits of depth, and at the beginning or in the middle of a
byte; and nothing behind the pixel is read. -/
structure Readable (w : PixelWidths) : Prop where
  /-- A pixel is a whole number of bytes. -/
  bits : (w.depth + w.conf + w.ab) % 8 = 0
  /-- The depth is read from two bytes. -/
  depth : w.depth ≤ 16
  /-- The confidence begins where it is looked for, and is not too wide. -/
  conf : w.conf = 0 ∨ w.depth = 12 ∧ w.conf ≤ 12 ∨ w.depth = 16 ∧ w.conf ≤ 8
  /-- So does the active brightness. -/
  ab : w.ab = 0 ∨ (w.depth + w.conf) % 8 = 0 ∧ w.ab ≤ 16
    ∨ (w.depth + w.conf) % 8 = 4 ∧ w.ab ≤ 12
  /-- No byte behind the pixel is read. -/
  reach : reach w < pixelBytes w

variable {w : PixelWidths} {p : ℕ × ℕ × ℕ}

theorem depth_bitsOf (hp : w.Fits p) (hw : w.depth ≤ 16) :
    w.bitsOf p % 2 ^ 16 % 2 ^ w.depth = p.1 := by
  have hsplit : w.bitsOf p = p.1 + 2 ^ w.depth * (p.2.1 + 2 ^ w.conf * p.2.2) := by
    rw [PixelWidths.bitsOf, pow_add]
    ring
  rw [Nat.mod_mod_of_dvd _ (Nat.pow_dvd_pow 2 hw), hsplit, Nat.add_mul_mod_self_left,
    Nat.mod_eq_of_lt hp.1]

/-- The bits above the depth. -/
theorem bitsOf_div_depth (hp : w.Fits p) :
    w.bitsOf p / 2 ^ w.depth = p.2.1 + 2 ^ w.conf * p.2.2 := by
  have hsplit : w.bitsOf p = p.1 + 2 ^ w.depth * (p.2.1 + 2 ^ w.conf * p.2.2) := by
    rw [PixelWidths.bitsOf, pow_add]
    ring
  rw [hsplit, Nat.add_mul_div_left _ _ (Nat.two_pow_pos _), Nat.div_eq_of_lt hp.1, Nat.zero_add]

theorem conf_of_bits (hp : w.Fits p) :
    w.bitsOf p / 2 ^ w.depth % 2 ^ w.conf = p.2.1 := by
  rw [bitsOf_div_depth hp, Nat.add_mul_mod_self_left, Nat.mod_eq_of_lt hp.2.1]

theorem ab_of_bits (hp : w.Fits p) : w.bitsOf p / 2 ^ (w.depth + w.conf) = p.2.2 := by
  rw [pow_add, ← Nat.div_div_eq_div_mul, bitsOf_div_depth hp,
    Nat.add_mul_div_left _ _ (Nat.two_pow_pos _), Nat.div_eq_of_lt hp.2.1, Nat.zero_add]

theorem conf_bitsOf (h : Readable w) (hp : w.Fits p) :
    confWord w (w.bitsOf p) / 2 ^ posConf w % 2 ^ w.conf = p.2.1 := by
  have hgoal := conf_of_bits hp
  obtain hzero | ⟨hdepth, hconf⟩ | ⟨hdepth, hconf⟩ := h.conf
  · have hp := hp.2.1
    rw [hzero] at hp ⊢
    omega
  · rw [hdepth] at hgoal
    rw [← hgoal]
    have hpos : posConf w = 4 := by
      rw [posConf, hdepth]
      rfl
    by_cases hfour : w.conf = 4
    · -- the bits are in the second byte, which is read twice
      have hword : isConf w = 0 := by
        rw [isConf, hdepth, hfour]
        rfl
      have hdiv : w.bitsOf p / 2 ^ 12 = w.bitsOf p / 256 / 2 ^ 4 :=
        (Nat.div_div_eq_div_mul _ 256 (2 ^ 4)).symm
      have hmiddle : ∀ u b, (u % 256 + 256 * b) / 2 ^ 4 % 2 ^ 4 = u / 2 ^ 4 % 2 ^ 4 := by
        intro u b
        have hsplit : (u % 256 + 256 * b) / 2 ^ 4 = u % 256 / 2 ^ 4 + 2 ^ 4 * b := by omega
        rw [hsplit, Nat.add_mul_mod_self_left]
        omega
      rw [confWord, hword, hpos, hfour, hdiv, pow_zero, Nat.div_one, hmiddle]
    · have hword : isConf w = 2 := by
        rw [isConf, hdepth, if_neg (by omega)]
      have hmod := Nat.mod_mod_of_dvd (w.bitsOf p / 2 ^ 12) (Nat.pow_dvd_pow 2 hconf)
      rw [confWord, hword, hpos, ← hmod]
      congr 1
      omega
  · rw [hdepth] at hgoal
    rw [← hgoal]
    have hpos : posConf w = 8 := by
      rw [posConf, hdepth]
      rfl
    by_cases hzero : w.conf = 0
    · rw [hzero, pow_zero, Nat.mod_one, Nat.mod_one]
    · have hword : isConf w = 2 := by
        rw [isConf, hdepth, if_neg (by omega)]
      have hmod := Nat.mod_mod_of_dvd (w.bitsOf p / 2 ^ 16) (Nat.pow_dvd_pow 2 hconf)
      rw [confWord, hword, hpos, ← hmod]
      congr 1
      omega

theorem ab_bitsOf (h : Readable w) (hp : w.Fits p) :
    abWord w (w.bitsOf p) / 2 ^ (if (w.depth + w.conf) % 8 ≠ 0 then 4 else 0) % 2 ^ w.ab
      = p.2.2 := by
  have hgoal := ab_of_bits hp
  have hlt := hp.2.2
  by_cases hzero : w.ab = 0
  · rw [hzero] at hlt ⊢
    omega
  · have hcount : countConf w = (w.depth + w.conf) / 8 := if_pos hzero
    obtain ⟨haligned, hab⟩ | ⟨hmiddle, hab⟩ := h.ab.resolve_left hzero
    · have hpow : 2 ^ (w.depth + w.conf) = 256 ^ countConf w := by
        rw [hcount, show (256 : ℕ) = 2 ^ 8 from rfl, ← pow_mul]
        congr 1
        omega
      rw [hpow] at hgoal
      rw [if_neg (not_not.mpr haligned), pow_zero, Nat.div_one]
      by_cases height : w.ab = 8
      · -- the second byte does not matter, and it is the pixel's first
        rw [abWord, hgoal]
        rw [height] at hlt ⊢
        omega
      · have hnext : abCount w = countConf w + 1 := if_neg height
        rw [abWord, hnext, word_next, Nat.mod_mod_of_dvd _ (Nat.pow_dvd_pow 2 hab), hgoal,
          Nat.mod_eq_of_lt hlt]
    · have hpow : 2 ^ (w.depth + w.conf) = 256 ^ countConf w * 2 ^ 4 := by
        rw [hcount, show (256 : ℕ) = 2 ^ 8 from rfl, ← pow_mul, ← pow_add]
        congr 1
        omega
      have hbits := h.bits
      have hnext : abCount w = countConf w + 1 := if_neg (by omega)
      rw [hpow, ← Nat.div_div_eq_div_mul] at hgoal
      rw [if_pos (by omega), abWord, hnext, word_next]
      have hmod := Nat.mod_mod_of_dvd (w.bitsOf p / 256 ^ countConf w / 2 ^ 4)
        (Nat.pow_dvd_pow 2 hab)
      rw [hgoal, Nat.mod_eq_of_lt hlt] at hmod
      rw [← hmod, ← hgoal]
      congr 1
      omega

/-- **A pixel comes out as it went in.** -/
theorem deInterleavePixel_of_readable (h : Readable w) (hp : w.Fits p) :
    deInterleavePixel w (w.pack p) 0 = some p := by
  rw [PixelWidths.pack, deInterleavePixel_pack h.reach, depth_bitsOf hp h.depth,
    conf_bitsOf h hp, ab_bitsOf h hp]

theorem readable_of_mem {w : PixelWidths} (h : w ∈ recoverable) : Readable w := by
  have hall : ∀ w ∈ recoverable, (w.depth + w.conf + w.ab) % 8 = 0 ∧ w.depth ≤ 16
      ∧ (w.conf = 0 ∨ w.depth = 12 ∧ w.conf ≤ 12 ∨ w.depth = 16 ∧ w.conf ≤ 8)
      ∧ (w.ab = 0 ∨ (w.depth + w.conf) % 8 = 0 ∧ w.ab ≤ 16
        ∨ (w.depth + w.conf) % 8 = 4 ∧ w.ab ≤ 12)
      ∧ OpenSource.reach w < pixelBytes w := by
    decide
  obtain ⟨hbits, hdepth, hconf, hab, hreach⟩ := hall w h
  exact ⟨hbits, hdepth, hconf, hab, hreach⟩

/-- The greatest depth, the greatest confidence and the greatest active
brightness, each alone. -/
def extremes (w : PixelWidths) : List (ℕ × ℕ × ℕ) :=
  [(2 ^ w.depth - 1, 0, 0), (0, 2 ^ w.conf - 1, 0), (0, 0, 2 ^ w.ab - 1)]

/-- **For other widths one of these comes out wrong.** -/
theorem extremes_of_not_mem : ∀ depth ∈ List.range 17, ∀ conf ∈ List.range 16,
    ∀ ab ∈ List.range 17, (depth + conf + ab) % 8 = 0 →
      (⟨depth, conf, ab⟩ : PixelWidths) ∈ recoverable ∨
        ∃ p ∈ extremes ⟨depth, conf, ab⟩, deInterleavePixel ⟨depth, conf, ab⟩
          (PixelWidths.pack ⟨depth, conf, ab⟩ p) 0 ≠ some p := by
  decide +kernel

theorem fits_of_mem_extremes (h : p ∈ extremes w) : w.Fits p := by
  have hpos : ∀ n : ℕ, 0 < 2 ^ n := Nat.two_pow_pos
  have hpred : ∀ n : ℕ, 2 ^ n - 1 < 2 ^ n := fun n => Nat.sub_lt (hpos n) Nat.one_pos
  simp only [extremes, List.mem_cons, List.not_mem_nil, or_false] at h
  obtain rfl | rfl | rfl := h
  · exact ⟨hpred _, hpos _, hpos _⟩
  · exact ⟨hpos _, hpred _, hpos _⟩
  · exact ⟨hpos _, hpos _, hpred _⟩

/-- The planes have 16 bits. -/
theorem lt_of_deInterleavePixel {raw : Bytes} {base : ℕ}
    (h : deInterleavePixel w raw base = some p) : p.1 < 2 ^ 16 ∧ p.2.2 < 2 ^ 16 := by
  have hword : ∀ b b' n m, numBits (word b b') n m < 2 ^ 16 := by
    intro b b' n m
    have hb : b.toNat < 256 := b.toNat_lt
    have hb' : b'.toNat < 256 := b'.toNat_lt
    rw [numBits_eq, word_eq]
    refine lt_of_le_of_lt ((Nat.mod_le _ _).trans (Nat.div_le_self _ _)) ?_
    omega
  unfold deInterleavePixel at h
  simp only [Option.bind_eq_bind, Option.bind_eq_some_iff] at h
  obtain ⟨_, -, _, -, _, -, _, -, _, -, h⟩ := h
  rw [← Option.some.inj h]
  exact ⟨hword _ _ _ _, hword _ _ _ _⟩

/-! ## All pixels

The pixels stand one behind the other, and the library goes through them with an
offset. The bytes in front of a pixel do not matter; those behind it do not if
nothing behind the pixel is read, and then the frame is unpacked pixel by pixel. -/

@[simp] theorem length_pack (w : PixelWidths) (p : ℕ × ℕ × ℕ) :
    (w.pack p).length = pixelBytes w :=
  length_leBytes _ _

theorem length_flatMap_pack (w : PixelWidths) (pixels : List (ℕ × ℕ × ℕ)) :
    (pixels.flatMap w.pack).length = pixels.length * pixelBytes w := by
  induction pixels with
  | nil => rw [List.flatMap_nil, List.length_nil, List.length_nil, Nat.zero_mul]
  | cons p pixels ih =>
    rw [List.flatMap_cons, List.length_append, length_pack, ih, List.length_cons,
      Nat.succ_mul, Nat.add_comm]

/-- The bytes before a pixel do not matter. -/
theorem deInterleavePixel_append (w : PixelWidths) (front raw : Bytes) :
    deInterleavePixel w (front ++ raw) front.length = deInterleavePixel w raw 0 := by
  have hread : ∀ i, (front ++ raw)[front.length + i]? = raw[i]? := fun i => by
    rw [List.getElem?_append_right (Nat.le_add_right _ _), Nat.add_sub_cancel_left]
  have hfirst := hread 0
  rw [Nat.add_zero] at hfirst
  unfold deInterleavePixel
  simp only [hread, hfirst, Nat.zero_add]

/-- Nor do those behind it, if what is read is the pixel's. -/
theorem deInterleavePixel_append_back {chunk : Bytes} (h : reach w < chunk.length) (back : Bytes) :
    deInterleavePixel w (chunk ++ back) 0 = deInterleavePixel w chunk 0 := by
  unfold reach at h
  have hread : ∀ i < chunk.length, (chunk ++ back)[i]? = chunk[i]? :=
    fun i hi => List.getElem?_append_left hi
  unfold deInterleavePixel
  simp only [Nat.zero_add]
  rw [hread 0 (by omega), hread 1 (by omega), hread (isConf w) (by omega),
    hread (countConf w) (by omega), hread (abCount w) (by omega)]

/-- The pixels from one on. -/
theorem deInterleavePixel_flatMap (w : PixelWidths) (pixels : List (ℕ × ℕ × ℕ)) {i : ℕ}
    (hi : i ≤ pixels.length) :
    deInterleavePixel w (pixels.flatMap w.pack) (i * pixelBytes w)
      = deInterleavePixel w ((pixels.drop i).flatMap w.pack) 0 := by
  have hlength : ((pixels.take i).flatMap w.pack).length = i * pixelBytes w := by
    rw [length_flatMap_pack, List.length_take, Nat.min_eq_left hi]
  rw [← deInterleavePixel_append w ((pixels.take i).flatMap w.pack), hlength,
    ← List.flatMap_append, List.take_append_drop]

theorem mapM_eq_some_iff {α β : Type} (f : α → Option β) (l : List α) (out : List β) :
    l.mapM f = some out ↔ l.map f = out.map some := by
  induction l generalizing out with
  | nil => cases out <;> simp
  | cons x l ih =>
    rw [List.mapM_cons, List.map_cons]
    cases out with
    | nil => simp [Option.bind_eq_some_iff]
    | cons y out => simp [Option.bind_eq_some_iff, ← ih]

/-- **What it is for a frame to be taken apart.** -/
theorem deInterleaveDepth_eq_some_iff {raw : Bytes} {n : ℕ} {out : List (ℕ × ℕ × ℕ)} {k : ℕ}
    (hk : k ≤ n) : deInterleaveDepth w raw n k = some out ↔
      out.length = k ∧ ∀ i < k, deInterleavePixel w raw (i * pixelBytes w % 2 ^ 32) = out[i]? := by
  unfold deInterleaveDepth
  rw [mapM_eq_some_iff]
  constructor
  · intro h
    have hlength := congrArg List.length h
    rw [List.length_map, List.length_map, List.length_range] at hlength
    refine ⟨hlength.symm, fun i hi => ?_⟩
    have hget := congrArg (·[i]?) h
    simp only [List.getElem?_map, List.getElem?_range hi, Option.map_some] at hget
    rw [if_pos (by omega)] at hget
    rw [List.getElem?_eq_getElem (by omega), Option.map_some] at hget
    rw [List.getElem?_eq_getElem (by omega)]
    exact Option.some.inj hget
  · rintro ⟨hlength, h⟩
    refine List.ext_getElem (by simp [hlength]) (fun i hi _ => ?_)
    have hik : i < k := by simpa using hi
    rw [List.getElem_map, List.getElem_map, List.getElem_range, if_pos (by omega), h i hik,
      List.getElem?_eq_getElem (by omega)]

/-! ## The context

The widths go into the library through the INI file and 14 bits of a
configuration, and come out of these again. Widths of more than five, or for the
confidence four, bits do not, and these are outside of the list for that reason
already. At the end `ComputeXYZ` counts coordinates in an `int`, of which there
are three to a pixel. -/

theorem initTofiConfigIsp_eq (iniText : Bytes) : initTofiConfigIsp iniText
    = (declaredWidths iniText).map (fun w => packBits w.depth w.ab w.conf) := by
  unfold initTofiConfigIsp declaredWidths
  cases stoi (findKeyAndGetValue iniText (ascii "bitsInPhaseOrDepth")) with
  | none => rfl
  | some nbDepth =>
    cases stoi (findKeyAndGetValue iniText (ascii "bitsInAB")) with
    | none => rfl
    | some nbAb =>
      cases stoi (findKeyAndGetValue iniText (ascii "bitsInConf")) with
      | none => rfl
      | some nbConf => rfl

variable {generates : Bytes → Bool} {allocates : ℕ → Bool} {iniText : Bytes} {mode : UInt8}
  {slots : DealiasSlots}

/-- What the library is initialised with. -/
theorem context_of_declared (hini : declaredWidths iniText = some w)
    (hgenerates : generates (slots.get mode) = true) {config : Config} {cal : Cal}
    {object : Context}
    (hconfig : (library generates allocates).initTofiConfigIsp iniText mode slots
      = some (some config, 0))
    (hcal : (library generates allocates).calConfig config = some cal)
    (hobject : (library generates allocates).initTofiCompute cal = (some object, 0)) :
    object = {
      cal := ⟨slots.get mode, packBits w.depth w.ab w.conf⟩
      widths := unpackBits (packBits w.depth w.ab w.conf)
      tables := framePixels (slots.get mode) % 2 ^ 32 } := by
  have htables : (dealiasRows (slots.get mode) * dealiasCols (slots.get mode)).toNat
      = framePixels (slots.get mode) % 2 ^ 32 := UInt32.toNat_mul _ _
  unfold library at hconfig hcal hobject
  dsimp only at hconfig hcal hobject
  rw [initTofiConfigIsp_eq, hini, Option.map_some, Option.map_some] at hconfig
  obtain ⟨hsome, -⟩ := Prod.mk.inj (Option.some.inj hconfig)
  rw [← Option.some.inj hsome] at hcal
  rw [← Option.some.inj hcal, if_pos hgenerates] at hobject
  rw [← Option.some.inj (Prod.mk.inj hobject).1, htables]

/-- It is initialised. -/
theorem exists_context (allocates : ℕ → Bool) (hini : declaredWidths iniText = some w)
    (hgenerates : generates (slots.get mode) = true) :
    ∃ config cal object,
      (library generates allocates).initTofiConfigIsp iniText mode slots = some (some config, 0)
        ∧ (library generates allocates).calConfig config = some cal
        ∧ (library generates allocates).initTofiCompute cal = (some object, 0) := by
  refine ⟨⟨some ⟨slots.get mode, packBits w.depth w.ab w.conf⟩⟩,
    ⟨slots.get mode, packBits w.depth w.ab w.conf⟩,
    ⟨⟨slots.get mode, packBits w.depth w.ab w.conf⟩,
      unpackBits (packBits w.depth w.ab w.conf),
      (dealiasRows (slots.get mode) * dealiasCols (slots.get mode)).toNat⟩, ?_, rfl, ?_⟩
  · unfold library
    dsimp only
    rw [initTofiConfigIsp_eq, hini]
    rfl
  · unfold library
    dsimp only
    rw [if_pos hgenerates]

/-- **What a call of `TofiCompute` makes of a frame.** -/
theorem tofiCompute_eq_some_iff {raw dealias : Bytes} {bits : ℕ} {out : List (ℕ × ℕ × ℕ)} :
    tofiCompute raw {
        object := ⟨⟨dealias, bits⟩, w, framePixels dealias % 2 ^ 32⟩
        geometry := some (dealiasRows dealias, dealiasCols dealias)
        planePixels := some (framePixels dealias) } = some out ↔
      out.length = framePixels dealias % 2 ^ 32
        ∧ (∀ i < framePixels dealias % 2 ^ 32,
          deInterleavePixel w raw (i * pixelBytes w % 2 ^ 32) = out[i]?)
        ∧ 3 * (framePixels dealias % 2 ^ 32) ≤ 2 ^ 31 := by
  have hpixels : (dealiasCols dealias * dealiasRows dealias).toNat
      = framePixels dealias % 2 ^ 32 := by
    rw [UInt32.toNat_mul, Nat.mul_comm]
    rfl
  have hle := Nat.mod_le (framePixels dealias) (2 ^ 32)
  have hcoordinates : (computeXYZ (framePixels dealias % 2 ^ 32) (framePixels dealias)
      (framePixels dealias % 2 ^ 32)).isSome = true
      ↔ 3 * (framePixels dealias % 2 ^ 32) ≤ 2 ^ 31 := by
    rw [isSome_computeXYZ_iff]
    constructor
    · intro h
      by_contra hlt
      have hlast := (h (framePixels dealias % 2 ^ 32 - 1) (by omega)).2.2.1
      omega
    · intro h pixel hpixel
      exact ⟨hpixel, by omega, by omega, by omega⟩
  rw [← and_assoc, ← deInterleaveDepth_eq_some_iff hle, ← hcoordinates]
  unfold tofiCompute
  dsimp only
  rw [hpixels]
  simp only [Option.bind_eq_bind, Option.bind_some]
  cases deInterleaveDepth w raw (framePixels dealias) (framePixels dealias % 2 ^ 32) with
  | none => simp
  | some out' =>
    cases computeXYZ (framePixels dealias % 2 ^ 32) (framePixels dealias)
      (framePixels dealias % 2 ^ 32) with
    | none => simp
    | some _ => simp

/-- The library has a frame taken apart with the widths it was packed with. -/
theorem recovers_iff_pixels (hini : declaredWidths iniText = some w)
    (hgenerates : generates (slots.get mode) = true)
    (hpos : 0 < framePixels (slots.get mode)) :
    Recovers (library generates allocates) iniText mode slots w ↔
      unpackBits (packBits w.depth w.ab w.conf) = w
        ∧ 3 * framePixels (slots.get mode) ≤ 2 ^ 31
        ∧ ∀ pixels : List (ℕ × ℕ × ℕ), pixels.length = framePixels (slots.get mode) →
          (∀ p ∈ pixels, w.Fits p) → ∀ i < framePixels (slots.get mode),
            deInterleavePixel w (pixels.flatMap w.pack) (i * pixelBytes w % 2 ^ 32)
              = pixels[i]? := by
  constructor
  · intro h
    have hzero : ∀ p ∈ List.replicate (framePixels (slots.get mode)) (0, 0, 0), w.Fits p := by
      intro p hp
      rw [List.eq_of_mem_replicate hp]
      exact ⟨Nat.two_pow_pos _, Nat.two_pow_pos _, Nat.two_pow_pos _⟩
    obtain ⟨config, cal, object, hconfig, hcal, hobject, hw, hout⟩ :=
      h _ List.length_replicate hzero
    have hcontext := context_of_declared hini hgenerates hconfig hcal hobject
    rw [hcontext] at hw hout
    dsimp only at hw
    rw [hw, tofiCompute_eq_some_iff, List.length_replicate] at hout
    obtain ⟨hlength, -, hcoordinates⟩ := hout
    rw [← hlength] at hcoordinates
    refine ⟨hw, hcoordinates, fun pixels hpixels hfits i hi => ?_⟩
    obtain ⟨config, cal, object, hconfig, hcal, hobject, -, hout⟩ := h pixels hpixels hfits
    have hcontext := context_of_declared hini hgenerates hconfig hcal hobject
    rw [hcontext, hw, tofiCompute_eq_some_iff, ← hlength] at hout
    exact hout.2.1 i hi
  · rintro ⟨hw, hcoordinates, h⟩ pixels hpixels hfits
    obtain ⟨config, cal, object, hconfig, hcal, hobject⟩ :=
      exists_context allocates hini hgenerates
    have hcontext := context_of_declared hini hgenerates hconfig hcal hobject
    have hmod : framePixels (slots.get mode) % 2 ^ 32 = framePixels (slots.get mode) :=
      Nat.mod_eq_of_lt (by omega)
    refine ⟨config, cal, object, hconfig, hcal, hobject, ?_, ?_⟩
    · rw [hcontext]
      exact hw
    · rw [hcontext, hw, tofiCompute_eq_some_iff, hmod]
      exact ⟨hpixels, h pixels hpixels hfits, hcoordinates⟩

/-- A pixel is at most five bytes. -/
theorem pixelBytes_le (hdepth : w.depth ≤ 16) (hconf : w.conf < 16) (hab : w.ab ≤ 16) :
    pixelBytes w ≤ 5 := by
  unfold pixelBytes
  omega

/-- **The pixels of a frame come out as they went in exactly for the widths of
the list**, and if there are not too many for their coordinates.

The assumptions are that the INI file declares the widths, that a pixel is a
whole number of bytes, and that the dealias data gives a frame. The list has 16
entries, and the two directions say that it has all there are. The bound on the
number of pixels comes from an `int` that the coordinates are indexed with. -/
theorem recovers_iff (hini : declaredWidths iniText = some w)
    (hbits : (w.depth + w.conf + w.ab) % 8 = 0)
    (hgenerates : generates (slots.get mode) = true)
    (hpos : 0 < framePixels (slots.get mode)) :
    Recovers (library generates allocates) iniText mode slots w ↔
      w ∈ recoverable ∧ 3 * framePixels (slots.get mode) ≤ 2 ^ 31 := by
  rw [recovers_iff_pixels hini hgenerates hpos]
  generalize hn : framePixels (slots.get mode) = n at hpos ⊢
  constructor
  · rintro ⟨hw, hcoordinates, h⟩
    refine ⟨?_, hcoordinates⟩
    -- a frame all of one pixel
    have hsame : ∀ p, w.Fits p → ∀ i < n,
        deInterleavePixel w ((List.replicate n p).flatMap w.pack) (i * pixelBytes w % 2 ^ 32)
          = some p := by
      intro p hp i hi
      rw [h _ List.length_replicate (fun q hq => List.eq_of_mem_replicate hq ▸ hp) i hi,
        List.getElem?_replicate_of_lt hi]
    have hconf : w.conf < 16 := by
      rw [← hw, unpackBits_eq]
      exact Nat.mod_lt _ (by decide)
    have hzero : ∀ k, 0 < 2 ^ k := Nat.two_pow_pos
    have hdepth : w.depth ≤ 16 := by
      by_contra hlt
      have hp : w.Fits (2 ^ 16, 0, 0) :=
        ⟨Nat.pow_lt_pow_right (by decide) (by omega), hzero _, hzero _⟩
      exact absurd (lt_of_deInterleavePixel (hsame _ hp 0 hpos)).1 (lt_irrefl _)
    have hab : w.ab ≤ 16 := by
      by_contra hlt
      have hp : w.Fits (0, 0, 2 ^ 16) :=
        ⟨hzero _, hzero _, Nat.pow_lt_pow_right (by decide) (by omega)⟩
      exact absurd (lt_of_deInterleavePixel (hsame _ hp 0 hpos)).2 (lt_irrefl _)
    obtain hmem | ⟨p, hp, hne⟩ := extremes_of_not_mem w.depth (List.mem_range.mpr (by omega))
      w.conf (List.mem_range.mpr hconf) w.ab (List.mem_range.mpr (by omega)) hbits
    · exact hmem
    · -- the last pixel has nothing behind it
      refine absurd ?_ hne
      have hlast := hsame p (fits_of_mem_extremes hp) (n - 1) (by omega)
      have hbytes := pixelBytes_le hdepth hconf hab
      have hbase : (n - 1) * pixelBytes w < 2 ^ 32 :=
        lt_of_le_of_lt (Nat.mul_le_mul_left (n - 1) hbytes) (by omega)
      rw [Nat.mod_eq_of_lt hbase, deInterleavePixel_flatMap _ _ (by simp),
        List.drop_replicate, Nat.sub_sub_self hpos] at hlast
      simpa using hlast
  · rintro ⟨hmem, hcoordinates⟩
    have hread := readable_of_mem hmem
    have hrange : ∀ w ∈ recoverable, unpackBits (packBits w.depth w.ab w.conf) = w
        ∧ pixelBytes w ≤ 5 := by
      decide +kernel
    obtain ⟨hw, hbytes⟩ := hrange w hmem
    refine ⟨hw, hcoordinates, fun pixels hlength hfits i hi => ?_⟩
    have hbase : i * pixelBytes w < 2 ^ 32 :=
      lt_of_le_of_lt (Nat.mul_le_mul_left i hbytes) (by omega)
    have hp : pixels[i] ∈ pixels := List.getElem_mem _
    rw [Nat.mod_eq_of_lt hbase, deInterleavePixel_flatMap _ _ (by omega),
      List.drop_eq_getElem_cons (by omega), List.flatMap_cons,
      deInterleavePixel_append_back (by rw [length_pack]; exact hread.reach),
      deInterleavePixel_of_readable hread (hfits _ hp), List.getElem?_eq_getElem (by omega)]

/-- Dealias data of one row and one column. -/
def onePixel : DealiasSlots := fun _ => some (le32 1 ++ le32 1 ++ List.replicate 80 0)

/-- 12 bits of depth, 4 of confidence and 16 of active brightness come out as
they went in, for a frame of one pixel and mode 3. -/
theorem recovers_twelve_bits :
    Recovers (library (fun _ => true) (fun _ => true))
      (ascii "bitsInPhaseOrDepth=12\nbitsInConf=4\nbitsInAB=16\n") 3 onePixel ⟨12, 4, 16⟩ :=
  (recovers_iff (by decide +kernel) (by decide) rfl (by decide +kernel)).mpr
    ⟨by decide, by decide +kernel⟩

/-- **14 bits of depth, 4 of confidence and 14 of active brightness do not**:
the confidence is looked for four bits too low, among those of the depth. -/
theorem not_recovers_fourteen_bits :
    ¬ ∀ (generates : Bytes → Bool) (allocates : ℕ → Bool) (iniText : Bytes) (mode : UInt8)
      (slots : DealiasSlots) (w : PixelWidths), declaredWidths iniText = some w →
      (w.depth + w.conf + w.ab) % 8 = 0 → generates (slots.get mode) = true →
      0 < framePixels (slots.get mode) →
      Recovers (library generates allocates) iniText mode slots w := by
  intro h
  have hini : declaredWidths (ascii "bitsInPhaseOrDepth=14\nbitsInConf=4\nbitsInAB=14\n")
      = some ⟨14, 4, 14⟩ := by decide +kernel
  have hpos : 0 < framePixels (onePixel.get 3) := by decide +kernel
  have hrecovers := h (fun _ => true) (fun _ => true) _ 3 onePixel _ hini (by decide) rfl hpos
  have hpixels := ((recovers_iff_pixels hini rfl hpos).mp hrecovers).2.2 [(0, 15, 0)]
    (by decide +kernel) (by decide) 0 hpos
  exact absurd hpixels (by decide +kernel)

end OpenSource
