import Mathlib.Data.Nat.Bitwise
import TofNet.DirectConfig

/-!
# The layout of a pixel

A pixel of a raw frame is a depth, a confidence and an active brightness, of
widths that an INI file gives. Both machines have the list of INI files
(`DEPTH_INI`) and each chooses and reads one on its own: the collector to
program the sensor (`DirectConfig`), the viewer to unpack what it receives
(`selectNetworkIniForMode`, `computeTofiFrame`, `InitTofiConfig_isp`). This
module is the viewer's half, and what it takes for the two to read one text
alike.

They differ in three places. The collector takes the last entry whose name
ends with the frame type, the viewer the first that has it anywhere in its
path (`Configured`, `dataFrameIni_eq`). The collector trims every line and
takes the last one with the key, the viewer the first that starts with it. And
the viewer packs the three widths into 14 bits, so that only these are compared
in the end (`SameText`, `programmedWidths_eq_iff`).

The three differences are kept apart, as each has a condition of its own: which
file is chosen, which line of it is read, and what is packed. The first is a
matter of paths and is stated with the frame type. The other two are about one
text, and become one condition on it, with the packing as its last part.
-/

/-! ## The viewer's INI file

A configured file is chosen when the mode is, and every frame is resolved
against it once more by its own frame type. Both times the test is whether the
name of the mode is anywhere in the path. -/

/-- `splitSemicolonList`, which removes every space. -/
def splitSemicolonList (value : Bytes) : List Bytes :=
  ((getlines 59 value).map (List.filter (· ≠ 32))).filter (· ≠ [])

/-- A file is readable if it can be opened. -/
def fileReadable (files : Files) (path : Bytes) : Bool := path ≠ [] && (files path).isSome

/-- `defaultIniCandidatesForFrameType`. -/
def defaultIniCandidates (frameType : Bytes) : List Bytes :=
  if frameType = [] then []
  else [ascii "./config/RawToDepthAdsd3500_", ascii "./config/RawToDepthAdsd_",
    ascii "../tof-net-collect/config/RawToDepthAdsd3500_",
    ascii "../tof-net-collect/config/RawToDepthAdsd_",
    ascii "../../tof-net-collect/config/RawToDepthAdsd3500_",
    ascii "../../tof-net-collect/config/RawToDepthAdsd_"].map
      (fun stem => stem ++ frameType ++ ascii ".ini")

/-- The first candidate that is readable, or else the first one. -/
def defaultIni (files : Files) (frameType : Bytes) : Bytes :=
  match (defaultIniCandidates frameType).find? (fileReadable files) with
  | some candidate => candidate
  | none => (defaultIniCandidates frameType).headD []

/-- The entry of the list that `selectNetworkIniForMode` chooses. -/
def selectListed (files : Files) (iniFiles : List Bytes) (mode : Bytes) : Option Bytes :=
  match iniFiles.find? (fun path => contains mode path) with
  | some path =>
    if fileReadable files path = true then some path else iniFiles.find? (fileReadable files)
  | none => iniFiles.find? (fileReadable files)

/-- `ADIMainWindow::selectNetworkIniForMode`. -/
def selectNetworkIniForMode (files : Files) (networkIniFiles mode : Bytes) : Bytes :=
  match selectListed files (splitSemicolonList networkIniFiles) mode with
  | some path => path
  | none => defaultIni files mode

/-- `resolveIniFile`. -/
def resolveIniFile (files : Files) (iniFile frameType : Bytes) : Bytes :=
  if iniFile ≠ [] then iniFile else defaultIni files frameType

/-- The INI file of a DataFrame: `computeTofiFrame` resolves the configured
one against the frame type, and `ensureTofiIsp` resolves that again. -/
def dataFrameIni (files : Files) (configIni frameType : Bytes) : Bytes :=
  let resolvedIni :=
    if configIni = [] ∨ contains frameType configIni = false then
      resolveIniFile files [] frameType
    else configIni
  resolveIniFile files resolvedIni frameType

/-! ## The viewer's widths

The widths pass through 14 bits of one 16-bit number: a bit field each, shifted
and joined. What does not fit into its field reaches into the next. -/

/-- `iniFileContentFindKeyAndGetValue`. -/
def findKeyAndGetValue (iniContent key : Bytes) : Bytes :=
  match (getlines 10 iniContent).find? (fun line => decide (key <+: line ∧ 61 ∈ line)) with
  | some line => (line.dropWhile (· ≠ 61)).drop 1
  | none => []

/-- `Freq[0]`, where `InitTofiConfig_isp` puts the three widths. -/
def packBits (nbDepth nbAb nbConf : ℕ) : ℕ := (nbDepth ||| nbAb <<< 5 ||| nbConf <<< 10) % 2 ^ 16

/-- An `int` in a `uint16_t`. -/
def toU16 (n : Int) : ℕ := (n % 2 ^ 16).toNat

/-- What `InitTofiConfig_isp` makes of an INI file, or `none` where a
`std::stoi` throws. -/
def initTofiConfigIsp (iniText : Bytes) : Option ℕ :=
  (stoi (findKeyAndGetValue iniText (ascii "bitsInPhaseOrDepth"))).bind (fun nbDepth =>
  (stoi (findKeyAndGetValue iniText (ascii "bitsInAB"))).bind (fun nbAb =>
  (stoi (findKeyAndGetValue iniText (ascii "bitsInConf"))).map (fun nbConf =>
    packBits (toU16 nbDepth) (toU16 nbAb) (toU16 nbConf))))

/-- The widths of a pixel's three parts. -/
structure PixelWidths where
  depth : ℕ
  conf : ℕ
  ab : ℕ
  deriving DecidableEq

/-- The widths `InitTofiCompute` reads back from the packed ones. -/
def unpackBits (bits : ℕ) : PixelWidths where
  depth := bits &&& 0x1F
  ab := (bits &&& 0x3E0) >>> 5
  conf := (bits &&& 0x3C00) >>> 10

/-! ## The widths of the collector

The collector sends codes to the sensor, not widths, and the codes are those of
a table. A width that is not in the table is not sent, so that the one in force
stays. -/

/-- The bits a code stands for; it undoes `mapBits`. -/
def widthOfCode (code : ℕ) : ℕ :=
  if code = 6 then 16
  else if code = 5 then 14
  else if code = 4 then 12
  else if code = 3 then 10
  else if code = 2 then 8
  else if code = 1 then 4
  else 0

/-- The widths a list of `setControl` calls programs; `none` if one of the
three is left as it was. -/
def programmedWidths (controls : List (Control × ℕ)) : Option PixelWidths :=
  (controlValue controls .phaseDepthBits).bind (fun depth =>
  (controlValue controls .confidenceBits).bind (fun conf =>
  (controlValue controls .abBits).map (fun ab =>
    { depth := widthOfCode depth, conf := widthOfCode conf, ab := widthOfCode ab })))

/-- The file's name ends in `_ft.ini`. -/
def EndsIn (ft path : Bytes) : Prop := ascii "_" ++ ft ++ ascii ".ini" <:+ baseName path

/-! ## The widths as numbers

The bit fields are shown to be digits, so that reading back is a matter of
division, and the question becomes when three digits of a sum are the summands. -/

/-- The unpacked widths are digits of the packed number. -/
theorem unpackBits_eq (bits : ℕ) :
    unpackBits bits
      = { depth := bits % 32, conf := bits / 1024 % 16, ab := bits / 32 % 32 } := by
  have hdepth : bits &&& 0x1F = bits % 32 := Nat.and_two_pow_sub_one_eq_mod bits 5
  have hab : (bits &&& 0x3E0) >>> 5 = bits / 32 % 32 := by
    rw [Nat.shiftRight_and_distrib, Nat.shiftRight_eq_div_pow bits]
    exact Nat.and_two_pow_sub_one_eq_mod _ 5
  have hconf : (bits &&& 0x3C00) >>> 10 = bits / 1024 % 16 := by
    rw [Nat.shiftRight_and_distrib, Nat.shiftRight_eq_div_pow bits]
    exact Nat.and_two_pow_sub_one_eq_mod _ 4
  rw [unpackBits, hdepth, hab, hconf]

/-- Widths that stay in their places are packed as a sum. -/
theorem packBits_eq {depth ab conf : ℕ} (hd : depth < 32) (ha : ab < 32) (hc : conf < 64) :
    packBits depth ab conf = depth + 32 * ab + 1024 * conf := by
  have hlow : depth ||| ab <<< 5 = ab <<< 5 + depth := by
    rw [Nat.or_comm, Nat.shiftLeft_add_eq_or_of_lt hd]
  have hall : depth ||| ab <<< 5 ||| conf <<< 10 = conf <<< 10 + (ab <<< 5 + depth) := by
    have hlt : ab <<< 5 + depth < 2 ^ 10 := by
      rw [Nat.shiftLeft_eq]
      omega
    rw [hlow, Nat.or_comm, Nat.shiftLeft_add_eq_or_of_lt hlt]
  rw [packBits, hall, Nat.shiftLeft_eq, Nat.shiftLeft_eq]
  omega

/-- **Three widths are read back exactly when the 14 bits are theirs.** A
confidence of 16 bits is never read back. -/
theorem unpackBits_eq_iff {bits depth conf ab : ℕ} (hd : depth ≤ 16) (hc : conf ≤ 16)
    (ha : ab ≤ 16) :
    unpackBits bits = { depth := depth, conf := conf, ab := ab } ↔
      bits % 2 ^ 14 = packBits depth ab conf := by
  rw [unpackBits_eq, packBits_eq (by omega) (by omega) (by omega), PixelWidths.mk.injEq]
  omega

/-- The width an INI value programs: one of the six the collector knows, or
else none. -/
def bitWidth (value : Bytes) : ℕ := widthOfCode (mapBits value)

theorem bitWidth_le (value : Bytes) : bitWidth value ≤ 16 := by
  unfold bitWidth widthOfCode
  split_ifs <;> omega

/-- **The programmed widths, by the values of the three keys.** -/
theorem programmedWidths_directIniControls (kv : Bytes → Option Bytes) :
    programmedWidths (directIniControls kv)
      = (kv (ascii "bitsInPhaseOrDepth")).bind (fun depth =>
        (kv (ascii "bitsInConf")).bind (fun conf =>
        (kv (ascii "bitsInAB")).map (fun ab =>
          { depth := bitWidth depth, conf := bitWidth conf, ab := bitWidth ab }))) := by
  have hdepth : controlValue (directIniControls kv) .phaseDepthBits
      = (kv (ascii "bitsInPhaseOrDepth")).map mapBits := by
    unfold directIniControls setFromBits controlValue assignAll
    cases kv (ascii "bitsInPhaseOrDepth") <;> cases kv (ascii "bitsInConf") <;>
      cases kv (ascii "bitsInAB") <;> cases kv (ascii "partialDepthEnable") <;> rfl
  have hconf : controlValue (directIniControls kv) .confidenceBits
      = (kv (ascii "bitsInConf")).map mapBits := by
    unfold directIniControls setFromBits controlValue assignAll
    cases kv (ascii "bitsInPhaseOrDepth") <;> cases kv (ascii "bitsInConf") <;>
      cases kv (ascii "bitsInAB") <;> cases kv (ascii "partialDepthEnable") <;> rfl
  have hab : controlValue (directIniControls kv) .abBits
      = (kv (ascii "bitsInAB")).map mapBits := by
    unfold directIniControls setFromBits controlValue assignAll
    cases kv (ascii "bitsInPhaseOrDepth") <;> cases kv (ascii "bitsInConf") <;>
      cases kv (ascii "bitsInAB") <;> cases kv (ascii "partialDepthEnable") <;> rfl
  rw [programmedWidths, hdepth, hconf, hab]
  cases kv (ascii "bitsInPhaseOrDepth") with
  | none => rfl
  | some depth =>
    cases kv (ascii "bitsInConf") with
    | none => rfl
    | some conf => cases kv (ascii "bitsInAB") <;> rfl

/-! ## Reading alike

Each reader has a number for each of the three keys, or none. What is compared
in the end are digits, so that the condition is one on the packed numbers. -/

/-- The path `selectNetworkIniForMode` configures for a mode: the first entry
with the mode in its path, if it can be read; the first that can be read; or
the default file. -/
def Configured (files : Files) (iniFiles : List Bytes) (gui path : Bytes) : Prop :=
  (iniFiles.find? (fun p => contains gui p) = some path ∧ fileReadable files path = true)
  ∨ ((∀ p, iniFiles.find? (fun p => contains gui p) = some p → fileReadable files p = false)
      ∧ iniFiles.find? (fileReadable files) = some path)
  ∨ ((∀ p ∈ iniFiles, fileReadable files p = false) ∧ defaultIni files gui = path)

/-- The path is the one that `selectNetworkIniForMode` returns, case by case. -/
theorem configured_iff {files : Files} {networkIniFiles gui path : Bytes} :
    selectNetworkIniForMode files networkIniFiles gui = path ↔
      Configured files (splitSemicolonList networkIniFiles) gui path := by
  unfold selectNetworkIniForMode selectListed Configured
  generalize splitSemicolonList networkIniFiles = iniFiles
  -- the two cases without a readable entry for the mode end alike
  have hfallback : (∀ p, iniFiles.find? (fun p => contains gui p) = some p →
        fileReadable files p = false) →
      ((match iniFiles.find? (fileReadable files) with
        | some p => p
        | none => defaultIni files gui) = path ↔
        iniFiles.find? (fileReadable files) = some path
          ∨ ((∀ p ∈ iniFiles, fileReadable files p = false) ∧ defaultIni files gui = path)) := by
    intro hmode
    cases hany : iniFiles.find? (fileReadable files) with
    | none =>
      have hnone : ∀ p ∈ iniFiles, fileReadable files p = false := by simpa using hany
      exact ⟨fun h => .inr ⟨hnone, h⟩, fun h => h.elim (fun h => by cases h) And.right⟩
    | some q =>
      have hq : ¬ ∀ p ∈ iniFiles, fileReadable files p = false := fun hnone => by
        simpa [List.find?_some hany] using hnone q (List.mem_of_find?_eq_some hany)
      exact ⟨fun h => .inl (congrArg some h),
        fun h => h.elim Option.some.inj (fun h => absurd h.1 hq)⟩
  cases hmode : iniFiles.find? (fun p => contains gui p) with
  | none =>
    rw [hmode] at hfallback
    refine (hfallback (fun _ h => by cases h)).trans ⟨fun h => .inr ?_, fun h => ?_⟩
    · exact h.imp_left (fun h => ⟨fun _ h' => (by cases h'), h⟩)
    · rcases h with ⟨h, _⟩ | ⟨_, h⟩ | h
      · cases h
      · exact .inl h
      · exact .inr h
  | some p =>
    rw [hmode] at hfallback
    dsimp only
    by_cases hread : fileReadable files p = true
    · rw [if_pos hread]
      refine ⟨fun h => .inl ⟨congrArg some h, h ▸ hread⟩, fun h => ?_⟩
      rcases h with ⟨h, _⟩ | ⟨hno, _⟩ | ⟨hno, _⟩
      · exact Option.some.inj h
      · exact absurd hread (by simp [hno p rfl])
      · exact absurd hread (by simp [hno p (List.mem_of_find?_eq_some hmode)])
    · rw [if_neg hread]
      have hno : ∀ q, some p = some q → fileReadable files q = false := by
        intro q hq
        cases hq
        simpa using hread
      refine (hfallback hno).trans ⟨fun h => .inr (h.imp_left (fun h => ⟨hno, h⟩)), fun h => ?_⟩
      rcases h with ⟨h, hr⟩ | ⟨_, h⟩ | h
      · exact absurd hr (by simp [hno path h])
      · exact .inl h
      · exact .inr h

/-- The viewer uses the configured file for the frame types in its path, and
the default file for the others. -/
theorem dataFrameIni_eq (files : Files) (configIni ft : Bytes) :
    dataFrameIni files configIni ft
      = if configIni = [] ∨ contains ft configIni = false then defaultIni files ft
        else configIni := by
  unfold dataFrameIni
  dsimp only
  split
  · unfold resolveIniFile
    by_cases hd : defaultIni files ft = []
    · simp [hd]
    · simp [hd]
  · next h => rw [resolveIniFile, if_pos (fun hnil => h (.inl hnil))]

/-- A file whose name ends in `_ft.ini` has `ft` in its path, and a name. -/
theorem contains_of_endsIn {ft path : Bytes} (h : EndsIn ft path) :
    contains ft path = true ∧ path ≠ [] := by
  have hbase : baseName path <:+ path := List.rtakeWhile_suffix _ _
  have hin : ft <:+: path := by
    refine List.IsInfix.trans ?_ (h.trans hbase).isInfix
    exact ⟨ascii "_", ascii ".ini", rfl⟩
  refine ⟨decide_eq_true hin, fun hnil => ?_⟩
  have hlen := (h.trans hbase).length_le
  rw [hnil] at hlen
  simp [ascii] at hlen

/-- **The text condition**: the three keys have a last assignment, and the
integers behind the first lines that start with them, packed in their 14
bits, are the widths of its values. -/
def SameText (text : Bytes) : Prop :=
  ∃ depth conf ab, parseIniKeyValues text (ascii "bitsInPhaseOrDepth") = some depth ∧
    parseIniKeyValues text (ascii "bitsInConf") = some conf ∧
    parseIniKeyValues text (ascii "bitsInAB") = some ab ∧
    ∀ bits, initTofiConfigIsp text = some bits →
      bits % 2 ^ 14 = packBits (bitWidth depth) (bitWidth ab) (bitWidth conf)

/-- **The widths agree exactly under the text condition.** -/
theorem programmedWidths_eq_iff {text : Bytes} {bits : ℕ} (h : initTofiConfigIsp text = some bits) :
    programmedWidths (directIniControls (parseIniKeyValues text)) = some (unpackBits bits) ↔
      SameText text := by
  rw [programmedWidths_directIniControls]
  constructor
  · intro heq
    obtain ⟨depth, hdepth, heq⟩ := Option.bind_eq_some_iff.mp heq
    obtain ⟨conf, hconf, heq⟩ := Option.bind_eq_some_iff.mp heq
    obtain ⟨ab, hab, heq⟩ := Option.map_eq_some_iff.mp heq
    refine ⟨depth, conf, ab, hdepth, hconf, hab, fun bits' hbits' => ?_⟩
    cases hbits'.symm.trans h
    exact (unpackBits_eq_iff (bitWidth_le _) (bitWidth_le _) (bitWidth_le _)).mp heq.symm
  · rintro ⟨depth, conf, ab, hdepth, hconf, hab, hbits⟩
    rw [hdepth, hconf, hab]
    refine congrArg some (Eq.symm ?_)
    exact (unpackBits_eq_iff (bitWidth_le _) (bitWidth_le _) (bitWidth_le _)).mpr (hbits bits h)
