import TofNet.PathIndependence

/-!
# The two readings of an INI file

The collector can be built with and without the SDK. Either way the INI file
of a frame type decides with which bit widths the sensor streams, but the two
paths read it with code of their own: `parse_ini_key_values` trims lines and
values, skips comments and lets the last assignment of a key count,
`getKeyValuePairsFromIni` takes the lines as they are, drops empty values and
lets the first one count. Each has its own table from widths to the codes of
the sensor's controls, with its own codes for a width that is not listed, and
the SDK's path ends with an exception where a number cannot be read.

`sends_same_iff` says which texts give the same controls on both paths.

The two paths are compared in a common form. Each makes a list of calls of
`setControl`, one for each of four keys that has a value, and the list is a
function of the values that the file has for the keys (`controlCalls`). So the
question is, key by key, whether two values lead to the same code; and the two
parsers come in only by which value they find.
-/

/-! ## The calls of setControl

On the SDK's path an exception may come in between: the parameters of the ISP
are read first, and then the controls are set one by one. What has been called
up to then has been called, so the list that counts is the list up to the
exception (`sentControls`), and `configure_sensor` shows that it is what the
camera does to the sensor. -/

/-- The calls for the three widths and the partial depth, each if there is
one. -/
def controlCalls (phase conf ab enable : Option ℕ) : List (Control × ℕ) :=
  phase.toList.map (Prod.mk .phaseDepthBits) ++ conf.toList.map (Prod.mk .confidenceBits)
    ++ ab.toList.map (Prod.mk .abBits)
    ++ enable.toList.flatMap (fun n => [(.depthEnable, n), (.abAveraging, n)])

/-- What such calls leave a control with. -/
theorem controlValue_controlCalls (phase conf ab enable : Option ℕ) :
    controlValue (controlCalls phase conf ab enable) = fun
      | .phaseDepthBits => phase
      | .confidenceBits => conf
      | .abBits => ab
      | .depthEnable => enable
      | .abAveraging => enable := by
  funext k
  cases phase <;> cases conf <;> cases ab <;> cases enable <;> cases k <;> rfl

/-- The same calls leave the same values. -/
theorem controlValue_controlCalls_congr {phase conf ab enable phase' conf' ab' enable' : Option ℕ} :
    (∀ k, controlValue (controlCalls phase conf ab enable) k
        = controlValue (controlCalls phase' conf' ab' enable') k)
      ↔ phase = phase' ∧ conf = conf' ∧ ab = ab' ∧ enable = enable' := by
  rw [controlValue_controlCalls, controlValue_controlCalls]
  constructor
  · intro h
    exact ⟨h .phaseDepthBits, h .confidenceBits, h .abBits, h .depthEnable⟩
  · rintro ⟨rfl, rfl, rfl, rfl⟩ k
    rfl

/-- The code of `partialDepthEnable`, on both paths. -/
def enableCode (value : Bytes) : ℕ := if value = ascii "0" then 1 else 0

/-- The direct path's calls. -/
theorem directIniControls_eq (kv : Bytes → Option Bytes) :
    directIniControls kv = controlCalls ((kv (ascii "bitsInPhaseOrDepth")).map mapBits)
      ((kv (ascii "bitsInConf")).map mapBits) ((kv (ascii "bitsInAB")).map mapBits)
      ((kv (ascii "partialDepthEnable")).map enableCode) := by
  unfold directIniControls setFromBits
  cases kv (ascii "bitsInPhaseOrDepth") <;> cases kv (ascii "bitsInConf") <;>
    cases kv (ascii "bitsInAB") <;> cases kv (ascii "partialDepthEnable") <;> rfl

namespace ItofCamera

/-- The parameters of the ISP are numbers, and the bits of the active
brightness are one; `stoi` throws elsewhere. -/
def ispParses (kv : Bytes → Option Bytes) : Bool :=
  (iniParams kv).all (fun param => param.2.isSome)

def abParses (kv : Bytes → Option Bytes) : Bool :=
  (kv (ascii "bitsInAB")).all (fun value => (stoi value).isSome)

/-- The calls that `setAdsd3500WithIniParams` and `configureSensorFrameType`
get to with a map, up to an exception. -/
def sentControls (kv : Bytes → Option Bytes) : List (Control × ℕ) :=
  if ispParses kv = true then
    if abParses kv = true then mapControls kv else controlsBeforeAb kv
  else []

/-- **The calls of `setFrameType`** ahead of the sensor's own. -/
def sends (a : ItofAnswers) (files : Files) (c : ItofCamera) (frameType : Bytes) :
    List (Control × ℕ) :=
  match c.types.find? (fun type => type.type = frameType) with
  | none => []
  | some _ =>
    sentControls (getKeyValuePairsFromIni a files (c.chooseIniDepth frameType)).iniKeyValPairs

variable {a : ItofAnswers} {files : Files} {frameType : Bytes} {c : ItofCamera}

theorem ispParses_iff (kv : Bytes → Option Bytes) :
    ispParses kv = true ↔ ∀ param ∈ iniParams kv, param.2 ≠ none := by
  unfold ispParses
  simp only [List.all_eq_true, Option.isSome_iff_ne_none]

theorem abParses_iff (kv : Bytes → Option Bytes) :
    abParses kv = true ↔ ∀ value, kv (ascii "bitsInAB") = some value → stoi value ≠ none := by
  unfold abParses
  cases kv (ascii "bitsInAB") with
  | none => simp
  | some value => simp [Option.isSome_iff_ne_none]

/-- `configureSensorFrameType` makes its calls up to the exception. -/
theorem configureSensorFrameType_sensor (a : ItofAnswers) (c : ItofCamera) :
    (c.configureSensorFrameType a).1.sensor = c.sensor.setControls a.sensor
      (if abParses c.iniKeyValPairs = true then mapControls c.iniKeyValPairs
        else controlsBeforeAb c.iniKeyValPairs) := by
  obtain ⟨hreturns, hframe⟩ := c.configureSensorFrameType_frame a
  rw [← abParses_iff] at hreturns
  by_cases hab : abParses c.iniKeyValPairs = true
  · obtain ⟨_, _, _, hc⟩ := hframe (hreturns.mpr hab)
    rw [hc, if_pos hab]
  · rw [if_neg hab]
    unfold configureSensorFrameType noteAb
    dsimp only
    cases hvalue : c.iniKeyValPairs (ascii "bitsInAB") with
    | none => exact absurd ((abParses_iff _).mpr (fun value h => by rw [hvalue] at h; cases h)) hab
    | some value =>
      dsimp only
      cases hnumber : stoi value with
      | none => rfl
      | some n =>
        refine absurd ((abParses_iff _).mpr (fun value' h => ?_)) hab
        rw [hvalue] at h
        rw [← Option.some.inj h, hnumber]
        exact Option.some_ne_none n

/-- Reading the file replaces the map and nothing else. -/
theorem getKeyValuePairsFromIni_frame (a : ItofAnswers) (files : Files) (c : ItofCamera) :
    getKeyValuePairsFromIni a files c
      = { c with iniKeyValPairs := (getKeyValuePairsFromIni a files c).iniKeyValPairs } := by
  unfold getKeyValuePairsFromIni
  split
  · rfl
  · split <;> rfl

theorem getKeyValuePairsFromIni_pcmFrame (a : ItofAnswers) (files : Files) (c : ItofCamera)
    (pcm : Bool) :
    (getKeyValuePairsFromIni a files { c with pcmFrame := pcm }).iniKeyValPairs
      = (getKeyValuePairsFromIni a files c).iniKeyValPairs := by
  unfold getKeyValuePairsFromIni
  dsimp only
  split
  · rfl
  · split <;> rfl

/-- A file that can be opened is read. -/
theorem getKeyValuePairsFromIni_of_text {text : Bytes} (h : c.iniText files frameType = some text)
    (hopen : a.sensor.fails .openIni = false) :
    (getKeyValuePairsFromIni a files (c.chooseIniDepth frameType)).iniKeyValPairs
      = iniPairs text := by
  obtain ⟨map, hchoose, -⟩ := c.chooseIniDepth_frame frameType
  unfold iniText at h
  split at h
  · cases h
  next hne =>
    rw [hchoose]
    unfold getKeyValuePairsFromIni
    dsimp only
    rw [if_neg (by simp [hne, hopen]), h]

/-- **The calls are those the camera makes**, whether `setFrameType` goes on
or throws. -/
theorem configure_sensor (hlisted : (c.types.find? (fun type => type.type = frameType)).isSome) :
    (c.configure a files frameType).1.sensor
      = c.sensor.setControls a.sensor (c.sends a files frameType) := by
  obtain ⟨type, htype⟩ := Option.isSome_iff_exists.mp hlisted
  unfold sends
  rw [htype]
  dsimp only
  rw [← getKeyValuePairsFromIni_pcmFrame a files _ (frameType = ascii "pcm-native")]
  unfold configure
  dsimp only
  generalize hc₁ : getKeyValuePairsFromIni a files { c.chooseIniDepth frameType with
    pcmFrame := frameType = ascii "pcm-native" } = c₁
  have hsensor : c₁.sensor = c.sensor := by
    obtain ⟨map, hchoose, -⟩ := c.chooseIniDepth_frame frameType
    rw [← hc₁, getKeyValuePairsFromIni_frame, hchoose]
  obtain ⟨⟨registers, hparams⟩, hnumbers⟩ := writeParams_frame a (iniParams c₁.iniKeyValPairs) c₁
  rw [← ispParses_iff] at hnumbers
  rcases hwrite : c₁.setAdsd3500WithIniParams a with ⟨c₂, returned⟩
  unfold setAdsd3500WithIniParams at hwrite
  rw [hwrite] at hparams hnumbers
  unfold sentControls
  cases returned with
  | false =>
    rw [if_neg (fun h => Bool.false_ne_true (hnumbers.mpr h))]
    dsimp only at hparams ⊢
    rw [hparams]
    exact hsensor
  | true =>
    rw [if_pos (hnumbers.mp rfl)]
    dsimp only at hparams ⊢
    have hcalls := configureSensorFrameType_sensor a c₂
    have hkv : c₂.iniKeyValPairs = c₁.iniKeyValPairs := by rw [hparams]
    have hsensor₂ : c₂.sensor = c.sensor := by rw [hparams]; exact hsensor
    rw [hkv, hsensor₂] at hcalls
    rcases hconf : c₂.configureSensorFrameType a with ⟨c₃, returned⟩
    rw [hconf] at hcalls
    cases returned <;> exact hcalls

/-- The calls of a map, as far as `stoi` lets them go. -/
theorem sentControls_eq (kv : Bytes → Option Bytes) :
    sentControls kv = controlCalls
      (if ispParses kv = true then (kv (ascii "bitsInPhaseOrDepth")).map phaseBits else none)
      (if ispParses kv = true then (kv (ascii "bitsInConf")).map confBits else none)
      (if ispParses kv = true ∧ abParses kv = true then (kv (ascii "bitsInAB")).map abBits
        else none)
      (if ispParses kv = true ∧ abParses kv = true then
        (kv (ascii "partialDepthEnable")).map enableCode else none) := by
  unfold sentControls mapControls controlsBeforeAb controlsFromAb keyControl
  by_cases hisp : ispParses kv = true
  · rw [if_pos hisp, if_pos hisp, if_pos hisp]
    by_cases hab : abParses kv = true
    · rw [if_pos hab, if_pos ⟨hisp, hab⟩, if_pos ⟨hisp, hab⟩]
      cases kv (ascii "bitsInPhaseOrDepth") <;> cases kv (ascii "bitsInConf") <;>
        cases kv (ascii "bitsInAB") <;> cases kv (ascii "partialDepthEnable") <;> rfl
    · have hboth : ¬ (ispParses kv = true ∧ abParses kv = true) := fun h => hab h.2
      rw [if_neg hab, if_neg hboth, if_neg hboth]
      cases kv (ascii "bitsInPhaseOrDepth") <;> cases kv (ascii "bitsInConf") <;> rfl
  · have hboth : ¬ (ispParses kv = true ∧ abParses kv = true) := fun h => hisp h.1
    rw [if_neg hisp, if_neg hisp, if_neg hisp, if_neg hboth, if_neg hboth]
    rfl

end ItofCamera

/-! ## The lines

The direct path has the last line that assigns a key, and the SDK's the first
that gives it a value, each by its own idea of a line. Both are written as the
head of a list of lines, filtered, which makes the first and the last
comparable. -/

/-- The value of the last line that assigns a key, lines trimmed and comments
skipped. -/
def lastAssigned (text key : Bytes) : Option Bytes :=
  ((((getlines 10 text).filterMap iniAssign).filter (fun a => a.1 = key)).getLast?).map Prod.snd

/-- The value of the first line that gives a key a value, the lines as they
are. -/
def firstPaired (text key : Bytes) : Option Bytes :=
  ((((getlines 10 text).filterMap ItofCamera.iniPair).filter (fun a => a.1 = key)).head?).map
    Prod.snd

/-- A table of assignments has the last value of a key. -/
theorem assignAll_eq_getLast? {κ ν : Type} [DecidableEq κ] (assigns : List (κ × ν)) (k : κ) :
    assignAll assigns k = ((assigns.filter (fun a => a.1 = k)).getLast?).map Prod.snd := by
  induction assigns using List.reverseRecOn with
  | nil => rfl
  | append_singleton assigns a ih =>
    rw [assignAll_append, List.filter_append]
    by_cases hk : a.1 = k
    · rw [← hk, Function.update_self,
        show [a].filter (fun b => b.1 = a.1) = [a] by simp, List.getLast?_concat]
      rfl
    · rw [Function.update_of_ne (Ne.symm hk), ih,
        show [a].filter (fun b => b.1 = k) = [] by simp [hk], List.append_nil]

theorem parseIniKeyValues_eq (text key : Bytes) :
    parseIniKeyValues text key = lastAssigned text key :=
  assignAll_eq_getLast? _ key

theorem iniPairs_eq (text key : Bytes) : ItofCamera.iniPairs text key = firstPaired text key := by
  unfold ItofCamera.iniPairs firstPaired
  rw [List.head?_filter]

/-! ## The widths

A value is a width that one of the tables lists, or it is none of these. With
this the tables are functions on a finite type, and where they agree can be
looked up; only the values that neither lists have to be argued about. -/

/-- The widths that one of the tables lists. -/
inductive Width
  | w16
  | w14
  | w12
  | w10
  | w8
  | w4
  | other
  deriving DecidableEq, Repr

/-- The width a value names. -/
def widthOf (value : Bytes) : Width :=
  if value = ascii "16" then .w16
  else if value = ascii "14" then .w14
  else if value = ascii "12" then .w12
  else if value = ascii "10" then .w10
  else if value = ascii "8" then .w8
  else if value = ascii "4" then .w4
  else .other

namespace Width

/-- Both tables of the depth list a width from 10 to 16. The direct path's 8
is the code that the SDK has for every other width. -/
def PhaseSame (v w : Width) : Prop :=
  (v = w ∧ v ∈ [w16, w14, w12, w10]) ∨ (v = w8 ∧ w ∉ [w16, w14, w12, w10])

/-- The confidence agrees on 8, on 4, and on what the direct path does not
list and the SDK does not either. -/
def ConfSame (v w : Width) : Prop :=
  (v = w ∧ v ∈ [w8, w4]) ∨ (v = other ∧ w ∉ [w8, w4])

/-- The active brightness agrees on the widths from 8 to 16, and on what
neither lists; the direct path lists 4 too. -/
def AbSame (v w : Width) : Prop :=
  (v = w ∧ v ∈ [w16, w14, w12, w10, w8]) ∨ (v = other ∧ w ∈ [w4, other])

end Width

/-- The tables as functions of the width. -/
theorem mapBits_eq (value : Bytes) : mapBits value = match widthOf value with
    | .w16 => 6 | .w14 => 5 | .w12 => 4 | .w10 => 3 | .w8 => 2 | .w4 => 1 | .other => 0 := by
  unfold mapBits widthOf
  split_ifs <;> rfl

theorem phaseBits_eq (value : Bytes) : ItofCamera.phaseBits value = match widthOf value with
    | .w16 => 6 | .w14 => 5 | .w12 => 4 | .w10 => 3 | _ => 2 := by
  unfold ItofCamera.phaseBits widthOf
  split_ifs <;> rfl

theorem confBits_eq (value : Bytes) : ItofCamera.confBits value = match widthOf value with
    | .w8 => 2 | .w4 => 1 | _ => 0 := by
  by_cases h8 : value = ascii "8"
  · subst h8
    decide
  by_cases h4 : value = ascii "4"
  · subst h4
    decide
  · unfold ItofCamera.confBits widthOf
    rw [if_neg h8, if_neg h4, if_neg h8, if_neg h4]
    split_ifs <;> rfl

theorem abBits_eq (value : Bytes) : ItofCamera.abBits value = match widthOf value with
    | .w16 => 6 | .w14 => 5 | .w12 => 4 | .w10 => 3 | .w8 => 2 | _ => 0 := by
  unfold ItofCamera.abBits widthOf
  split_ifs <;> rfl

theorem mapBits_eq_phaseBits_iff (v w : Bytes) :
    mapBits v = ItofCamera.phaseBits w ↔ (widthOf v).PhaseSame (widthOf w) := by
  rw [mapBits_eq, phaseBits_eq]
  cases widthOf v <;> cases widthOf w <;> simp [Width.PhaseSame]

theorem mapBits_eq_confBits_iff (v w : Bytes) :
    mapBits v = ItofCamera.confBits w ↔ (widthOf v).ConfSame (widthOf w) := by
  rw [mapBits_eq, confBits_eq]
  cases widthOf v <;> cases widthOf w <;> simp [Width.ConfSame]

theorem mapBits_eq_abBits_iff (v w : Bytes) :
    mapBits v = ItofCamera.abBits w ↔ (widthOf v).AbSame (widthOf w) := by
  rw [mapBits_eq, abBits_eq]
  cases widthOf v <;> cases widthOf w <;> simp [Width.AbSame]

theorem enableCode_eq_iff (v w : Bytes) :
    enableCode v = enableCode w ↔ (v = ascii "0" ↔ w = ascii "0") := by
  unfold enableCode
  by_cases hv : v = ascii "0" <;> by_cases hw : w = ascii "0" <;> simp [hv, hw]

/-! ## When the two paths agree

Both lists of calls leave the same values if for each key both have a call with
the same code, or neither has one. Where the SDK's path ends in an exception,
the other must have no call from there on. -/

/-- Two values, or none on either side. -/
def Matches (rel : Bytes → Bytes → Prop) : Option Bytes → Option Bytes → Prop
  | none, none => True
  | some v, some w => rel v w
  | _, _ => False

theorem map_eq_map_iff (f g : Bytes → ℕ) (v w : Option Bytes) :
    v.map f = w.map g ↔ Matches (fun v w => f v = g w) v w := by
  cases v <;> cases w <;> simp [Matches]

theorem Matches.congr {rel rel' : Bytes → Bytes → Prop} (h : ∀ v w, rel v w ↔ rel' v w)
    (v w : Option Bytes) : Matches rel v w ↔ Matches rel' v w := by
  cases v <;> cases w <;> simp [Matches, h]

/-- The keys of the ISP's parameters whose values have to be numbers. -/
def ispKeys : List Bytes :=
  [ascii "abThreshMin", ascii "confThresh", ascii "radialThreshMin", ascii "radialThreshMax",
    ascii "jblfWindowSize"]

/-- The first value of a key is a number, if it has one. -/
def Number (text key : Bytes) : Prop := ∀ value, firstPaired text key = some value →
  stoi value ≠ none

/-- **The two paths read the same format out of a text**: as far as the SDK's
path gets without an exception, the last assignment of a key agrees with the
first line that gives it a value, and from there on the text assigns
nothing. -/
structure SameFormat (text : Bytes) : Prop where
  /-- The depth has one code, … -/
  phase : (∀ key ∈ ispKeys, Number text key) →
    Matches (fun v w => (widthOf v).PhaseSame (widthOf w))
      (lastAssigned text (ascii "bitsInPhaseOrDepth"))
      (firstPaired text (ascii "bitsInPhaseOrDepth"))
  /-- … the confidence, … -/
  conf : (∀ key ∈ ispKeys, Number text key) →
    Matches (fun v w => (widthOf v).ConfSame (widthOf w))
      (lastAssigned text (ascii "bitsInConf")) (firstPaired text (ascii "bitsInConf"))
  /-- … the active brightness, … -/
  ab : (∀ key ∈ ispKeys, Number text key) → Number text (ascii "bitsInAB") →
    Matches (fun v w => (widthOf v).AbSame (widthOf w))
      (lastAssigned text (ascii "bitsInAB")) (firstPaired text (ascii "bitsInAB"))
  /-- … and the switch of the depth. -/
  enable : (∀ key ∈ ispKeys, Number text key) → Number text (ascii "bitsInAB") →
    Matches (fun v w => v = ascii "0" ↔ w = ascii "0")
      (lastAssigned text (ascii "partialDepthEnable"))
      (firstPaired text (ascii "partialDepthEnable"))
  /-- Where the SDK ends with an exception, the collector sets none of the
  first two. -/
  thrown : ¬ (∀ key ∈ ispKeys, Number text key) →
    lastAssigned text (ascii "bitsInPhaseOrDepth") = none
      ∧ lastAssigned text (ascii "bitsInConf") = none
  /-- Where it ends behind these, the collector sets none of the others. -/
  thrownAb : ¬ ((∀ key ∈ ispKeys, Number text key) ∧ Number text (ascii "bitsInAB")) →
    lastAssigned text (ascii "bitsInAB") = none
      ∧ lastAssigned text (ascii "partialDepthEnable") = none

theorem isSome_intParam (kv : Bytes → Option Bytes) (key : Bytes) (cmd : UInt16) :
    (∀ param ∈ ItofCamera.intParam kv key cmd, param.2 ≠ none)
      ↔ ∀ value, kv key = some value → stoi value ≠ none := by
  unfold ItofCamera.intParam
  cases kv key with
  | none => simp
  | some value => simp

theorem ispParses_iniPairs (text : Bytes) :
    ItofCamera.ispParses (ItofCamera.iniPairs text) = true
      ↔ ∀ key ∈ ispKeys, Number text key := by
  rw [ItofCamera.ispParses_iff]
  unfold ItofCamera.iniParams ispKeys Number
  cases ItofCamera.iniPairs text (ascii "jblfApplyFlag") <;>
    simp only [List.forall_mem_append, isSome_intParam, List.forall_mem_cons, iniPairs_eq,
      and_assoc, List.not_mem_nil, false_implies, implies_true, and_true, ne_eq,
      reduceCtorEq, not_false_eq_true]

theorem abParses_iniPairs (text : Bytes) :
    ItofCamera.abParses (ItofCamera.iniPairs text) = true ↔ Number text (ascii "bitsInAB") := by
  rw [ItofCamera.abParses_iff, iniPairs_eq]
  rfl

/-- The two paths set the same controls exactly if the text gives them the
same format. -/
theorem controlValue_eq_iff (text : Bytes) :
    (∀ k, controlValue (directIniControls (parseIniKeyValues text)) k
        = controlValue (ItofCamera.sentControls (ItofCamera.iniPairs text)) k)
      ↔ SameFormat text := by
  rw [directIniControls_eq, ItofCamera.sentControls_eq, controlValue_controlCalls_congr]
  simp only [parseIniKeyValues_eq, iniPairs_eq]
  have hispIff := ispParses_iniPairs text
  have habIff := abParses_iniPairs text
  have hphase := fun v w => (map_eq_map_iff mapBits ItofCamera.phaseBits v w).trans
    (Matches.congr mapBits_eq_phaseBits_iff v w)
  have hconf := fun v w => (map_eq_map_iff mapBits ItofCamera.confBits v w).trans
    (Matches.congr mapBits_eq_confBits_iff v w)
  have hab := fun v w => (map_eq_map_iff mapBits ItofCamera.abBits v w).trans
    (Matches.congr mapBits_eq_abBits_iff v w)
  have henable := fun v w => (map_eq_map_iff enableCode enableCode v w).trans
    (Matches.congr enableCode_eq_iff v w)
  by_cases hisp : ItofCamera.ispParses (ItofCamera.iniPairs text) = true
  · -- the bit widths are numbers, so no conversion throws there
    have hkeys := hispIff.mp hisp
    by_cases hnum : ItofCamera.abParses (ItofCamera.iniPairs text) = true
    · have hbits := habIff.mp hnum
      rw [if_pos hisp, if_pos hisp, if_pos ⟨hisp, hnum⟩, if_pos ⟨hisp, hnum⟩, hphase, hconf, hab,
        henable]
      constructor
      · rintro ⟨h₁, h₂, h₃, h₄⟩
        exact ⟨fun _ => h₁, fun _ => h₂, fun _ _ => h₃, fun _ _ => h₄, fun h => absurd hkeys h,
          fun h => absurd ⟨hkeys, hbits⟩ h⟩
      · intro h
        exact ⟨h.phase hkeys, h.conf hkeys, h.ab hkeys hbits, h.enable hkeys hbits⟩
    · -- the width of the AB plane throws, with the widths before it sent
      have hbits : ¬ Number text (ascii "bitsInAB") := fun h => hnum (habIff.mpr h)
      have hboth : ¬ (ItofCamera.ispParses (ItofCamera.iniPairs text) = true
        ∧ ItofCamera.abParses (ItofCamera.iniPairs text) = true) := fun h => hnum h.2
      rw [if_pos hisp, if_pos hisp, if_neg hboth, if_neg hboth, hphase, hconf,
        Option.map_eq_none_iff, Option.map_eq_none_iff]
      constructor
      · rintro ⟨h₁, h₂, h₃⟩
        exact ⟨fun _ => h₁, fun _ => h₂, fun _ h => absurd h hbits, fun _ h => absurd h hbits,
          fun h => absurd hkeys h, fun _ => h₃⟩
      · intro h
        exact ⟨h.phase hkeys, h.conf hkeys, h.thrownAb (fun h => hbits h.2)⟩
  · -- the first conversion that throws leaves nothing sent
    have hkeys : ¬ ∀ key ∈ ispKeys, Number text key := fun h => hisp (hispIff.mpr h)
    have hboth : ¬ (ItofCamera.ispParses (ItofCamera.iniPairs text) = true
      ∧ ItofCamera.abParses (ItofCamera.iniPairs text) = true) := fun h => hisp h.1
    rw [if_neg hisp, if_neg hisp, if_neg hboth, if_neg hboth, Option.map_eq_none_iff,
      Option.map_eq_none_iff, Option.map_eq_none_iff, Option.map_eq_none_iff]
    constructor
    · rintro ⟨h₁, h₂, h₃⟩
      exact ⟨fun h => absurd h hkeys, fun h => absurd h hkeys, fun h => absurd h hkeys,
        fun h => absurd h hkeys, fun _ => ⟨h₁, h₂⟩, fun _ => h₃⟩
    · intro h
      exact ⟨(h.thrown hkeys).1, (h.thrown hkeys).2, h.thrownAb (fun h => hkeys h.1)⟩

/-- **The two paths send the same controls** for a frame type whose INI file
they both find, exactly if its text gives both the same format.

The premises say that there is a text and that both paths come to it. What is
sent is a list of calls, and two lists are compared by the value that each
leaves a control with. -/
theorem sends_same_iff {a : ItofAnswers} {files : Files} {iniByMode : Bytes → Option Bytes}
    {c : ItofCamera} {frameType path text : Bytes} (hpath : iniByMode frameType = some path)
    (hfile : files path = some text) (hlisted : ∃ type ∈ c.types, type.type = frameType)
    (hsdk : c.iniText files frameType = some text) (hopen : a.sensor.fails .openIni = false) :
    (∃ direct, iniControls files iniByMode frameType = some direct
        ∧ ∀ k, controlValue direct k = controlValue (c.sends a files frameType) k)
      ↔ SameFormat text := by
  have hdirect : iniControls files iniByMode frameType
      = some (directIniControls (parseIniKeyValues text)) := by
    unfold iniControls
    rw [hpath]
    dsimp only
    rw [hfile, Option.map_some]
  have hsends : c.sends a files frameType
      = ItofCamera.sentControls (ItofCamera.iniPairs text) := by
    obtain ⟨type, htype, -⟩ := exists_find?_type hlisted
    unfold ItofCamera.sends
    rw [htype]
    dsimp only
    rw [ItofCamera.getKeyValuePairsFromIni_of_text hsdk hopen]
  rw [hdirect, hsends, ← controlValue_eq_iff]
  exact ⟨fun ⟨_, h, hsame⟩ => Option.some.inj h ▸ hsame, fun h => ⟨_, rfl, h⟩⟩

/-- The SDK's camera with one INI file for all frame types. -/
def ItofCamera.nativeIni : ItofCamera :=
  { ItofCamera.native with iniDepthMap := [], iniDepth := ascii "native.ini" }

/-- Whether both paths send the same for short range, when the file has this
text. -/
def SameForNative (text : Bytes) : Prop :=
  ∃ direct, iniControls (fun _ => some text) (fun _ => some (ascii "native.ini"))
      (ascii "sr-native") = some direct
    ∧ ∀ k, controlValue direct k = controlValue
        (ItofCamera.nativeIni.sends ItofCamera.faultless (fun _ => some text) (ascii "sr-native")) k

/-- A text without anything that the two paths read differently. -/
def plainIni : Bytes :=
  ascii "abThreshMin=3\nbitsInPhaseOrDepth=16\nbitsInConf=8\nbitsInAB=16\npartialDepthEnable=0\n"

theorem sameFormat_plainIni : SameFormat plainIni := by
  have hvalues : [("bitsInPhaseOrDepth", "16"), ("bitsInConf", "8"), ("bitsInAB", "16"),
      ("partialDepthEnable", "0"), ("abThreshMin", "3")].all (fun entry =>
        lastAssigned plainIni (ascii entry.1) = some (ascii entry.2)
          && firstPaired plainIni (ascii entry.1) = some (ascii entry.2)) = true := by
    decide +kernel
  simp only [List.all_cons, List.all_nil, Bool.and_eq_true, decide_eq_true_eq, and_true] at hvalues
  obtain ⟨⟨hp, hp'⟩, ⟨hc, hc'⟩, ⟨ha, ha'⟩, ⟨he, he'⟩, -, hmin⟩ := hvalues
  have hnone : (ispKeys.drop 1).all (fun key => (firstPaired plainIni key).isNone) = true := by
    decide +kernel
  have hkeys : ∀ key ∈ ispKeys, Number plainIni key := by
    intro key hkey value hvalue
    rcases List.mem_cons.mp hkey with rfl | hrest
    · rw [hmin] at hvalue
      rw [← Option.some.inj hvalue]
      decide
    · have hnil := List.all_eq_true.mp hnone key hrest
      rw [hvalue] at hnil
      cases hnil
  have hbits : Number plainIni (ascii "bitsInAB") := by
    intro value hvalue
    rw [ha'] at hvalue
    rw [← Option.some.inj hvalue]
    decide
  refine ⟨fun _ => ?_, fun _ => ?_, fun _ _ => ?_, fun _ _ => ?_, fun h => absurd hkeys h,
    fun h => absurd ⟨hkeys, hbits⟩ h⟩
  · rw [hp, hp']
    exact Or.inl ⟨rfl, List.mem_cons_self⟩
  · rw [hc, hc']
    exact Or.inl ⟨rfl, List.mem_cons_self⟩
  · rw [ha, ha']
    exact Or.inl ⟨rfl, List.mem_cons_self⟩
  · rw [he, he']
    exact Iff.rfl

/-- A file with one assignment a line and nothing around it: both paths send the
same. -/
theorem sends_same_plain : SameForNative plainIni := by
  have hsdk : ItofCamera.nativeIni.iniText (fun _ => some plainIni) (ascii "sr-native")
      = some plainIni := rfl
  exact (@sends_same_iff ItofCamera.faultless (fun _ => some plainIni)
    (fun _ => some (ascii "native.ini")) ItofCamera.nativeIni (ascii "sr-native")
    (ascii "native.ini") plainIni rfl rfl ⟨_, List.mem_cons_self, rfl⟩ hsdk rfl).mpr
    sameFormat_plainIni

/-- With the line ends of Windows, the collector streams with 16 bits of
depth, and the SDK with the code of 8. -/
theorem not_sends_same_windows : ¬ SameForNative (ascii "bitsInPhaseOrDepth=16\r\n") := by
  rintro ⟨direct, hdirect, hsame⟩
  obtain rfl := Option.some.inj hdirect
  exact absurd (hsame .phaseDepthBits) (by decide +kernel)
