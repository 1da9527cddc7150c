import TofNet.FsPath
import TofNet.SaveSession
import TofNet.Transition

/-!
# The directory of a session

The part of `ensureProcessedSaveSessionLocked` that is about paths. The name of
the directory is made of the time, the frame type, which comes from the
network, and the frame's id. A number is put behind it until there is nothing
of that name.

Two things can go wrong. The search may run out of suffixes. And a root that
the path library takes for a root name, as it takes `//data`, has no children
for it: what is appended to it makes another root name. Such a path has no
component that a directory could be made for, so that `create_directories` of
it makes nothing and reports no error, and the call goes on to open its files
under names that begin with that of the root. `confined_iff` says where the
directory is a new child of the configured root, and `nodup_sessions` that no
two sessions have one directory then.

The file system is three functions on paths, and nothing is known of them. What
is made is a list of paths in the order of the calls, up to the first that
fails, so that what is said of it holds however the file system answers. A path
is a text here, and what it means is said by its components (`FsPath`): to be a
child is to have the components of the parent and one more.

The frame type is the one part of the name that comes from elsewhere. What
`sanitizePathToken` leaves of it are letters, digits, hyphens and underscores,
and of such characters every name consists; so it is no matter what the frame
type is, and all that can go wrong is with the root.
-/

open FsPath

/-! ## The name

The name has the time to the second, so that two sessions may well have the same
one. That is what the suffix is for. -/

/-- The local time, as `std::tm` has it. -/
structure LocalTime where
  year : ℕ
  month : ℕ
  day : ℕ
  hour : ℕ
  minute : ℕ
  second : ℕ

/-- A number of two digits at least. -/
def twoDigits (n : ℕ) : Bytes := List.replicate (2 - (decimal n).length) 48 ++ decimal n

/-- `timestampForSessionDir`. -/
def timestampForSessionDir (now : LocalTime) : Bytes :=
  decimal now.year ++ twoDigits now.month ++ twoDigits now.day ++ ascii "_" ++ twoDigits now.hour
    ++ twoDigits now.minute ++ twoDigits now.second

/-- `sanitizePathToken`. -/
def sanitizePathToken (value : Bytes) : Bytes :=
  if value = [] then ascii "unknown"
  else value.map (fun c => if isAlnum c = false ∧ c ≠ 45 ∧ c ≠ 95 then 95 else c)

/-! ## The file system

`fs::exists` may throw and `fs::create_directories` may report an error; a file
may fail to be opened or written. All of these may depend on the path. -/

/-- **The configuration**, with the directory of the sessions. -/
structure SessionConfig extends SaveConfig where
  saveProcessedOutputDir : Bytes := ascii "./processed_frames"

/-- `rootDir`, as it is configured. -/
def SessionConfig.root (config : SessionConfig) : Bytes :=
  if config.saveProcessedOutputDir = [] then ascii "./processed_frames"
  else config.saveProcessedOutputDir

/-- **How the file system answers.** -/
structure FileSystem where
  /-- `fs::exists`, or none where it throws. -/
  lookup : Bytes → Option Bool
  /-- `fs::create_directories` ends without an error, for a path that is more
  than a root name. -/
  makes : Bytes → Bool
  /-- A file can be opened and written. -/
  writes : Bytes → Bool

/-- **`fs::create_directories`**: what it makes, and whether it ends without an
error. Of a path that is a root name it makes nothing, and there is no error. -/
def createDirectories (fs : FileSystem) (path : Bytes) : Option Bytes × Bool :=
  if IsRootName path then (none, true) else (some path, fs.makes path)

/-- A file is opened and written. -/
def writeFile (fs : FileSystem) (path : Bytes) : Option Bytes × Bool :=
  (some path, fs.writes path)

/-- How the search for a free name ends. -/
inductive Search
  | found (sessionDir : Bytes)
  | threw
  /-- The suffix is an `int`, and there is no greater one. -/
  | overflows
  deriving DecidableEq

/-- The loop, where the suffix can be counted up `left` more times. -/
def searchDir (fs : FileSystem) (rootDir baseName : Bytes) : ℕ → ℕ → Bytes → Search
  | 0, _, sessionDir =>
    match fs.lookup sessionDir with
    | none => .threw
    | some false => .found sessionDir
    | some true => .overflows
  | left + 1, suffix, sessionDir =>
    match fs.lookup sessionDir with
    | none => .threw
    | some false => .found sessionDir
    | some true =>
      searchDir fs rootDir baseName left (suffix + 1)
        (append rootDir (baseName ++ ascii "_" ++ decimal suffix))

/-! ## The call

The directories of the planes are made first, then the two files. What is made
counts whether or not a session comes of it. -/

/-- How a call ends. -/
inductive SessionOutcome
  /-- There is a session already. -/
  | active
  | undefined
  | threw
  | opened (sessionDir : Bytes)
  deriving DecidableEq

/-- **What a call makes**, in its order, and how it ends. -/
structure SessionCall where
  /-- What was made, directories and files. -/
  made : List Bytes
  /-- How it ended. -/
  outcome : SessionOutcome
  deriving DecidableEq

/-- `baseName`. -/
def SessionConfig.baseName (config : SessionConfig) (header : DataFramePayloadHeader)
    (now : LocalTime) : Bytes :=
  ascii "session_" ++ timestampForSessionDir now ++ ascii "_"
    ++ sanitizePathToken (makeFrameType header config.toViewerConfig) ++ ascii "_f"
    ++ decimal header.frameId.toNat

/-- What is made in a session's directory, and whether it can be. -/
def sessionEntries (fs : FileSystem) (config : SessionConfig) (sessionDir : Bytes) :
    List (Option Bytes × Bool) :=
  (([Plane.depth, .ir, .xyz, .raw].filter (savePlaneEnabled config.toSaveConfig)).map fun p =>
      createDirectories fs (append sessionDir p.name))
    ++ [ascii "frames.csv", ascii "camera.json"].map fun name =>
      writeFile fs (append sessionDir name)

/-- What is made when the search is over, up to the first thing that cannot
be. -/
def openSession (fs : FileSystem) (config : SessionConfig) (sessionDir : Bytes) : SessionCall :=
  let steps := createDirectories fs sessionDir :: sessionEntries fs config sessionDir
  ⟨(steps.takeWhile (·.2)).filterMap (·.1),
    if steps.all (·.2) = true then .opened sessionDir else .threw⟩

/-- **`ensureProcessedSaveSessionLocked`.** It throws at the first thing that
cannot be made. -/
def ensureProcessedSaveSession (fs : FileSystem) (config : SessionConfig)
    (header : DataFramePayloadHeader) (now : LocalTime) (active : Bool) : SessionCall :=
  if active = true then ⟨[], .active⟩
  else
    let rootDir := ofNative config.root
    let baseName := config.baseName header now
    match searchDir fs rootDir baseName 2147483646 1 (append rootDir baseName) with
    | .threw => ⟨[], .threw⟩
    | .overflows => ⟨[], .undefined⟩
    | .found sessionDir => openSession fs config sessionDir

/-! ## Confinement

It is said of what the call makes, and not of how it goes about it. A call that
makes nothing is confined, as long as it ends and was not to open a session. -/

/-- **The session is in a new directory of its own, under the root**: the search
ends; what is made first is a child of the root under the name of an entry, and
there was nothing of that name; all else is in it; and it is the directory of a
session, if the file system does everything. -/
structure Confined (fs : FileSystem) (config : SessionConfig) (header : DataFramePayloadHeader)
    (now : LocalTime) (active : Bool) : Prop where
  /-- The search comes to an end. -/
  ends : (ensureProcessedSaveSession fs config header now active).outcome ≠ .undefined
  /-- What is made first is a new child of the root. -/
  child : ∀ dir ∈ (ensureProcessedSaveSession fs config header now active).made.head?,
    fs.lookup dir = some false ∧ ∃ name, IsName name ∧ Child config.root dir name
  /-- All else is made in it. -/
  within : ∀ dir ∈ (ensureProcessedSaveSession fs config header now active).made.head?,
    ∀ path ∈ (ensureProcessedSaveSession fs config header now active).made.tail,
      ∃ name, IsName name ∧ Child dir path name
  /-- Where nothing fails, it is the directory of the session. -/
  opens : active = false → (∀ p, fs.lookup p ≠ none ∧ fs.makes p = true ∧ fs.writes p = true) →
    ∃ dir, dir ∈ (ensureProcessedSaveSession fs config header now active).made.head?
      ∧ (ensureProcessedSaveSession fs config header now active).outcome = .opened dir

/-- The names that are tried, in their order. -/
def candidate (rootDir baseName : Bytes) : ℕ → Bytes
  | 0 => append rootDir baseName
  | k + 1 => append rootDir (baseName ++ ascii "_" ++ decimal (k + 1))

/-! ## The search

The loop is run through once for all the names up to the first free one
(`searchDir_candidate`). Its result is then a matter of whether there is one. -/

section

variable {fs : FileSystem} {rootDir base : Bytes}

/-- While there is something of each name, the next is tried. -/
theorem searchDir_candidate {n k : ℕ} (hk : k ≤ n)
    (h : ∀ j < k, fs.lookup (candidate rootDir base j) = some true) :
    searchDir fs rootDir base n 1 (append rootDir base)
      = searchDir fs rootDir base (n - k) (k + 1) (candidate rootDir base k) := by
  induction k with
  | zero => rfl
  | succ k ih =>
    obtain ⟨left, hleft⟩ : ∃ left, n - k = left + 1 := ⟨n - k - 1, by omega⟩
    have hpresent := h k (Nat.lt_succ_self k)
    rw [ih (Nat.le_of_succ_le hk) fun j hj => h j (Nat.lt_succ_of_lt hj), hleft, searchDir,
      hpresent, show n - (k + 1) = left by omega]
    rfl

/-- **The first name of which there is nothing** is found, if it can be looked
up. -/
theorem searchDir_of_first {n k : ℕ} (hk : k ≤ n)
    (h : ∀ j < k, fs.lookup (candidate rootDir base j) = some true)
    (hfree : fs.lookup (candidate rootDir base k) ≠ some true) :
    searchDir fs rootDir base n 1 (append rootDir base)
      = match fs.lookup (candidate rootDir base k) with
        | some _ => .found (candidate rootDir base k)
        | none => .threw := by
  rw [searchDir_candidate hk h]
  cases hleft : n - k with
  | zero =>
    rw [searchDir]
    split
    · next hnone => rw [hnone]
    · next hfalse => rw [hfalse]
    · next htrue => exact absurd htrue hfree
  | succ left =>
    rw [searchDir]
    split
    · next hnone => rw [hnone]
    · next hfalse => rw [hfalse]
    · next htrue => exact absurd htrue hfree

/-- **The suffix overflows** if there is something of every name. -/
theorem searchDir_of_all {n : ℕ} (h : ∀ j ≤ n, fs.lookup (candidate rootDir base j) = some true) :
    searchDir fs rootDir base n 1 (append rootDir base) = .overflows := by
  rw [searchDir_candidate (Nat.le_refl n) fun j hj => h j (Nat.le_of_lt hj), Nat.sub_self,
    searchDir, h n (Nat.le_refl n)]

/-- There is a first such name, or there is none. -/
theorem exists_first (fs : FileSystem) (rootDir base : Bytes) (n : ℕ) :
    (∃ k ≤ n, (∀ j < k, fs.lookup (candidate rootDir base j) = some true)
        ∧ fs.lookup (candidate rootDir base k) ≠ some true)
      ∨ ∀ j ≤ n, fs.lookup (candidate rootDir base j) = some true := by
  by_cases hall : ∀ j ≤ n, fs.lookup (candidate rootDir base j) = some true
  · exact .inr hall
  · have hex : ∃ k, k ≤ n ∧ fs.lookup (candidate rootDir base k) ≠ some true := by
      obtain ⟨k, hk⟩ := not_forall.mp hall
      obtain ⟨hk, hfree⟩ := Classical.not_imp.mp hk
      exact ⟨k, hk, hfree⟩
    refine .inl ⟨Nat.find hex, (Nat.find_spec hex).1, fun j hj => ?_, (Nat.find_spec hex).2⟩
    by_contra hfree
    exact Nat.find_min hex hj ⟨(Nat.le_of_lt hj).trans (Nat.find_spec hex).1, hfree⟩

end

/-! ## The name is one of an entry

Every part of the name is shown to consist of harmless characters. A name of
such characters that is not empty has no separator and is neither of the two
names with dots alone. -/

/-- The characters of a name that is tried. -/
def Harmless (c : UInt8) : Prop := isAlnum c = true ∨ c = 45 ∨ c = 95

/-- The digits of a number. -/
theorem harmless_decimal {n : ℕ} {c : UInt8} (h : c ∈ decimal n) : Harmless c := by
  obtain ⟨hlow, hhigh⟩ := isDigit_of_mem_decimal h
  refine .inl ?_
  rw [isAlnum, isDigit]
  simp [hlow, hhigh]

/-- The digits of a number, with a zero in front. -/
theorem harmless_twoDigits {n : ℕ} {c : UInt8} (h : c ∈ twoDigits n) : Harmless c := by
  obtain h | h := List.mem_append.mp h
  · rw [(List.mem_replicate.mp h).2]
    exact .inl rfl
  · exact harmless_decimal h

/-- The time. -/
theorem harmless_timestamp {now : LocalTime} {c : UInt8} (h : c ∈ timestampForSessionDir now) :
    Harmless c := by
  unfold timestampForSessionDir at h
  simp only [List.mem_append] at h
  obtain ((((((h | h) | h) | h) | h) | h) | h) := h
  · exact harmless_decimal h
  · exact harmless_twoDigits h
  · exact harmless_twoDigits h
  · rw [show c = 95 by simpa [ascii] using h]
    exact .inr (.inr rfl)
  · exact harmless_twoDigits h
  · exact harmless_twoDigits h
  · exact harmless_twoDigits h

/-- **Whatever the frame type is**, nothing else is left of it. -/
theorem harmless_sanitizePathToken {value : Bytes} {c : UInt8} (h : c ∈ sanitizePathToken value) :
    Harmless c := by
  unfold sanitizePathToken at h
  split at h
  · have hall : ∀ c ∈ ascii "unknown", isAlnum c = true := by decide +kernel
    exact .inl (hall c h)
  · obtain ⟨d, -, rfl⟩ := List.mem_map.mp h
    split
    · exact .inr (.inr rfl)
    · next hd =>
      by_cases halnum : isAlnum d = true
      · exact .inl halnum
      · refine .inr ?_
        by_contra hne
        rw [not_or] at hne
        exact hd ⟨Bool.not_eq_true _ ▸ halnum, hne⟩

/-- A separator is not harmless. -/
theorem not_harmless_slash : ¬ Harmless 47 := by
  unfold Harmless
  decide

/-- A name of harmless characters is one of an entry. -/
theorem isName_of_harmless {name : Bytes} (hne : name ≠ []) (h : ∀ c ∈ name, Harmless c) :
    IsName name := by
  have hdot : ¬ Harmless 46 := by
    unfold Harmless
    decide
  exact { ne_nil := hne
          separator := fun hmem => not_harmless_slash (h 47 hmem)
          dot := fun heq => hdot (h 46 (by rw [heq]; decide))
          dotdot := fun heq => hdot (h 46 (by rw [heq]; decide)) }

variable {fs : FileSystem} {config : SessionConfig} {header : DataFramePayloadHeader}
  {now : LocalTime} {active : Bool}

/-- The name without its suffix. -/
theorem harmless_baseName {c : UInt8} (h : c ∈ config.baseName header now) : Harmless c := by
  have hunderscore : ∀ {s : Bytes}, (∀ c ∈ s, isAlnum c = true ∨ c = 95) → c ∈ s → Harmless c :=
    fun hs hc => (hs c hc).imp_right .inr
  unfold SessionConfig.baseName at h
  simp only [List.mem_append] at h
  obtain (((((h | h) | h) | h) | h) | h) := h
  · exact hunderscore (s := ascii "session_") (by decide +kernel) h
  · exact harmless_timestamp h
  · exact hunderscore (s := ascii "_") (by decide +kernel) h
  · exact harmless_sanitizePathToken h
  · exact hunderscore (s := ascii "_f") (by decide +kernel) h
  · exact harmless_decimal h

/-- **Every name that is tried is one of an entry.** -/
theorem exists_isName_candidate (config : SessionConfig) (header : DataFramePayloadHeader)
    (now : LocalTime) (rootDir : Bytes) (k : ℕ) :
    ∃ name, IsName name
      ∧ candidate rootDir (config.baseName header now) k = append rootDir name := by
  have hne : ∀ back, config.baseName header now ++ back ≠ [] := by
    intro back
    unfold SessionConfig.baseName
    simp [ascii]
  cases k with
  | zero =>
    have hbase := hne []
    rw [List.append_nil] at hbase
    exact ⟨_, isName_of_harmless hbase fun c hc => harmless_baseName hc, rfl⟩
  | succ k =>
    refine ⟨config.baseName header now ++ ascii "_" ++ decimal (k + 1), ?_, rfl⟩
    refine isName_of_harmless (by rw [List.append_assoc]; exact hne _) fun c hc => ?_
    simp only [List.mem_append] at hc
    obtain ((hc | hc) | hc) := hc
    · exact harmless_baseName hc
    · rw [show c = 95 by simpa [ascii] using hc]
      exact .inr (.inr rfl)
    · exact harmless_decimal hc

/-! ## What a call makes

The calls of the file system are a list, and what is made is its front up to the
first failure. That the front begins with the directory, and has nothing else in
front of it, is by cases on the first call. -/

/-- The directories of the planes. -/
theorem isName_name (p : Plane) : IsName p.name := by
  cases p <;> exact ⟨by decide, by decide, by decide, by decide⟩

/-- The file of the rows. -/
theorem isName_frames : IsName (ascii "frames.csv") :=
  ⟨by decide, by decide, by decide, by decide⟩

/-- The file of the camera. -/
theorem isName_camera : IsName (ascii "camera.json") :=
  ⟨by decide, by decide, by decide, by decide⟩

/-- Of a path that is more than a root name, a directory is made. -/
theorem createDirectories_of_not_isRootName {path : Bytes} (h : ¬ IsRootName path) :
    createDirectories fs path = (some path, fs.makes path) :=
  if_neg h

/-- Of a root name, nothing is made. -/
theorem createDirectories_of_isRootName {path : Bytes} (h : IsRootName path) :
    createDirectories fs path = (none, true) :=
  if_pos h

/-- **All else is in the directory**, if that is no root name. -/
theorem exists_child_of_mem_sessionEntries {text name path : Bytes} (hname : IsName name)
    (hroot : ¬ IsRootName (ofNative text))
    (h : path ∈ (sessionEntries fs config (append (ofNative text) name)).filterMap Prod.fst) :
    ∃ entry, IsName entry ∧ Child (append (ofNative text) name) path entry := by
  have hdir := not_isRootName_append hname hroot
  obtain ⟨step, hstep, hpath⟩ := List.mem_filterMap.mp h
  obtain hstep | hstep := List.mem_append.mp hstep
  · obtain ⟨p, -, rfl⟩ := List.mem_map.mp hstep
    unfold createDirectories at hpath
    split at hpath
    · cases hpath
    · obtain rfl := Option.some.inj hpath
      exact ⟨p.name, isName_name p, child_append (isName_name p) hdir⟩
  · obtain ⟨entry, hentry, rfl⟩ := List.mem_map.mp hstep
    obtain rfl := Option.some.inj hpath
    obtain rfl | rfl := by simpa using hentry
    · exact ⟨_, isName_frames, child_append isName_frames hdir⟩
    · exact ⟨_, isName_camera, child_append isName_camera hdir⟩

/-- **Without a session**, a call is a search and what follows of it. -/
theorem ensure_of_not_active :
    ensureProcessedSaveSession fs config header now false
      = match searchDir fs (ofNative config.root) (config.baseName header now) 2147483646 1
          (append (ofNative config.root) (config.baseName header now)) with
        | .threw => ⟨[], .threw⟩
        | .overflows => ⟨[], .undefined⟩
        | .found sessionDir => openSession fs config sessionDir :=
  rfl

/-- Nothing is made if the directory cannot be. -/
theorem made_of_not_makes {dir : Bytes} (hdir : ¬ IsRootName dir) (h : fs.makes dir = false) :
    (openSession fs config dir).made = [] := by
  rw [openSession, createDirectories_of_not_isRootName hdir,
    List.takeWhile_cons_of_neg (by simp [h])]
  rfl

/-- The directory is the first that is made. -/
theorem made_of_makes {dir : Bytes} (hdir : ¬ IsRootName dir) (h : fs.makes dir = true) :
    (openSession fs config dir).made
      = dir :: ((sessionEntries fs config dir).takeWhile (·.2)).filterMap (·.1) := by
  rw [openSession, createDirectories_of_not_isRootName hdir,
    List.takeWhile_cons_of_pos (by exact h)]
  rfl

/-- Opening a session is always defined. -/
theorem outcome_openSession_ne (dir : Bytes) :
    (openSession fs config dir).outcome ≠ .undefined := by
  rw [openSession]
  dsimp only
  split <;> exact nofun

/-- **The session is opened** if the file system does everything. -/
theorem openSession_of_all {dir : Bytes} (hdir : ¬ IsRootName dir)
    (h : ∀ p, fs.makes p = true ∧ fs.writes p = true) :
    dir ∈ (openSession fs config dir).made.head?
      ∧ (openSession fs config dir).outcome = .opened dir := by
  have hmade : ∀ path, (createDirectories fs path).2 = true := by
    intro path
    unfold createDirectories
    split
    · rfl
    · exact (h path).1
  have hall : (createDirectories fs dir :: sessionEntries fs config dir).all (·.2) = true := by
    rw [List.all_eq_true]
    intro step hstep
    obtain rfl | hstep := List.mem_cons.mp hstep
    · exact hmade dir
    · obtain hstep | hstep := List.mem_append.mp hstep
      · obtain ⟨p, -, rfl⟩ := List.mem_map.mp hstep
        exact hmade _
      · obtain ⟨name, -, rfl⟩ := List.mem_map.mp hstep
        exact (h _).2
  refine ⟨?_, ?_⟩
  · rw [made_of_makes hdir (h dir).1]
    rfl
  · rw [openSession]
    exact if_pos hall

/-! ## A root name

Nothing under a root name is a directory, so that `frames.csv` is the first
thing that is made. -/

/-- The planes have no directories. -/
theorem takeWhile_sessionEntries {dir : Bytes} (hdir : IsRootName dir) :
    ((sessionEntries fs config dir).takeWhile (·.2)).filterMap Prod.fst
      = (([ascii "frames.csv", ascii "camera.json"].map fun name =>
          writeFile fs (append dir name)).takeWhile (·.2)).filterMap Prod.fst := by
  have hplane : ∀ p : Plane, createDirectories fs (append dir p.name) = (none, true) := fun p =>
    createDirectories_of_isRootName (isRootName_append hdir (isName_name p).separator)
  unfold sessionEntries
  induction [Plane.depth, .ir, .xyz, .raw].filter (savePlaneEnabled config.toSaveConfig) with
  | nil => rfl
  | cons p planes ih =>
    rw [List.map_cons, List.cons_append, hplane, List.takeWhile_cons_of_pos (by rfl),
      List.filterMap_cons]
    exact ih

/-- **Under a root name**, nothing is made if `frames.csv` cannot be written,
and it is the first thing otherwise. -/
theorem head_made_of_isRootName {dir : Bytes} (hdir : IsRootName dir) :
    (openSession fs config dir).made.head?
      = if fs.writes (append dir (ascii "frames.csv")) = true
          then some (append dir (ascii "frames.csv")) else none := by
  have hmade : (openSession fs config dir).made
      = ((sessionEntries fs config dir).takeWhile (·.2)).filterMap Prod.fst := by
    rw [openSession, createDirectories_of_isRootName hdir, List.takeWhile_cons_of_pos (by rfl),
      List.filterMap_cons]
  rw [hmade, takeWhile_sessionEntries hdir, List.map_cons, writeFile]
  cases hwrites : fs.writes (append dir (ascii "frames.csv")) with
  | false =>
    rw [List.takeWhile_cons_of_neg (by simp)]
    rfl
  | true =>
    rw [List.takeWhile_cons_of_pos (by rfl)]
    rfl

/-! ## Where a session is confined

A name under a root is a root name just if the root is one, whatever the name.
So the condition can be stated on the root, and for each way the search can end
there is one lemma. -/

/-- The names that are tried in a call. -/
def SessionConfig.tried (config : SessionConfig) (header : DataFramePayloadHeader)
    (now : LocalTime) (k : ℕ) : Bytes :=
  candidate (ofNative config.root) (config.baseName header now) k

/-- A name that is tried is a root name just if the root is. -/
theorem isRootName_tried_iff (k : ℕ) :
    IsRootName (config.tried header now k) ↔ IsRootName (ofNative config.root) := by
  obtain ⟨name, hname, hdir⟩ :=
    exists_isName_candidate config header now (ofNative config.root) k
  rw [SessionConfig.tried, hdir]
  exact ⟨not_imp_not.mp (not_isRootName_append hname),
    fun h => isRootName_append h hname.separator⟩

/-- The call goes on with the first name of which there is nothing. -/
theorem ensure_of_first {k : ℕ} (hk : k ≤ 2147483646)
    (hbefore : ∀ j < k, fs.lookup (config.tried header now j) = some true)
    (hfree : fs.lookup (config.tried header now k) ≠ some true) :
    ensureProcessedSaveSession fs config header now false
      = match fs.lookup (config.tried header now k) with
        | some _ => openSession fs config (config.tried header now k)
        | none => ⟨[], .threw⟩ := by
  rw [ensure_of_not_active, searchDir_of_first hk hbefore hfree, ← SessionConfig.tried]
  cases fs.lookup (config.tried header now k) <;> rfl

/-- A call that makes nothing is confined, if it ends and need not open a
session. -/
theorem confined_of_made_eq_nil
    (hends : (ensureProcessedSaveSession fs config header now false).outcome ≠ .undefined)
    (hmade : (ensureProcessedSaveSession fs config header now false).made = [])
    (hopens : ¬ ∀ p, fs.lookup p ≠ none ∧ fs.makes p = true ∧ fs.writes p = true) :
    Confined fs config header now false where
  ends := hends
  child := by rw [hmade]; exact nofun
  within := by rw [hmade]; exact nofun
  opens := fun _ h => absurd h hopens

/-- A call whose search finds a name is confined, unless the root is a root name
and `frames.csv` can be written. -/
theorem confined_of_found {k : ℕ} (hk : k ≤ 2147483646)
    (hbefore : ∀ j < k, fs.lookup (config.tried header now j) = some true)
    (hfree : fs.lookup (config.tried header now k) ≠ some true)
    (hroot : IsRootName (ofNative config.root) →
      fs.lookup (config.tried header now k) = none
        ∨ fs.writes (append (config.tried header now k) (ascii "frames.csv")) = false) :
    Confined fs config header now false := by
  have hcall := ensure_of_first hk hbefore hfree
  cases hlookup : fs.lookup (config.tried header now k) with
  | none =>
    rw [hlookup] at hcall
    exact confined_of_made_eq_nil (by rw [hcall]; exact nofun) (by rw [hcall])
      fun h => (h _).1 hlookup
  | some present =>
    obtain rfl : present = false := by
      rw [hlookup] at hfree
      simpa using hfree
    rw [hlookup] at hcall
    by_cases hname : IsRootName (ofNative config.root)
    · -- under a root name, the call ends at `frames.csv`
      have hwrites := (hroot hname).resolve_left (by rw [hlookup]; exact nofun)
      have htried : IsRootName (config.tried header now k) := (isRootName_tried_iff k).mpr hname
      have hhead : (openSession fs config (config.tried header now k)).made.head? = _ :=
        head_made_of_isRootName htried
      rw [if_neg (by rw [hwrites]; exact Bool.false_ne_true)] at hhead
      refine confined_of_made_eq_nil (by rw [hcall]; exact outcome_openSession_ne _)
        (by rw [hcall]; exact List.head?_eq_none_iff.mp hhead) fun h => ?_
      exact absurd ((h _).2.2) (by rw [hwrites]; exact Bool.false_ne_true)
    have hdirName : ¬ IsRootName (config.tried header now k) :=
      mt (isRootName_tried_iff k).mp hname
    cases hmakes : fs.makes (config.tried header now k) with
    | false =>
      refine confined_of_made_eq_nil (by rw [hcall]; exact outcome_openSession_ne _)
        (by rw [hcall, made_of_not_makes hdirName hmakes]) fun h => ?_
      exact absurd ((h _).2.1) (by rw [hmakes]; exact Bool.false_ne_true)
    | true =>
      obtain ⟨entry, hentry, hdir⟩ :=
        exists_isName_candidate config header now (ofNative config.root) k
      rw [← SessionConfig.tried] at hdir
      have hmade : (ensureProcessedSaveSession fs config header now false).made
          = config.tried header now k
            :: ((sessionEntries fs config (config.tried header now k)).takeWhile (·.2)).filterMap
                Prod.fst := by
        rw [hcall, made_of_makes hdirName hmakes]
      refine { ends := ?ends, child := ?child, within := ?within, opens := ?opens }
      case ends =>
        rw [hcall]
        exact outcome_openSession_ne _
      case child =>
        rw [hmade]
        intro dir hdirMem
        obtain rfl := Option.some.inj hdirMem
        exact ⟨hlookup, entry, hentry, hdir ▸ child_append_ofNative hentry hname⟩
      case within =>
        rw [hmade]
        intro dir hdirMem path hpath
        obtain rfl := Option.some.inj hdirMem
        have hmem := ((List.takeWhile_sublist _).filterMap Prod.fst).subset hpath
        rw [hdir] at hmem ⊢
        exact exists_child_of_mem_sessionEntries hentry hname hmem
      case opens =>
        intro _ h
        rw [hcall]
        exact ⟨_, openSession_of_all hdirName fun p => (h p).2⟩

/-- **What is made under a root name** is none of its children. -/
theorem not_confined_of_isRootName {k : ℕ} (hk : k ≤ 2147483646)
    (hbefore : ∀ j < k, fs.lookup (config.tried header now j) = some true)
    (hlookup : fs.lookup (config.tried header now k) = some false)
    (hwrites : fs.writes (append (config.tried header now k) (ascii "frames.csv")) = true)
    (hroot : IsRootName (ofNative config.root)) : ¬ Confined fs config header now false := by
  intro h
  have hfree : fs.lookup (config.tried header now k) ≠ some true := by
    rw [hlookup]
    decide
  have hcall := ensure_of_first hk hbefore hfree
  rw [hlookup] at hcall
  have htried : IsRootName (config.tried header now k) := (isRootName_tried_iff k).mpr hroot
  have hhead : (openSession fs config (config.tried header now k)).made.head? = _ :=
    head_made_of_isRootName htried
  rw [if_pos hwrites] at hhead
  obtain ⟨-, child, -, hchild⟩ := h.child _ (by rw [hcall]; exact hhead)
  obtain ⟨name, hname, hdir⟩ :=
    exists_isName_candidate config header now (ofNative config.root) k
  -- the file's name is appended to the root together with the directory's
  rw [SessionConfig.tried, hdir, append_append_of_isRootName hroot hname.separator] at hchild
  refine not_child_of_isRootName ⟨?_, ?_, ?_, ?_⟩ hroot hchild
  · exact List.append_ne_nil_of_left_ne_nil hname.ne_nil _
  · exact fun hmem => (List.mem_append.mp hmem).elim hname.separator isName_frames.separator
  · intro heq
    have hlength := congrArg List.length heq
    rw [List.length_append] at hlength
    simp [ascii] at hlength
  · intro heq
    have hlength := congrArg List.length heq
    rw [List.length_append] at hlength
    simp [ascii] at hlength

/-- **A session's directory is a new child of the root** just if there is a
session already, or one of the names is free; and the root is no root name,
unless nothing is made there.

The names are tried in order, and `fs.lookup` is asked for each; a lookup that
fails ends the call before anything is made, and is no harm. For a root that is
a root name the last clause asks for such a failure, or that `frames.csv` cannot
be opened. Otherwise files are made which no child of the root holds. -/
theorem confined_iff (fs : FileSystem) (config : SessionConfig) (header : DataFramePayloadHeader)
    (now : LocalTime) (active : Bool) :
    Confined fs config header now active ↔
      active = true ∨ ∃ k ≤ 2147483646,
        (∀ j < k, fs.lookup (config.tried header now j) = some true)
          ∧ fs.lookup (config.tried header now k) ≠ some true
          ∧ (IsRootName (ofNative config.root) →
              fs.lookup (config.tried header now k) = none
                ∨ fs.writes (append (config.tried header now k) (ascii "frames.csv"))
                  = false) := by
  cases active with
  | true =>
    exact iff_of_true
      { ends := nofun, child := nofun, within := nofun, opens := nofun } (.inl rfl)
  | false =>
    constructor
    · intro h
      refine .inr ?_
      obtain ⟨k, hk, hbefore, hfree⟩ | hall :=
        exists_first fs (ofNative config.root) (config.baseName header now) 2147483646
      · refine ⟨k, hk, hbefore, hfree, fun hroot => ?_⟩
        cases hlookup : fs.lookup (config.tried header now k) with
        | none => exact .inl rfl
        | some present =>
          obtain rfl : present = false := by
            rw [← SessionConfig.tried, hlookup] at hfree
            simpa using hfree
          refine .inr (Bool.not_eq_true _ ▸ fun hwrites => ?_)
          exact not_confined_of_isRootName hk hbefore hlookup hwrites hroot h
      · refine absurd ?_ h.ends
        rw [ensure_of_not_active, searchDir_of_all hall]
    · rintro (hactive | ⟨k, hk, hbefore, hfree, hroot⟩)
      · exact absurd hactive nofun
      · exact confined_of_found hk hbefore hfree hroot

/-- A root that begins with two separators: no directory is made, and the files
are siblings of the root. -/
theorem not_confined_rootName :
    ¬ Confined ⟨fun _ => some false, fun _ => true, fun _ => true⟩
        { saveProcessedOutputDir := ascii "//data" }
        { frameType := copyCstr kNameLen (ascii "lr-qnative"), frameId := 1 }
        ⟨2024, 5, 6, 7, 8, 9⟩ false :=
  not_confined_of_isRootName (Nat.zero_le _) (fun _ h => absurd h (Nat.not_lt_zero _)) rfl rfl
    (by decide)

/-! ## Sessions in a row

A session looks for a name of which there is nothing, and the directories of the
sessions before it are there. Nothing more is needed for the directories to
differ, and neither the clock nor the frames have a part in it. -/

/-- A call, and what the file system is at it. -/
structure SessionAttempt where
  /-- The file system as it is then. -/
  fs : FileSystem
  /-- The configuration. -/
  config : SessionConfig
  /-- The header of the first frame. -/
  header : DataFramePayloadHeader
  /-- The time. -/
  now : LocalTime

/-- **The directories of the sessions so far**; a session is closed before the
next is opened. -/
def sessions : Machine (List Bytes) SessionAttempt := fun dirs a =>
  some (dirs ++ (ensureProcessedSaveSession a.fs a.config a.header a.now false).made.head?.toList)

/-- The root is no root name, so that a session has a directory; and the
directories that were made are there. -/
def Kept (dirs : List Bytes) (a : SessionAttempt) : Prop :=
  ¬ IsRootName (ofNative a.config.root) ∧ ∀ dir ∈ dirs, a.fs.lookup dir = some true

/-- The directory that is made first was free. -/
theorem lookup_of_mem_head {dir : Bytes} (hroot : ¬ IsRootName (ofNative config.root))
    (h : dir ∈ (ensureProcessedSaveSession fs config header now false).made.head?) :
    fs.lookup dir = some false := by
  obtain ⟨k, hk, hbefore, hfree⟩ | hall :=
    exists_first fs (ofNative config.root) (config.baseName header now) 2147483646
  · have hconfined : Confined fs config header now false :=
      confined_of_found hk hbefore hfree fun h => absurd h hroot
    exact (hconfined.child dir h).1
  · rw [ensure_of_not_active, searchDir_of_all hall] at h
    exact absurd h nofun

/-- **No two sessions have one directory**, whatever their names are made of. -/
theorem nodup_sessions {dirs dirs' : List Bytes} {attempts : List SessionAttempt}
    (hrun : Machine.Run sessions Kept dirs attempts dirs') (h : dirs.Nodup) : dirs'.Nodup := by
  refine hrun.invariant (I := List.Nodup) (fun before a after hbefore hkept hstep => ?_) h
  obtain rfl := Option.some.inj hstep
  cases hmade : (ensureProcessedSaveSession a.fs a.config a.header a.now false).made.head? with
  | none => simpa using hbefore
  | some dir =>
    have hfree := lookup_of_mem_head hkept.1 (Option.mem_def.mpr hmade)
    refine List.nodup_append.mpr ⟨hbefore, List.nodup_singleton dir, fun d hd e he => ?_⟩
    rintro rfl
    have hdir : d = dir := List.mem_singleton.mp he
    rw [hdir] at hd
    exact absurd ((hkept.2 dir hd).symm.trans hfree) nofun
