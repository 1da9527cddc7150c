import TofNet.DirectConfig
import TofNet.ModeInfo
import TofNet.Session

/-!
# Dealias data

Each depth mode has its own intrinsics and dealias parameters. The collector
reads them from the ADSD3500 by mode id (`export_dealias_data`) and keeps
them in files named after the frame type; the viewer stores what it receives
in the slot of a mode id (`handleDealiasData`). Only a frame type crosses the
wire, so the two machines each turn it into a mode id: the collector through
the `ModeInfo` table in use, the viewer through `convertModeName`.

Neither machine checks the other's mode id, and there is nothing in the message
to check it by. Besides, the collector may answer from a file, which an earlier
run has left, perhaps with another table. So the model has the files, the table,
the slots, and a history of what was read from the camera, with the mode that it
was read for.
-/

/-! ## The viewer's mode names

`convertModeName` knows seven names. If a frame type is none of them it takes
the first that occurs in it, so it has an answer for many frame types that no
table lists, and 0 for the others. -/

/-- `kAdsd3500ModeTable`. -/
def kAdsd3500ModeTable : List (UInt8 × Bytes) := [
  (0, ascii "sr-native"),
  (1, ascii "lr-native"),
  (2, ascii "sr-qnative"),
  (3, ascii "lr-qnative"),
  (4, ascii "pcm-native"),
  (5, ascii "lr-mixed"),
  (6, ascii "sr-mixed")]

/-- `ADINetworkToFStream::convertModeName`: the entry with that name, or else
the first one whose name occurs in it. -/
def convertModeName (frameType : Bytes) : UInt8 :=
  let ft := trim frameType
  if ft = [] then 0
  else
    match kAdsd3500ModeTable.find? (fun entry => ft = entry.2) with
    | some entry => entry.1
    | none =>
      match kAdsd3500ModeTable.find? (fun entry => contains entry.2 ft) with
      | some entry => entry.1
      | none => 0

/-- The frame types of the ADSD3500 modes. -/
def modeNames : List Bytes := kAdsd3500ModeTable.map Prod.snd

/-! ## The viewer's slots

The data of a message is cut to the size of the structure, or filled up with
zeros; a message that is shorter than its header says is refused, and the slot
stays as it is. The handler releases the context of TOFI besides, which is not
here but in `TofiCache`. -/

/-- `sizeof(CameraIntrinsics)`. -/
def cameraIntrinsicsSize : ℕ := 56

/-- `sizeof(TofiXYZDealiasData)`. -/
def tofiXYZDealiasDataSize : ℕ := 88

/-- `m_xyzDealiasData`, by mode id; `none` is a slot that is still zeroed. -/
abbrev DealiasSlots := UInt8 → Option Bytes

/-- `ADINetworkToFStream::handleDealiasData`, without its `releaseTofi`. -/
def handleDealiasData (message : Message) (slots : DealiasSlots) : Except String DealiasSlots :=
  if message.payload.length < dealiasDataPayloadSize then
    .error "Malformed DealiasData message: header missing"
  else
    let header := DealiasDataPayload.decode message.payload
    let data := message.payload.drop dealiasDataPayloadSize
    if header.dataBytes = 0 ∨ data.length < header.dataBytes.toNat then
      .error "Malformed DealiasData message: payload size mismatch"
    else
      let frameType := cstrToString header.frameType
      if frameType = [] then .error "Malformed DealiasData message: empty frame_type"
      else
        let dealias := (data.take (min header.dataBytes.toNat tofiXYZDealiasDataSize)).takeD
          tofiXYZDealiasDataSize 0
        .ok (Function.update slots (convertModeName frameType) (some dealias))

/-! ## The collector's export

For each frame type the export tries the cache first, then the camera. A payload
command that fails is a warning, and the frame type is then left out; data that
was read is written to the cache, if it can be. -/

/-- The characters a cache file's name keeps. -/
def safeChar (c : UInt8) : Bool := isAlnum c || c = 45 || c = 95

/-- The frame type in the name of its cache file. -/
def safeName (frameType : Bytes) : Bytes := frameType.map (fun c => if safeChar c then c else 95)

/-- The arguments of the collector that `export_dealias_data` reads. -/
structure MetadataArgs where
  /-- The cache is used. -/
  metadataCache : Bool := true
  /-- The ADSD3500 is asked all the same. -/
  refreshMetadata : Bool := false
  /-- Where the cache is. -/
  metadataCacheDir : Bytes := ascii "/home/analog/tof_net_metadata_cache"
  /-- The data of all modes is sent, and not of the current one alone. -/
  sendAllDealias : Bool := false

def metadataCachePath (args : MetadataArgs) (filename : Bytes) : Bytes :=
  if args.metadataCache = false ∨ args.metadataCacheDir = [] then []
  else joinPath args.metadataCacheDir filename

def dealiasCachePath (args : MetadataArgs) (frameType : Bytes) : Bytes :=
  metadataCachePath args (ascii "dealias_" ++ safeName frameType ++ ascii ".bin")


/-- The cached data the export would use: a file that is there and is not
empty, with the cache on and no refresh asked for. -/
def cachedDealias (args : MetadataArgs) (files : Files) (ft : Bytes) : Option Bytes :=
  let cachePath := dealiasCachePath args ft
  if args.metadataCache = true ∧ args.refreshMetadata = false ∧ cachePath ≠ [] then
    (files cachePath).filter (fun cached => cached ≠ [])
  else none

/-- **What the machine answers while one frame type is exported**: the two
payload commands of the ADSD3500, given the mode in their first byte, and
whether the cache file can be written. -/
structure ExportAnswers where
  /-- The first of the two commands. -/
  intrinsics : UInt8 → Option (CharArray 56)
  /-- The second. -/
  dealiasParams : UInt8 → Option (CharArray 32)
  /-- The cache file can be written. -/
  writes : Bool

/-- The state of the loop over the frame types. The last field is a history:
the data read from the ADSD3500 so far, with the mode it was read for. -/
structure Exporting where
  /-- The files as they are by now. -/
  files : Files
  /-- The answers so far. -/
  reads : List (UInt8 × Bytes)
  /-- The frame types that have had their turn. -/
  seen : List Bytes := []
  /-- What will be sent. -/
  entries : List DealiasEntry := []

/-- The body of that loop. -/
def exportOne (args : MetadataArgs) (table : ModeTable) (answers : ExportAnswers)
    (s : Exporting) (ft : Bytes) : Exporting :=
  if ft = [] ∨ ft ∈ s.seen then s
  else
    let s : Exporting := { s with seen := ft :: s.seen }
    let mode := (table.getModeInfo ft).mode
    match cachedDealias args s.files ft with
    | some cached => { s with entries := s.entries ++ [⟨ft, cached⟩] }
    | none =>
      match answers.intrinsics mode, answers.dealiasParams mode with
      | some intrinsics, some dealiasParams =>
        let dealiasStruct := dealiasParams.toList ++ intrinsics.toList
        let cachePath := dealiasCachePath args ft
        { s with
          files := if args.metadataCache = true ∧ cachePath ≠ [] ∧ answers.writes = true then
              Function.update s.files cachePath (some dealiasStruct)
            else s.files
          reads := (mode, dealiasStruct) :: s.reads
          entries := s.entries ++ [⟨ft, dealiasStruct⟩] }
      | _, _ => s

/-- **The state of the camera that `export_dealias_data` reads.** -/
structure ExportSource where
  /-- `sensor_` and `camera_` are there. -/
  sensor : Bool := true
  camera : Bool := false
  useDirectSensor : Bool := true
  sensorName : Bytes := ascii "adsd3500"
  /-- `mode_name_`. -/
  modeName : Bytes
  /-- The names in `available_sensor_frame_types_`. -/
  sensorFrameTypes : List Bytes := []
  /-- `camera_->getAvailableFrameTypes`, which may fail. -/
  cameraFrameTypes : Option (List Bytes) := none

/-- `available_frame_type_names`. -/
def ExportSource.availableFrameTypeNames (src : ExportSource) : List Bytes :=
  if src.useDirectSensor = true ∨ src.sensorFrameTypes ≠ [] then src.sensorFrameTypes else []

/-- What `export_dealias_data` does before its loop: the frame types it goes
through, or the text of what it throws. -/
def exportFrameTypes (args : MetadataArgs) (src : ExportSource) (requested : List Bytes) :
    Except String (List Bytes) :=
  if src.sensor = false ∨ (src.useDirectSensor = false ∧ src.camera = false) then
    .error "camera/sensor not initialized"
  else if src.sensorName ≠ ascii "adsd3500" then .ok []
  else if requested = [] then
    if args.sendAllDealias = true then
      if src.useDirectSensor = true then .ok src.availableFrameTypeNames
      else
        match src.cameraFrameTypes with
        | some (ft :: fts) => .ok (ft :: fts)
        | _ => .error "getAvailableFrameTypes failed"
    else .ok [src.modeName]
  else if src.useDirectSensor = true then .ok requested
  else
    match src.cameraFrameTypes with
    | some (_ :: _) => .ok requested
    | _ => .error "getAvailableFrameTypes failed"

/-- `CameraRawSource::export_dealias_data`. A frame type is exported at most
once in a call, so what the machine answers is given by frame type. -/
def exportDealiasData (args : MetadataArgs) (src : ExportSource) (table : ModeTable)
    (answers : Bytes → ExportAnswers) (requested : List Bytes) (s : Exporting) :
    Except String Exporting :=
  (exportFrameTypes args src requested).map
    (List.foldl (fun s ft => exportOne args table (answers ft) s ft) s)

/-- The messages `send_dealias_entries` makes of the entries. -/
def dealiasMessages (entries : List DealiasEntry) : List Message :=
  (entries.filter (fun entry => entry.frameType ≠ [] ∧ entry.data ≠ [])).map dealiasMessage

/-- The DealiasData message an act of the session sends. -/
def Act.sentDealias : Act → Option Message
  | .send m => if m.type = .dealiasData then some m else none
  | _ => none

/-- **They are the DealiasData messages of the session's script.** -/
theorem sentDealias_sendDealiasEntries (entries : List DealiasEntry) :
    (sendDealiasEntries entries).filterMap Act.sentDealias = dealiasMessages entries := by
  have hone : ∀ entry : DealiasEntry,
      List.filterMap Act.sentDealias
          (if entry.frameType = [] ∨ entry.data = [] then []
           else
            [.send (dealiasMessage entry),
              .send (statusMessage .ok (ascii "sent dealias data for " ++ entry.frameType
                ++ ascii " (" ++ decimal entry.data.length ++ ascii " bytes)")),
              .markSent entry.frameType])
        = if entry.frameType ≠ [] ∧ entry.data ≠ [] then [dealiasMessage entry] else [] := by
    intro entry
    by_cases h : entry.frameType = [] ∨ entry.data = []
    · rw [if_pos h, if_neg (fun hne => h.elim hne.1 hne.2)]
      rfl
    · rw [if_neg h, if_pos (not_or.mp h)]
      rfl
  induction entries with
  | nil => rfl
  | cons entry entries ih =>
    rw [sendDealiasEntries, List.flatMap_cons, List.filterMap_append, hone, dealiasMessages,
      List.filter_cons]
    rw [sendDealiasEntries] at ih
    rw [ih, dealiasMessages]
    by_cases h : entry.frameType ≠ [] ∧ entry.data ≠ []
    · rw [if_pos h, if_pos (decide_eq_true h)]
      rfl
    · rw [if_neg h, if_neg (by rwa [decide_eq_true_eq])]
      rfl
