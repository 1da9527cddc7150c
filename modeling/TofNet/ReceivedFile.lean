import TofNet.OutputStream
import TofNet.TofiCache

/-!
# Receiving a calibration file

`handleCcbFile` and `handleCfgFile` write what they receive to a temporary
file, which then takes the place of the file itself. The only test of the
stream stands right behind the write, and the stream is closed by its
destructor: what it still holds then may be lost without a word, and a file
that is cut off replaces a good one, with the configuration pointing to it.

`receivedAtomically_iff` shows that this is the only way for the receipt not
to be atomic. The collector's `write_whole_file` is written in the same way,
and `writeWholeFile_whole_iff` says the same of it.

A stream holds bytes back (`OutputStream`), and how many is not for the program
to say. So there is an answer for each of the calls, and one for how much the
closing moves. Whether a file is whole is then a question about the last answer
alone, wherever the others let the program get that far.
-/

/-! ## Writing a whole file

The temporary file is opened, written, tested, closed and renamed, in this
order. Each of the calls but the closing has a result that is looked at. -/

/-- How making the directory of a file, and then the calls that write it, come
out; `mkdirFails` is the text of the exception, where there is one, and
`flushed` what the closing moves. -/
structure SaveAnswers where
  /-- Making the directory has thrown this. -/
  mkdirFails : Option Bytes := none
  /-- The temporary file can be opened. -/
  opens : Bool := true
  /-- How the write goes. -/
  write : WriteAnswer
  /-- What the closing moves to the disk. -/
  flushed : ℕ
  /-- The file can be renamed. -/
  renames : Bool := true
  deriving DecidableEq

namespace SaveAnswers

variable (a : SaveAnswers) (data : Bytes)

/-- The stream behind the write. -/
def written : OutputStream UInt8 := ({} : OutputStream UInt8).write data a.write

/-- **The calls**, from the opening of the temporary file on. -/
def outcome : SaveAnswer :=
  if a.opens = false then .notCreated
  else if (a.written data).good = false then .notWritten ((a.written data).close a.flushed).disk
  else if a.renames = false then .notRenamed ((a.written data).close a.flushed).disk
  else .saved ((a.written data).close a.flushed).disk

/-- The temporary file takes the place of the file. -/
def replaces : Prop := a.mkdirFails = none ∧ a.opens = true ∧ a.write.ok = true ∧ a.renames = true

instance : Decidable a.replaces := inferInstanceAs (Decidable (_ ∧ _ ∧ _ ∧ _))

@[simp] theorem good_written : (a.written data).good = a.write.ok :=
  OutputStream.good_write _ data a.write rfl

/-- What is on the disk and what is held behind the write. -/
theorem written_append_held : (a.written data).disk ++ (a.written data).held = data :=
  OutputStream.disk_append_held {} data a.write rfl

/-- **A file that takes the place of another is whole exactly if the closing
lost nothing.** -/
theorem flushed_eq_iff :
    ((a.written data).close a.flushed).disk = data ↔ (a.written data).loses a.flushed = false := by
  rw [← OutputStream.disk_close_eq_iff, written_append_held]

variable {a data}

/-- Where every call succeeds, the file is saved, with what the closing
leaves. -/
theorem outcome_of_replaces (h : a.replaces) :
    a.outcome data = .saved ((a.written data).close a.flushed).disk := by
  obtain ⟨-, hopens, hwrite, hrenames⟩ := h
  simp [outcome, hopens, hwrite, hrenames]

/-- Where it does not take its place, the call throws. -/
theorem outcome_of_not_replaces (hdir : a.mkdirFails = none) (h : ¬ a.replaces) (content : Bytes) :
    a.outcome data ≠ .saved content := by
  unfold outcome
  intro heq
  split at heq
  · cases heq
  · next hopens =>
    split at heq
    · cases heq
    · next hgood =>
      split at heq
      · cases heq
      · next hrenames =>
        rw [good_written] at hgood
        exact h ⟨hdir, Bool.eq_true_of_not_eq_false hopens, Bool.eq_true_of_not_eq_false hgood,
          Bool.eq_true_of_not_eq_false hrenames⟩

end SaveAnswers

/-- The temporary file is another file. -/
theorem append_tmp_ne (path : Bytes) : path ++ ascii ".tmp" ≠ path := by
  intro h
  have hlength := congrArg List.length h
  rw [List.length_append] at hlength
  have : (ascii ".tmp").length = 4 := by decide +kernel
  omega

/-! ## The handlers

Both handlers do the same with their own fields, and the texts are those of the
module. That they have a result in common is said once (`receive_eq`), and the
theorem is then about either. -/

variable {κ γ : Type}

/-- The two files that come with a module. -/
inductive ModuleFile
  | ccb
  | cfg
  deriving DecidableEq

/-- The bytes a message announces behind its header. -/
def announced (m : Message) : Bytes :=
  (m.payload.drop ccbFileHeaderSize).take (CcbFilePayloadHeader.decode m.payload).ccbBytes.toNat

namespace ModuleFile

/-- The checks of its handler. -/
def error : ModuleFile → Message → Option Bytes
  | ccb => ViewerTofi.moduleFileError (ascii "CcbFile") (ascii "CCB")
  | cfg => ViewerTofi.moduleFileError (ascii "CfgFile") (ascii "CFG")

/-- Where it is saved. -/
def savePath : ModuleFile → ViewerConfig → Bytes
  | ccb => ViewerTofi.ccbSavePath
  | cfg => ViewerTofi.cfgSavePath

/-- Its path in the configuration. -/
def path : ModuleFile → ViewerConfig → Bytes
  | ccb => ViewerConfig.ccbFile
  | cfg => ViewerConfig.cfgFile

/-- **`handleCcbFile` and `handleCfgFile`**, where the calls come out like that. -/
def receive (f : ModuleFile) (m : Message) (a : SaveAnswers) (s : ViewerTofi κ γ) :
    ViewerTofi κ γ × Option Bytes :=
  match f.error m, a.mkdirFails with
  | none, some text => (s, some text)
  | _, _ =>
    match f with
    | ccb => s.handleCcbFile m (a.outcome (announced m))
    | cfg => s.handleCfgFile m (a.outcome (announced m))

/-- **The receipt is atomic.** -/
structure Atomic (f : ModuleFile) (m : Message) (s : ViewerTofi κ γ)
    (r : ViewerTofi κ γ × Option Bytes) : Prop where
  /-- The file is wholly old or wholly new. -/
  whole : r.1.files (f.savePath s.config) = s.files (f.savePath s.config)
    ∨ r.1.files (f.savePath s.config) = some (announced m)
  /-- Where the handler throws, nothing has changed. -/
  thrown : r.2 ≠ none → r.1.files (f.savePath s.config) = s.files (f.savePath s.config)
    ∧ r.1.config.ccbFile = s.config.ccbFile ∧ r.1.config.cfgFile = s.config.cfgFile
    ∧ r.1.tofi = s.tofi
  /-- Where it returns, the file is in force. -/
  returned : r.2 = none → r.1.files (f.savePath s.config) = some (announced m)
    ∧ f.path r.1.config = f.savePath s.config ∧ r.1.tofi = {}

/-- **Where it comes to the renaming and that succeeds, the stream was closed
without losing anything.** -/
def Flushed (f : ModuleFile) (m : Message) (a : SaveAnswers) : Prop :=
  f.error m = none → a.replaces → (a.written (announced m)).loses a.flushed = false

instance (f : ModuleFile) (m : Message) (a : SaveAnswers) : Decidable (f.Flushed m a) :=
  inferInstanceAs (Decidable (_ → _ → _))

variable {f : ModuleFile} {m : Message} {a : SaveAnswers} {s : ViewerTofi κ γ}

/-- A handler that throws, and has not touched the file. -/
theorem Atomic.of_thrown {s' : ViewerTofi κ γ} (text : Bytes)
    (hfile : s'.files (f.savePath s.config) = s.files (f.savePath s.config))
    (hconfig : s'.config = s.config) (htofi : s'.tofi = s.tofi) :
    f.Atomic m s (s', some text) where
  whole := .inl hfile
  thrown _ := by
    dsimp only
    exact ⟨hfile, by rw [hconfig], by rw [hconfig], htofi⟩
  returned h := absurd h (Option.some_ne_none text)

/-- **What the two handlers have in common.** -/
theorem receive_eq (f : ModuleFile) (m : Message) (a : SaveAnswers) (s : ViewerTofi κ γ)
    (h : f.error m ≠ none ∨ a.mkdirFails = none) :
    ∃ (name what : Bytes) (setPath : ViewerConfig → ViewerConfig),
      (∀ c, f.path (setPath c) = f.savePath s.config)
      ∧ ViewerTofi.moduleFileError name what m = f.error m
      ∧ f.receive m a s
        = s.handleModuleFile name what (f.savePath s.config) setPath m
          (a.outcome (announced m)) := by
  cases f with
  | ccb =>
    refine ⟨ascii "CcbFile", ascii "CCB",
      fun c => { c with ccbFile := ViewerTofi.ccbSavePath s.config }, fun _ => rfl, rfl, ?_⟩
    unfold receive
    split
    · next herror hdir => simp [herror, hdir] at h
    · rfl
  | cfg =>
    refine ⟨ascii "CfgFile", ascii "CFG",
      fun c => { c with cfgFile := ViewerTofi.cfgSavePath s.config }, fun _ => rfl, rfl, ?_⟩
    unfold receive
    split
    · next herror hdir => simp [herror, hdir] at h
    · rfl

section Handler

variable {name what savePath : Bytes} {setPath : ViewerConfig → ViewerConfig} {answer : SaveAnswer}

/-- The handler, where the file is saved. -/
theorem handleModuleFile_saved (h : ViewerTofi.moduleFileError name what m = none)
    (data : Bytes) :
    s.handleModuleFile name what savePath setPath m (.saved data)
      = ({ s with
          files := Function.update
            (Function.update s.files (savePath ++ ascii ".tmp") none) savePath (some data)
          config := setPath s.config
          tofi := {} }, none) := by
  rw [ViewerTofi.handleModuleFile, h]
  rfl

/-- The handler, where it is not. -/
theorem handleModuleFile_thrown (savePath : Bytes) (setPath : ViewerConfig → ViewerConfig)
    (h : ViewerTofi.moduleFileError name what m ≠ none ∨ ∀ data, answer ≠ .saved data) :
    ∃ (s' : ViewerTofi κ γ) (text : Bytes),
      s.handleModuleFile name what savePath setPath m answer = (s', some text)
      ∧ s'.files savePath = s.files savePath ∧ s'.config = s.config ∧ s'.tofi = s.tofi := by
  unfold ViewerTofi.handleModuleFile
  cases herror : ViewerTofi.moduleFileError name what m with
  | some text => exact ⟨s, text, rfl, rfl, rfl, rfl⟩
  | none =>
    have hne := (append_tmp_ne savePath).symm
    cases answer with
    | notCreated => exact ⟨_, _, rfl, rfl, rfl, rfl⟩
    | notWritten data =>
      exact ⟨_, _, rfl, Function.update_of_ne hne _ _, rfl, rfl⟩
    | notRenamed data =>
      exact ⟨_, _, rfl, Function.update_of_ne hne _ _, rfl, rfl⟩
    | saved data =>
      rcases h with h | h
      · exact absurd herror h
      · exact absurd rfl (h data)

end Handler

/-- **A receipt is atomic exactly if nothing is lost in the closing of a file
that takes the place of the saved one.**

The file is written under a temporary name and renamed, and each of the calls on
the way is tested – but for the closing, which is that of a destructor. A call
that fails leaves the saved file alone, whichever it is. What the test behind
the write has not seen is what the stream still holds in its buffer, and the
renaming comes behind the closing. -/
theorem receivedAtomically_iff (f : ModuleFile) (m : Message) (a : SaveAnswers)
    (s : ViewerTofi κ γ) : f.Atomic m s (f.receive m a s) ↔ f.Flushed m a := by
  by_cases hdir : f.error m = none ∧ a.mkdirFails ≠ none
  · -- the directory is not made
    obtain ⟨herror, hmkdir⟩ := hdir
    obtain ⟨text, htext⟩ := Option.ne_none_iff_exists'.mp hmkdir
    have hreceive : f.receive m a s = (s, some text) := by
      unfold receive
      rw [herror, htext]
    rw [hreceive]
    exact iff_of_true (Atomic.of_thrown text rfl rfl rfl)
      (fun _ h => absurd h.1 hmkdir)
  · rw [not_and_or, not_not] at hdir
    obtain ⟨name, what, setPath, hpath, hchecks, hreceive⟩ := f.receive_eq m a s hdir
    rw [hreceive]
    by_cases hsaved : f.error m = none ∧ a.replaces
    · -- the file is replaced
      obtain ⟨herror, hreplaces⟩ := hsaved
      rw [SaveAnswers.outcome_of_replaces hreplaces, handleModuleFile_saved (hchecks.trans herror)]
      have hfile : ∀ files : Files, ∀ data : Bytes,
          Function.update files (f.savePath s.config) (some data) (f.savePath s.config)
            = some data := fun _ _ => Function.update_self _ _ _
      constructor
      · intro h _ _
        have hcontent := (h.returned rfl).1
        dsimp only at hcontent
        rw [hfile] at hcontent
        exact (a.flushed_eq_iff _).mp (Option.some.inj hcontent)
      · intro h
        have hcontent := (a.flushed_eq_iff (announced m)).mpr (h herror hreplaces)
        have hnew : (Function.update (Function.update s.files
            (f.savePath s.config ++ ascii ".tmp") none) (f.savePath s.config)
            (some ((a.written (announced m)).close a.flushed).disk)) (f.savePath s.config)
              = some (announced m) := by
          rw [hfile, hcontent]
        exact ⟨.inr hnew, fun h => absurd rfl h, fun _ => ⟨hnew, hpath _, rfl⟩⟩
    · -- the handler throws
      have hthrown : ViewerTofi.moduleFileError name what m ≠ none
          ∨ ∀ data, a.outcome (announced m) ≠ .saved data := by
        rw [hchecks]
        by_cases herror : f.error m = none
        · have hmkdir := hdir.resolve_left (fun h => h herror)
          exact .inr (SaveAnswers.outcome_of_not_replaces hmkdir
            (fun h => hsaved ⟨herror, h⟩))
        · exact .inl herror
      obtain ⟨s', text, heq, hfile, hconfig, htofi⟩ :=
        handleModuleFile_thrown (s := s) (f.savePath s.config) setPath hthrown
      rw [heq]
      exact iff_of_true (Atomic.of_thrown text hfile hconfig htofi)
        (fun herror h => absurd ⟨herror, h⟩ hsaved)

/-- A CCB of one byte. -/
def oneByteCcb : Message where
  type := .ccbFile
  payload := ({ ccbBytes := 1 } : CcbFilePayloadHeader).encode ++ [7]

/-- **A byte is held in the stream, and the disk is full when that is closed**:
an empty file takes the place of the saved one, and the handler returns as if
all were well. -/
theorem not_receivedAtomically_full_disk :
    ¬ ∀ (f : ModuleFile) (m : Message) (a : SaveAnswers) (s : ViewerTofi Unit Unit),
      f.Atomic m s (f.receive m a s) := by
  intro h
  have hatomic := h .ccb oneByteCcb { write := { moved := 0, ok := true }, flushed := 0 }
    { config := {}, files := fun _ => none }
  exact absurd (hatomic.returned (by decide +kernel)).1 (by decide +kernel)

end ModuleFile

/-! ## The collector's files

`write_whole_file` makes the same calls, and throws in the same places with
texts of its own. So the lemmas on the calls apply to it as they are. -/

/-- **`write_whole_file`.** -/
def writeWholeFile (path data : Bytes) (a : SaveAnswers) (files : Files) : Files × Option Bytes :=
  let tmpPath := path ++ ascii ".tmp"
  match a.mkdirFails with
  | some text => (files, some text)
  | none =>
    match a.outcome data with
    | .notCreated => (files, some (ascii "Cannot create file: " ++ tmpPath))
    | .notWritten content => (Function.update files tmpPath (some content),
        some (ascii "Failed to write file: " ++ tmpPath))
    | .notRenamed content => (Function.update files tmpPath (some content),
        some (ascii "rename failed for " ++ path))
    | .saved content =>
      (Function.update (Function.update files tmpPath none) path (some content), none)

/-- **A file it returns from writing is whole exactly if the closing lost
nothing.** -/
theorem writeWholeFile_whole_iff {path data : Bytes} {a : SaveAnswers} {files : Files}
    (h : (writeWholeFile path data a files).2 = none) :
    (writeWholeFile path data a files).1 path = some data
      ↔ (a.written data).loses a.flushed = false := by
  have hreplaces : a.replaces := by
    by_contra hnot
    unfold writeWholeFile at h
    split at h
    · cases h
    · next hdir =>
      have hsaved : ∀ content, a.outcome data ≠ .saved content :=
        SaveAnswers.outcome_of_not_replaces hdir hnot
      split at h
      · cases h
      · cases h
      · cases h
      · next content hcontent => exact hsaved content hcontent
  rw [← a.flushed_eq_iff data]
  unfold writeWholeFile
  rw [hreplaces.1, SaveAnswers.outcome_of_replaces hreplaces]
  dsimp only
  rw [Function.update_self, Option.some_inj]
