import TofNet.SaveSession
import Mathlib.Data.Nat.ModEq

/-!
# The bookkeeping of a session

Between two calls of `closeProcessedFrameSaveSession` the rows of `frames.csv`
are numbered from 0, are at most as many as configured, one for a frame of the
stride at most, and name files that are whole; and a failure is the end of the
saving (`Book`).

The last two depend on the failures being seen. `saveProcessedFrame…` sees
what its tests see, and misses a file whose last bytes are lost in closing it,
and a flush of `frames.csv` that fails: the next frame is saved as if nothing
had been. `Checked` is the condition that it misses nothing, and `book_of_run`
is the bookkeeping of every run under it.

What is given to the stream (`Given`) and what is in the file are kept apart. A
row may be given and reach the disk in part, or with the closing only, or
never, and the rows of the file are then the first of those given. The last
flush of a session may fail, as no frame is saved behind it; the closing
completes its row, unless it writes again what is on the disk already
(`OutputStream.Fresh`).

The books are kept in two places, the log of what the program did and the file
of the rows, and both are in `Book`. Most of it is a matter of the log (`Given`)
and does not look at the stream. The file is brought in by one fact: it is a
front of the lines that were given. A front of well numbered rows is well
numbered, so that the rest follows for the file, however much of it there is.
-/

/-! ## The frames of a run

A step is a DataFrame with the answers of the file system to it, and what the
decoder makes of it. A frame that is dropped or refused saves nothing. -/

/-- A DataFrame, and what happens while it is handled. -/
structure FrameLabel where
  /-- The message. -/
  message : Message
  /-- When it is handled. -/
  now : ℕ
  /-- What TOFI makes of it. -/
  compute : Option TofiOutput
  /-- The answers of the file system. -/
  faults : SaveFaults

/-- `m_lastTofiFrameTime`, and the session. -/
structure SavingFrames where
  /-- When TOFI has computed last. -/
  lastTofiFrameTime : Option ℕ := none
  /-- The session. -/
  save : SaveState := {}

namespace SavingFrames

/-- The decoded frame of a message, if it is neither dropped nor refused. -/
def decoded (z : Zstd) (config : SaveConfig) (s : SavingFrames) (a : FrameLabel) :
    Option DecodedFrame :=
  match (handleDataFrame z (saveAnyTofiPlaneEnabled config) a.now s.lastTofiFrameTime a.message).2
  with
  | .ok (.frame header rawBytes) => some {
      header := header
      compressedBytes := ((compressedPart a.message.payload).toOption.getD []).length
      rawBytes := rawBytes
      compute := a.compute }
  | _ => none

/-- One DataFrame. -/
def step (z : Zstd) (config : SaveConfig) : Machine SavingFrames FrameLabel := fun s a =>
  some {
    lastTofiFrameTime :=
      (handleDataFrame z (saveAnyTofiPlaneEnabled config) a.now s.lastTofiFrameTime a.message).1
    save :=
      match s.decoded z config a with
      | some f => s.save.saveDataFrame config f a.faults
      | none => s.save }

end SavingFrames

/-! ## The books

The clauses of a book follow what the viewer promises its user: the rows are
numbered without a gap, they are no more than were asked for, they keep the
stride, the files they name are there, and after a failure nothing is written
any more. -/

namespace SaveEvent

/-- The row that is given to the stream. -/
def row? : SaveEvent → Option SaveRow
  | row _ r _ => some r
  | _ => none

/-- A failure of the file system. -/
def failed : SaveEvent → Bool
  | notCreated => true
  | cameraJson _ _ write => write ≠ .written
  | planeFile _ _ _ write => write ≠ .written
  | row _ _ answer => !answer.ok
  | lateRow _ => false

/-- The writing of a row, or of a plane's file. -/
def writes : SaveEvent → Bool
  | planeFile _ _ _ _ => true
  | row _ _ _ => true
  | lateRow _ => true
  | _ => false

/-- The event gives no row. -/
def IsFile (e : SaveEvent) : Prop := ∀ dir r answer, e ≠ .row dir r answer

end SaveEvent

/-- The rows given to the stream. -/
def rows (log : List SaveEvent) : List SaveRow := log.filterMap SaveEvent.row?

/-- The stride that counts. -/
def SaveConfig.stride (config : SaveConfig) : ℕ := config.withDefaults.saveProcessedStride.toNat

/-- **What is given to the stream**, and the files before it. -/
structure Given (config : SaveConfig) (log : List SaveEvent) : Prop where
  /-- The rows are numbered 0, 1, 2, and so on. -/
  index : (rows log).map SaveRow.saveIndex = List.range (rows log).length
  /-- There are no more than are wanted. -/
  max : config.saveProcessedMaxFrames ≠ 0 →
    (rows log).length ≤ config.saveProcessedMaxFrames.toNat
  /-- A row is of a frame of the stride. -/
  stride : ∀ r ∈ rows log, r.frameId = 0 ∨ r.frameId.toNat ≡ 1 [MOD config.stride]
  /-- A file named in a row was written wholly before. -/
  files : ∀ before dir r answer after, log = before ++ .row dir r answer :: after →
    ∀ file ∈ r.files, ∃ data, .planeFile dir file.2 data .written ∈ before
  /-- Behind a failure, nothing is written. -/
  failure : log.Pairwise (fun e e' => e.failed = true → e'.writes = false)

/-- **The books are kept**, in a log and in the file of the rows. -/
structure Book (config : SaveConfig) (log : List SaveEvent) (file : List CsvByte) : Prop where
  /-- The file consists of lines, up to where it ends: that of the names, and
  those of the rows given. -/
  lines : ∃ ls : List CsvLine, file <+: ls.flatMap CsvLine.bytes
    ∧ ls.filterMap CsvLine.row = rows log
  /-- The rows are the first of those given, … -/
  given : csvRows file <+: rows log
  /-- … and numbered 0, 1, 2, … -/
  index : (csvRows file).map SaveRow.saveIndex = List.range (csvRows file).length
  /-- There are no more than are wanted, … -/
  max : config.saveProcessedMaxFrames ≠ 0 →
    (csvRows file).length ≤ config.saveProcessedMaxFrames.toNat
  /-- … and each is of a frame of the stride. -/
  stride : ∀ r ∈ csvRows file, r.frameId = 0 ∨ r.frameId.toNat ≡ 1 [MOD config.stride]
  /-- A file named in a row was written wholly before the row was given. -/
  files : ∀ before dir r answer after, log = before ++ .row dir r answer :: after →
    ∀ file ∈ r.files, ∃ data, .planeFile dir file.2 data .written ∈ before
  /-- Behind a failure, nothing is written. -/
  failure : log.Pairwise (fun e e' => e.failed = true → e'.writes = false)

variable {config : SaveConfig} {log events : List SaveEvent} {dir : Option ℕ} {index : ℕ}
  {a : SaveFaults} {x : Snapshot} {s : SaveState}

/-- The rows of two logs, one behind the other. -/
theorem rows_append (l l' : List SaveEvent) : rows (l ++ l') = rows l ++ rows l' :=
  List.filterMap_append

/-- Files add no row. -/
theorem rows_eq_nil (h : ∀ e ∈ events, e.IsFile) : rows events = [] := by
  unfold rows
  rw [List.filterMap_eq_nil_iff]
  intro e he
  cases e with
  | row dir r answer => exact absurd rfl (h _ he dir r answer)
  | _ => rfl

/-- A row is complete with the last byte of its line. -/
theorem csvRows_bytes (l : CsvLine) : csvRows l.bytes = l.row.toList := by
  obtain ⟨n, hn⟩ := Nat.exists_eq_succ_of_ne_zero (mt List.length_eq_zero_iff.mp l.ne)
  unfold csvRows CsvLine.bytes
  rw [hn, List.range_succ, List.map_append, List.filterMap_append]
  have hbefore : ((List.range n).map (CsvByte.mk l)).filterMap CsvByte.row? = [] := by
    rw [List.filterMap_eq_nil_iff]
    intro b hb
    obtain ⟨i, hi, rfl⟩ := List.mem_map.mp hb
    have hlt := List.mem_range.mp hi
    exact if_neg (by rw [hn]; exact fun h => Nat.ne_of_lt hlt (Nat.succ.inj h))
  have hlast : CsvByte.row? ⟨l, n⟩ = l.row := if_pos hn.symm
  rw [hbefore, List.nil_append, List.map_singleton, List.filterMap_cons, hlast]
  cases l.row <;> rfl

/-- The names are no row. -/
theorem csvRows_names : csvRows CsvLine.names.bytes = [] := by
  rw [csvRows_bytes, CsvLine.names, Option.toList_none]

/-- The rows of lines. -/
theorem csvRows_flatMap (ls : List CsvLine) :
    csvRows (ls.flatMap CsvLine.bytes) = ls.filterMap CsvLine.row := by
  induction ls with
  | nil => rfl
  | cons l ls ih =>
    rw [List.flatMap_cons, csvRows, List.filterMap_append, List.filterMap_cons]
    rw [← csvRows, ← csvRows, ih, csvRows_bytes]
    cases l.row <;> rfl

namespace Given

/-- **A file of lines that are given is booked.** -/
theorem book (h : Given config log) {file : List CsvByte} {ls : List CsvLine}
    (hfile : file <+: ls.flatMap CsvLine.bytes) (hls : ls.filterMap CsvLine.row = rows log) :
    Book config log file := by
  have hgiven : csvRows file <+: rows log := by
    rw [← hls, ← csvRows_flatMap]
    exact hfile.filterMap _
  refine ⟨⟨ls, hfile, hls⟩, hgiven, ?_, fun hne => hgiven.length_le.trans (h.max hne),
    fun r hr => h.stride r (hgiven.subset hr), h.files, h.failure⟩
  rw [List.prefix_iff_eq_take.mp hgiven, List.map_take, h.index, List.take_range,
    List.length_take]

/-- Nothing was given, and nothing has to be kept. -/
theorem nil (config : SaveConfig) : Given config [] where
  index := rfl
  max := fun _ => Nat.zero_le _
  stride := fun _ h => absurd h List.not_mem_nil
  files := fun before _ _ _ _ h => absurd h.symm (by simp)
  failure := List.Pairwise.nil

/-- **Files, written after no failure**, keep the books. -/
theorem append (h : Given config log) (hclean : ∀ e ∈ log, e.failed = false)
    (hfile : ∀ e ∈ events, e.IsFile)
    (hfailure : events.Pairwise (fun e e' => e.failed = true → e'.writes = false)) :
    Given config (log ++ events) := by
  have hrows : rows (log ++ events) = rows log := by
    rw [rows_append, rows_eq_nil hfile, List.append_nil]
  refine ⟨by rw [hrows]; exact h.index, by rw [hrows]; exact h.max, by rw [hrows]; exact h.stride,
    fun before dir r answer after heq => ?_, ?_⟩
  · -- the row is not among the files, so that it is in the log
    rcases List.append_eq_append_iff.mp heq with ⟨l, hbefore, hevents⟩ | ⟨l, hlog, hafter⟩
    · refine absurd rfl (hfile (.row dir r answer) ?_ dir r answer)
      rw [hevents]
      exact List.mem_append_right _ List.mem_cons_self
    · cases l with
      | nil =>
        refine absurd rfl (hfile (.row dir r answer) ?_ dir r answer)
        rw [← List.nil_append events, ← hafter]
        exact List.mem_cons_self
      | cons e l =>
        obtain ⟨rfl, -⟩ := List.cons.inj hafter
        exact h.files before dir r answer l hlog
  · refine List.pairwise_append.mpr ⟨h.failure, hfailure, fun e he e' _ hfailed => ?_⟩
    rw [hclean e he] at hfailed
    cases hfailed

/-- **A row, given after no failure**, keeps the books. -/
theorem snoc (h : Given config log) (hclean : ∀ e ∈ log, e.failed = false)
    {r : SaveRow} {answer : PrintAnswer} (hindex : r.saveIndex = (rows log).length)
    (hmax : config.saveProcessedMaxFrames ≠ 0 →
      (rows log).length < config.saveProcessedMaxFrames.toNat)
    (hstride : r.frameId = 0 ∨ r.frameId.toNat ≡ 1 [MOD config.stride])
    (hfiles : ∀ file ∈ r.files, ∃ data, .planeFile dir file.2 data .written ∈ log) :
    Given config (log ++ [.row dir r answer]) := by
  have hrows : rows (log ++ [.row dir r answer]) = rows log ++ [r] := rows_append _ _
  refine ⟨?_, fun hne => ?_, fun r' hr' => ?_, fun before dir' r' answer' after heq => ?_, ?_⟩
  · rw [hrows, List.map_append, h.index, List.length_append, List.length_singleton,
      List.range_succ, List.map_singleton, hindex]
  · rw [hrows, List.length_append]
    exact hmax hne
  · rw [hrows, List.mem_append] at hr'
    rcases hr' with hr' | hr'
    · exact h.stride r' hr'
    · rw [List.mem_singleton.mp hr']
      exact hstride
  · -- the row is the new one, or one of those before
    rcases List.append_eq_append_iff.mp heq with ⟨l, hbefore, hevents⟩ | ⟨l, hlog, hafter⟩
    · cases l with
      | nil =>
        obtain ⟨heq', -⟩ := List.cons.inj hevents
        cases heq'
        rw [hbefore, List.append_nil]
        exact hfiles
      | cons e l =>
        obtain ⟨-, hnil⟩ := List.cons.inj hevents
        exact absurd hnil.symm (by simp)
    · cases l with
      | nil =>
        obtain ⟨heq', -⟩ := List.cons.inj hafter
        cases heq'
        rw [List.append_nil] at hlog
        rw [← hlog]
        exact hfiles
      | cons e l =>
        obtain ⟨rfl, -⟩ := List.cons.inj hafter
        exact h.files before dir' r' answer' l hlog
  · refine List.pairwise_append.mpr ⟨h.failure, List.pairwise_singleton _ _,
      fun e he e' _ hfailed => ?_⟩
    rw [hclean e he] at hfailed
    cases hfailed

end Given

/-! ## One frame

A frame goes through the planes, the row and the flush, and stops at the first
failure that it sees. What it leaves is in `Keeps`, which has a part for the
viewer without a session, and one for an open session with a good stream. -/

namespace SaveState

/-- The planes of a frame are no rows. -/
theorem writePlanes_isFile (dir : Option ℕ) (index : ℕ) (a : SaveFaults)
    (planes : List (Plane × Bytes)) : ∀ e ∈ (writePlanes dir index a planes).1, e.IsFile := by
  have hevent : ∀ path data write, (SaveEvent.planeFile dir path data write).IsFile :=
    fun _ _ _ _ _ _ => SaveEvent.noConfusion
  induction planes with
  | nil => exact fun e he => absurd he List.not_mem_nil
  | cons plane planes ih =>
    unfold writePlanes
    dsimp only
    split
    · exact List.forall_mem_cons.mpr ⟨hevent _ _ _, ih⟩
    · exact List.forall_mem_singleton.mpr (hevent _ _ _)

/-- **Only the last plane can have failed**, and if nothing is thrown and
nothing is lost in closing, every file is whole. -/
theorem writePlanes_spec (dir : Option ℕ) (index : ℕ) (a : SaveFaults)
    (planes : List (Plane × Bytes)) (hclose : ∀ plane ∈ planes, a.plane plane.1 ≠ .failedAtClose) :
    (writePlanes dir index a planes).1.Pairwise (fun e e' => e.failed = true → e'.writes = false)
      ∧ ((writePlanes dir index a planes).2 = true →
        (∀ e ∈ (writePlanes dir index a planes).1, e.failed = false)
          ∧ ∀ plane ∈ planes, .planeFile dir (planePath plane.1 index) plane.2 .written
            ∈ (writePlanes dir index a planes).1) := by
  induction planes with
  | nil =>
    exact ⟨List.Pairwise.nil, fun _ => ⟨fun e he => absurd he List.not_mem_nil,
      fun plane hplane => absurd hplane List.not_mem_nil⟩⟩
  | cons plane planes ih =>
    obtain ⟨p, data⟩ := plane
    obtain ⟨hp, hrest⟩ := List.forall_mem_cons.mp hclose
    obtain ⟨hfailure, hwhole⟩ := ih hrest
    unfold writePlanes
    cases hwrite : a.plane p with
    | notOpened => exact ⟨List.pairwise_singleton _ _, fun h => Bool.noConfusion h⟩
    | failed => exact ⟨List.pairwise_singleton _ _, fun h => Bool.noConfusion h⟩
    | failedAtClose => exact absurd hwrite hp
    | written =>
      refine ⟨List.pairwise_cons.mpr ⟨fun _ _ hfailed => Bool.noConfusion hfailed, hfailure⟩,
        fun h => ?_⟩
      obtain ⟨hclean, hall⟩ := hwhole h
      exact ⟨List.forall_mem_cons.mpr ⟨rfl, hclean⟩, List.forall_mem_cons.mpr
        ⟨List.mem_cons_self, fun plane hplane => List.mem_cons_of_mem _ (hall plane hplane)⟩⟩

/-- **The stream holds back no row**: the lines of those given are on the disk
or held, and what is held is of no row's end. -/
structure Printed (s : SaveState) : Prop where
  /-- On the disk and in the buffer are the lines of the rows given, one
  behind the other. -/
  lines : ∃ ls : List CsvLine, s.csv.disk ++ s.csv.held = ls.flatMap CsvLine.bytes
    ∧ ls.filterMap CsvLine.row = rows s.log
  /-- The buffer holds the end of no row. -/
  held : csvRows s.csv.held = []

/-- **The books and what is kept agree.** Where no session is open and none
has failed, nothing has been written; where one is open and its stream is good,
nothing has failed, the rows are counted, and the stream holds back none. -/
structure Keeps (config : SaveConfig) (s : SaveState) : Prop where
  /-- What was given is as it should be. -/
  given : Given config s.log
  /-- The file is a front of the lines given. -/
  front : ∃ ls : List CsvLine, s.csv.Front (ls.flatMap CsvLine.bytes)
    ∧ ls.filterMap CsvLine.row = rows s.log
  /-- Without a session and an error there is nothing. -/
  idle : s.active = false → s.disabledAfterError = false →
    s.log = [] ∧ s.savedFrameCount = 0 ∧ s.csv = {}
  /-- A session whose stream is good has had no failure and has counted its
  rows. -/
  clean : s.active = true → s.csv.good = true →
    (∀ e ∈ s.log, e.failed = false) ∧ (rows s.log).length = s.savedFrameCount ∧ s.Printed

/-- The file is booked, … -/
theorem Keeps.book (h : Keeps config s) : Book config s.log s.csv.disk := by
  obtain ⟨ls, hfront, hls⟩ := h.front
  exact h.given.book hfront.disk hls

/-- … and so it is behind the closing, if that writes nothing twice. -/
theorem Keeps.book_close (h : Keeps config s) {n : ℕ} (hfresh : s.csv.Fresh n) :
    Book config s.log (s.close n).csv.disk := by
  obtain ⟨ls, hfront, hls⟩ := h.front
  exact h.given.book (hfront.close hfresh) hls

/-- A stream that holds back no row leaves a front. -/
theorem Printed.front (h : s.Printed) : ∃ ls : List CsvLine,
    s.csv.Front (ls.flatMap CsvLine.bytes) ∧ ls.filterMap CsvLine.row = rows s.log := by
  obtain ⟨ls, hlines, hls⟩ := h.lines
  exact ⟨ls, OutputStream.Front.of_eq hlines, hls⟩

/-- **The condition on one frame.** A frame that is saved finds the stream of
the rows good, and of its own files none loses its end in closing. -/
structure Checked (config : SaveConfig) (x : Snapshot) (a : SaveFaults) (s : SaveState) :
    Prop where
  row : s.active = true → s.csv.good = true
  cameraJson : s.active = false → a.cameraJson ≠ .failedAtClose
  planes : ∀ plane ∈ x.writable config, a.plane plane.1 ≠ .failedAtClose

/-- A session that could not be made is no row. -/
theorem failed_isFile : SaveEvent.IsFile .notCreated :=
  fun _ _ _ => SaveEvent.noConfusion

/-- **An error ends the saving**, and the closing behind it completes no row. -/
theorem Keeps.saveFailed (h : Given config s.log) (hprinted : s.Printed) (moved : ℕ) :
    Keeps config (s.saveFailed moved) := by
  obtain ⟨ls, hlines, hls⟩ := hprinted.lines
  have hlate : csvRows (s.csv.held.take moved) = [] := by
    refine List.sublist_nil.mp ?_
    rw [← hprinted.held]
    exact (List.take_sublist _ _).filterMap _
  have hlog : (s.saveFailed moved).log = s.log := by
    unfold SaveState.saveFailed
    rw [hlate]
    exact List.append_nil _
  have hdisk : (s.saveFailed moved).csv.disk <+: ls.flatMap CsvLine.bytes := by
    rw [← hlines]
    exact (List.prefix_append_right_inj _).mpr (List.take_prefix _ _)
  refine ⟨hlog ▸ h, ⟨ls, ⟨hdisk, Or.inl ?_⟩, hlog ▸ hls⟩,
    fun _ hdisabled => Bool.noConfusion hdisabled, fun hactive => Bool.noConfusion hactive⟩
  have hheld : (s.saveFailed moved).csv.held = [] := rfl
  rw [hheld, List.append_nil]
  exact hdisk

/-- The stride that a wanted frame meets. -/
theorem frameId_of_wanted (h : x.wanted config.withDefaults = true) :
    x.header.frameId = 0 ∨ x.header.frameId.toNat ≡ 1 [MOD config.stride] := by
  unfold Snapshot.wanted at h
  simp only [Bool.and_eq_true] at h
  obtain ⟨⟨⟨⟨-, hstride⟩, -⟩, -⟩, -⟩ := h
  by_cases hzero : x.header.frameId = 0
  · exact Or.inl hzero
  have hpos : 0 < x.header.frameId := by
    rw [UInt64.lt_iff_toNat_lt]
    exact Nat.pos_of_ne_zero (fun h => hzero (UInt64.toNat_inj.mp h))
  right
  have hmod : (x.header.frameId - 1) % config.withDefaults.saveProcessedStride.toUInt64 = 0 := by
    by_contra hne
    simp [hpos, hne] at hstride
  have hsub : (x.header.frameId - 1).toNat = x.header.frameId.toNat - 1 := by
    rw [UInt64.toNat_sub_of_le]
    · rfl
    · exact UInt64.le_iff_toNat_le.mpr (UInt64.lt_iff_toNat_lt.mp hpos)
  have hdvd : (x.header.frameId.toNat - 1) % config.stride = 0 := by
    have := congrArg UInt64.toNat hmod
    rwa [UInt64.toNat_mod, hsub, UInt32.toNat_toUInt64] at this
  have hone : 1 ≤ x.header.frameId.toNat := UInt64.lt_iff_toNat_lt.mp hpos
  exact ((Nat.modEq_iff_dvd' hone).mpr (Nat.dvd_of_mod_eq_zero hdvd)).symm

/-- A new stream holds the names, and no row yet. -/
theorem Printed.names (hcsv : s.csv = ({} : OutputStream CsvByte).put CsvLine.names.bytes)
    (hrows : rows s.log = []) : s.Printed := by
  have hheld : s.csv = { held := CsvLine.names.bytes } := hcsv.trans (OutputStream.put_empty _)
  refine ⟨⟨[.names], ?_, hrows.symm⟩, ?_⟩
  · simp only [hheld, List.flatMap_singleton, List.nil_append]
  · simp only [hheld]
    exact csvRows_names

/-- **A row is put into a good stream**, and the books are kept, however the
flush goes. -/
theorem Printed.print (h : s.Printed) (hgood : s.csv.good = true) (l : CsvLine) {r : SaveRow}
    (hrow : l.row = some r) {log : List SaveEvent} (hrows : rows log = rows s.log ++ [r])
    (p : PrintAnswer) :
    (∃ ls : List CsvLine, (s.csv.print l.bytes p).Front (ls.flatMap CsvLine.bytes)
        ∧ ls.filterMap CsvLine.row = rows log)
      ∧ (p.ok = true → Printed { s with csv := s.csv.print l.bytes p, log := log }) := by
  obtain ⟨ls, hlines, hls⟩ := h.lines
  have hls' : (ls ++ [l]).filterMap CsvLine.row = rows log := by
    rw [List.filterMap_append, hls, hrows, List.filterMap_cons, hrow]
    rfl
  have hbytes : (ls ++ [l]).flatMap CsvLine.bytes = ls.flatMap CsvLine.bytes ++ l.bytes := by
    rw [List.flatMap_append, List.flatMap_singleton]
  refine ⟨⟨ls ++ [l], ?_, hls'⟩, fun hok => ?_⟩
  · rw [hbytes]
    exact OutputStream.Front.print hlines hgood
  · obtain ⟨hdisk, hheld⟩ := OutputStream.print_of_ok l.bytes hgood hok
    refine ⟨⟨ls ++ [l], ?_, hls'⟩, ?_⟩
    · dsimp only
      rw [hheld, List.append_nil, hdisk, hlines, hbytes]
    · dsimp only
      rw [hheld]
      rfl

/-- **A frame in an open session.** -/
theorem Keeps.writeFrame (h : Keeps config s) (hactive : s.active = true)
    (hgood : s.csv.good = true) (hroom : s.full config.withDefaults = false)
    (hstride : x.header.frameId = 0 ∨ x.header.frameId.toNat ≡ 1 [MOD config.stride])
    (hclose : ∀ plane ∈ x.writable config.withDefaults, a.plane plane.1 ≠ .failedAtClose) :
    ((s.writeFrame config.withDefaults x a).2 = false →
        Given config (s.writeFrame config.withDefaults x a).1.log
          ∧ (s.writeFrame config.withDefaults x a).1.Printed)
      ∧ ((s.writeFrame config.withDefaults x a).2 = true →
        Keeps config (s.writeFrame config.withDefaults x a).1) := by
  have hfile := writePlanes_isFile s.sessionDir s.savedFrameCount a (x.writable config.withDefaults)
  obtain ⟨hfailure, hwhole⟩ := writePlanes_spec s.sessionDir s.savedFrameCount a _ hclose
  obtain ⟨hclean, hcount, hprinted⟩ := h.clean hactive hgood
  unfold SaveState.writeFrame
  rcases hplanes : writePlanes s.sessionDir s.savedFrameCount a (x.writable config.withDefaults)
    with ⟨events, returned⟩
  rw [hplanes] at hfile hfailure hwhole
  have hgiven := h.given.append hclean hfile hfailure
  have hrows : rows (s.log ++ events) = rows s.log := by
    rw [rows_append, rows_eq_nil hfile, List.append_nil]
  cases returned with
  | false =>
    refine ⟨fun _ => ⟨hgiven, ?_, hprinted.held⟩, fun h => Bool.noConfusion h⟩
    obtain ⟨ls, hlines, hls⟩ := hprinted.lines
    exact ⟨ls, hlines, hls.trans hrows.symm⟩
  | true =>
    refine ⟨fun h => Bool.noConfusion h, fun _ => ?_⟩
    obtain ⟨hcleanPlanes, hfiles⟩ := hwhole rfl
    have hallClean := List.forall_mem_append.mpr ⟨hclean, hcleanPlanes⟩
    have hfew : config.saveProcessedMaxFrames ≠ 0 →
        (rows (s.log ++ events)).length < config.saveProcessedMaxFrames.toNat := by
      intro hne
      rw [hrows, hcount]
      exact (full_eq_false_iff.mp hroom).2 hne
    -- the planes that the row names have been written just before it
    have hnamed : ∀ file ∈ (x.row config.withDefaults s.savedFrameCount).files,
        ∃ data, .planeFile s.sessionDir file.2 data .written ∈ s.log ++ events := by
      intro file hmem
      obtain ⟨plane, hplane, rfl⟩ := List.mem_map.mp hmem
      exact ⟨plane.2, List.mem_append_right _ (hfiles plane hplane)⟩
    have hgivenRow : Given config (s.log ++ events
        ++ [.row s.sessionDir (x.row config.withDefaults s.savedFrameCount) a.row]) :=
      hgiven.snoc hallClean (by rw [hrows, hcount]; rfl) hfew hstride hnamed
    have hrowsRow : rows (s.log ++ events
        ++ [.row s.sessionDir (x.row config.withDefaults s.savedFrameCount) a.row])
        = rows s.log ++ [x.row config.withDefaults s.savedFrameCount] := by
      rw [rows_append, hrows]
      rfl
    obtain ⟨hfront, hprintedRow⟩ := hprinted.print hgood
      (CsvLine.ofSnapshot x config.withDefaults s.savedFrameCount a.systemTimeNs a.validRatio)
      rfl hrowsRow a.row
    dsimp only
    rw [hgood, if_neg Bool.true_eq_false_eq_False, if_pos rfl]
    refine ⟨hgivenRow, hfront, fun hidle => ?_, fun _ hstill => ?_⟩
    · rw [hactive] at hidle
      cases hidle
    · -- the stream is good still, so that the row was printed
      have hok : a.row.ok = true := (OutputStream.good_print hgood).symm.trans hstill
      refine ⟨List.forall_mem_append.mpr ⟨hallClean, List.forall_mem_singleton.mpr ?_⟩, ?_,
        (hprintedRow hok).lines, (hprintedRow hok).held⟩
      · show (!a.row.ok) = false
        rw [hok]
        rfl
      · dsimp only
        rw [hrowsRow, List.length_append, hcount]
        rfl

/-- **A session is opened**, or saving is over. -/
theorem Keeps.ensureSession (h : Keeps config s) (hroom : s.full config.withDefaults = false)
    (hchecked : Checked config.withDefaults x a s) :
    ((s.ensureSession config.withDefaults x a).2 = false →
        Given config (s.ensureSession config.withDefaults x a).1.log
          ∧ (s.ensureSession config.withDefaults x a).1.Printed)
      ∧ ((s.ensureSession config.withDefaults x a).2 = true →
        Keeps config (s.ensureSession config.withDefaults x a).1
          ∧ (s.ensureSession config.withDefaults x a).1.active = true
          ∧ (s.ensureSession config.withDefaults x a).1.csv.good = true
          ∧ (s.ensureSession config.withDefaults x a).1.full config.withDefaults = false) := by
  unfold SaveState.ensureSession
  cases hactive : s.active with
  | true =>
    exact ⟨fun h => Bool.noConfusion h, fun _ => ⟨h, hactive, hchecked.row hactive, hroom⟩⟩
  | false =>
    have hable : s.disabledAfterError = false := (full_eq_false_iff.mp hroom).1
    obtain ⟨hlog, hcount, hcsv⟩ := h.idle hactive hable
    have hone : ∀ e : SaveEvent, e.IsFile → Given config (s.log ++ [e]) := by
      intro e he
      rw [hlog]
      exact (Given.nil config).append (fun _ h => absurd h List.not_mem_nil)
        (List.forall_mem_singleton.mpr he) (List.pairwise_singleton _ _)
    have hjson : ∀ dir json write, SaveEvent.IsFile (.cameraJson dir json write) :=
      fun _ _ _ _ _ _ => SaveEvent.noConfusion
    rw [if_neg Bool.false_ne_true]
    by_cases hcreates : a.creates = false
    · rw [if_pos hcreates]
      refine ⟨fun _ => ⟨hone _ failed_isFile, ⟨[], ?_, ?_⟩, ?_⟩, fun h => Bool.noConfusion h⟩
      · rw [hcsv]
        rfl
      · rw [hlog]
        rfl
      · rw [hcsv]
        rfl
    · rw [if_neg hcreates]
      have hprinted := Printed.names (s := (s.ensureSession config.withDefaults x a).1)
      unfold SaveState.ensureSession at hprinted
      rw [hactive, if_neg Bool.false_ne_true, if_neg hcreates] at hprinted
      have hprinted := hprinted rfl (by rw [hlog]; rfl)
      refine ⟨fun _ => ⟨hone _ (hjson _ _ _), hprinted⟩, fun htested => ?_⟩
      -- a session that is opened has its `camera.json`
      have hwritten : a.cameraJson = .written := by
        have hclose := hchecked.cameraJson hactive
        dsimp only at htested
        cases hwrite : a.cameraJson with
        | notOpened => rw [hwrite] at htested; cases htested
        | failed => rw [hwrite] at htested; cases htested
        | failedAtClose => exact absurd hwrite hclose
        | written => rfl
      refine ⟨⟨hone _ (hjson _ _ _), hprinted.front, fun h => Bool.noConfusion h, fun _ _ => ?_⟩,
        rfl, rfl, ?_⟩
      · refine ⟨?_, ?_, hprinted⟩
        · rw [hlog, hwritten]
          exact List.forall_mem_singleton.mpr rfl
        · rw [hlog]
          rfl
      · refine full_eq_false_iff.mpr ⟨hable, fun hne => ?_⟩
        exact hcount ▸ (full_eq_false_iff.mp hroom).2 hne

/-- **Saving a frame keeps the books**, if nothing of it is missed. -/
theorem Keeps.saveSnapshot (h : Keeps config s)
    (hchecked : x.wanted config.withDefaults = true → s.full config.withDefaults = false →
      Checked config.withDefaults x a s) : Keeps config (s.saveSnapshot config x a) := by
  unfold SaveState.saveSnapshot
  split
  · next hwanted =>
    unfold saveLocked
    cases hroom : s.full config.withDefaults with
    | true => exact h
    | false =>
      have hchecked := hchecked hwanted hroom
      obtain ⟨hthrown, hreturned⟩ := h.ensureSession hroom hchecked
      rw [if_neg Bool.false_ne_true]
      dsimp only
      rcases hopened : s.ensureSession config.withDefaults x a with ⟨s', returned⟩
      rw [hopened] at hthrown hreturned
      cases returned with
      | false => exact Keeps.saveFailed (hthrown rfl).1 (hthrown rfl).2 a.closing
      | true =>
        obtain ⟨hkeeps, hactive, hgood, hroom'⟩ := hreturned rfl
        obtain ⟨hthrown', hreturned'⟩ := hkeeps.writeFrame hactive hgood hroom'
          (frameId_of_wanted hwanted) hchecked.planes
        rw [if_neg Bool.true_eq_false_eq_False]
        rcases hwrite : s'.writeFrame config.withDefaults x a with ⟨s'', returned'⟩
        rw [hwrite] at hthrown' hreturned'
        cases returned' with
        | false => exact Keeps.saveFailed (hthrown' rfl).1 (hthrown' rfl).2 a.closing
        | true => exact hreturned' rfl
  · exact h

/-- **A frame gives at most one row.** -/
theorem rows_saveSnapshot_le (config : SaveConfig) (x : Snapshot) (a : SaveFaults)
    (s : SaveState) : (rows (s.saveSnapshot config x a).log).length ≤ (rows s.log).length + 1 := by
  have hopen : rows (s.ensureSession config.withDefaults x a).1.log = rows s.log := by
    unfold SaveState.ensureSession
    split
    · rfl
    · split
      · exact (rows_append _ _).trans (List.append_nil _)
      · exact (rows_append _ _).trans (List.append_nil _)
  have hwrite : ∀ s : SaveState, (rows (s.writeFrame config.withDefaults x a).1.log).length
      ≤ (rows s.log).length + 1 := by
    intro s
    -- the planes are files, and no rows
    have hplanes := rows_eq_nil
      (writePlanes_isFile s.sessionDir s.savedFrameCount a (x.writable config.withDefaults))
    unfold SaveState.writeFrame
    dsimp only
    by_cases hthrown : (writePlanes s.sessionDir s.savedFrameCount a
        (x.writable config.withDefaults)).2 = false
    · rw [if_pos hthrown]
      dsimp only
      rw [rows_append, hplanes, List.append_nil]
      exact Nat.le_succ _
    · rw [if_neg hthrown]
      dsimp only
      rw [rows_append, rows_append, hplanes, List.append_nil, List.length_append]
      refine Nat.add_le_add_left ?_ _
      cases s.csv.good
      · exact Nat.zero_le _
      · exact le_rfl
  -- the rows that come late were given before
  have hlog : ∀ s : SaveState, rows (s.saveFailed a.closing).log = rows s.log := by
    intro s
    refine (rows_append _ _).trans ?_
    have hlate : rows ((csvRows (s.csv.held.take a.closing)).map .lateRow) = [] := by
      refine rows_eq_nil fun e he => ?_
      obtain ⟨r, -, rfl⟩ := List.mem_map.mp he
      exact fun _ _ _ => SaveEvent.noConfusion
    rw [hlate, List.append_nil]
  have hlocked : (rows (s.saveLocked config.withDefaults x a).1.log).length
      ≤ (rows s.log).length + 1 := by
    unfold saveLocked
    dsimp only
    split
    · exact Nat.le_succ _
    · split
      · rw [hopen]
        exact Nat.le_succ _
      · rw [← hopen]
        exact hwrite _
  unfold SaveState.saveSnapshot
  dsimp only
  split
  · split
    · exact hlocked
    · rw [hlog]
      exact hlocked
  · exact Nat.le_succ _

end SaveState

/-! ## Runs

A run is from one closing to the next, as the closing empties the log. The books
are kept in every state of it, and behind the closing as well if that writes
nothing twice. -/

namespace SavingFrames

variable {z : Zstd} {s s' : SavingFrames} {a : FrameLabel}

/-- **The condition on a step**: it is the one on the frame, if there is one
to be saved. -/
def Checked (z : Zstd) (config : SaveConfig) (s : SavingFrames) (a : FrameLabel) : Prop :=
  ∀ f, s.decoded z config a = some f →
    (f.snapshot config).wanted config.withDefaults = true →
    s.save.full config.withDefaults = false →
    SaveState.Checked config.withDefaults (f.snapshot config) a.faults s.save

/-- **What a step is to do**: the books are kept before and behind it, and it
gives at most one row. -/
def Booked (z : Zstd) (config : SaveConfig) (s : SavingFrames) (a : FrameLabel) : Prop :=
  Book config s.save.log s.save.csv.disk ∧ ∀ s', step z config s a = some s' →
    Book config s'.save.log s'.save.csv.disk
      ∧ (rows s'.save.log).length ≤ (rows s.save.log).length + 1

/-- Behind a closing, with nothing noted so far. -/
def afterClose (lastTofiFrameTime : Option ℕ) (save : SaveState) (moved : ℕ) : SavingFrames where
  lastTofiFrameTime := lastTofiFrameTime
  save := { save.close moved with csv := {}, log := [] }

/-- One step. -/
theorem keeps_step (h : s.save.Keeps config) (hchecked : Checked z config s a)
    (hstep : step z config s a = some s') :
    s'.save.Keeps config ∧ (rows s'.save.log).length ≤ (rows s.save.log).length + 1 := by
  unfold step at hstep
  cases hstep
  dsimp only
  split
  · next f hf =>
    rw [SaveState.saveDataFrame_eq]
    exact ⟨h.saveSnapshot (hchecked f hf), SaveState.rows_saveSnapshot_le _ _ _ _⟩
  · exact ⟨h, Nat.le_succ _⟩

/-- Nothing is given yet. -/
theorem keeps_afterClose (config : SaveConfig) (lastTofiFrameTime : Option ℕ) (save : SaveState)
    (moved : ℕ) : (afterClose lastTofiFrameTime save moved).save.Keeps config :=
  ⟨Given.nil config, ⟨[], OutputStream.Front.of_eq rfl, rfl⟩, fun _ _ => ⟨rfl, rfl, rfl⟩,
    fun h => Bool.noConfusion h⟩

/-- **Under the condition every run keeps the books**, from one closing to the
next, which is to write nothing twice.

The three parts are of a step, of the state that the run ends in, and of a
session that is closed there. In the last the buffer is flushed once more, and
may write a row that is on the disk already, as a write that has failed may have
got some of it there; `Fresh` says that it does not. The state to begin with is
that behind any closing, so that a viewer's earlier sessions are of no
account. -/
theorem book_of_run (save : SaveState) (lastTofiFrameTime : Option ℕ) (moved : ℕ)
    {as : List FrameLabel}
    (hrun : Machine.Run (step z config) (Checked z config)
      (afterClose lastTofiFrameTime save moved) as s) :
    Machine.Run (step z config) (Booked z config) (afterClose lastTofiFrameTime save moved) as s
      ∧ Book config s.save.log s.save.csv.disk
      ∧ ∀ n, s.save.csv.Fresh n → Book config s.save.log (s.save.close n).csv.disk := by
  have hinit := keeps_afterClose config lastTofiFrameTime save moved
  have hkeeps : s.save.Keeps config :=
    hrun.invariant (I := fun s : SavingFrames => s.save.Keeps config)
      (fun s a s' hs hchecked hstep => (keeps_step hs hchecked hstep).1) hinit
  refine ⟨?_, hkeeps.book, fun n hfresh => hkeeps.book_close hfresh⟩
  refine hrun.guard (I := fun s : SavingFrames => s.save.Keeps config)
    (fun s a s' hs hchecked hstep => ?_) hinit
  refine ⟨(keeps_step hs hchecked hstep).1, hs.book, fun s'' hstep' => ?_⟩
  exact ⟨(keeps_step hs hchecked hstep').1.book, (keeps_step hs hchecked hstep').2⟩

/-! ### Two runs

In the first a flush fails and nothing is lost; in the second a row is lost and
no one notices. -/

instance (config : SaveConfig) (x : Snapshot) (a : SaveFaults) (s : SaveState) :
    Decidable (SaveState.Checked config x a s) :=
  decidable_of_iff ((s.active = true → s.csv.good = true)
      ∧ (s.active = false → a.cameraJson ≠ .failedAtClose)
      ∧ ∀ plane ∈ x.writable config, a.plane plane.1 ≠ .failedAtClose)
    ⟨fun h => ⟨h.1, h.2.1, h.2.2⟩, fun h => ⟨h.row, h.cameraJson, h.planes⟩⟩

instance (s : SavingFrames) (a : FrameLabel) : Decidable (Checked z config s a) :=
  match hf : s.decoded z config a with
  | none => isTrue (fun f h => absurd (h.symm.trans hf) (Option.some_ne_none f))
  | some f => decidable_of_iff ((f.snapshot config).wanted config.withDefaults = true →
        s.save.full config.withDefaults = false →
        SaveState.Checked config.withDefaults (f.snapshot config) a.faults s.save)
      ⟨fun h _ hf' => Option.some.inj (hf.symm.trans hf') ▸ h, fun h => h f hf⟩

/-- A configuration that saves the raw plane of every frame. -/
def sampleConfig : SaveConfig where
  saveProcessedFrames := true
  saveProcessedPlanes := [ascii "raw"]

/-- The header of a frame of one pixel. -/
def sampleHeader (frameId : UInt64) : DataFramePayloadHeader where
  frameId := frameId
  rawWidth := 1
  rawHeight := 1
  rawBytes := 2
  codec := Codec.none.code

/-- The frame, and how its row is printed. -/
def sampleFrame (frameId : UInt64) (row : PrintAnswer) : FrameLabel where
  message := ⟨.dataFrame, (sampleHeader frameId).encode ++ [1, 2]⟩
  now := 0
  compute := none
  faults := { row := row }

/-- Three frames are saved, and booked. The flush of the third row fails when a
part of the row is on the disk, and the rest comes with the closing. -/
theorem book_of_run_three_frames :
    ∃ s, Machine.Run (step RawBlocks.codec sampleConfig) (Booked RawBlocks.codec sampleConfig)
        (afterClose none {} 0)
        [sampleFrame 1 {}, sampleFrame 2 {}, sampleFrame 3 ⟨false, 100, 20, 0⟩] s
      ∧ Book sampleConfig s.save.log s.save.csv.disk ∧ (csvRows s.save.csv.disk).length = 2
      ∧ Book sampleConfig s.save.log (s.save.close 100).csv.disk
      ∧ (csvRows (s.save.close 100).csv.disk).length = 3 := by
  have hexec : (Machine.execOk (step RawBlocks.codec sampleConfig)
      (Checked RawBlocks.codec sampleConfig) (afterClose none {} 0)
      [sampleFrame 1 {}, sampleFrame 2 {}, sampleFrame 3 ⟨false, 100, 20, 0⟩]).map
      (fun s => ((csvRows s.save.csv.disk).length, (csvRows (s.save.close 100).csv.disk).length,
        decide (s.save.csv.Fresh 100))) = some (2, 3, true) := by decide +kernel
  obtain ⟨s, hs, hall⟩ := Option.map_eq_some_iff.mp hexec
  obtain ⟨htwo, hall⟩ := Prod.mk.inj hall
  obtain ⟨hthree, hfresh⟩ := Prod.mk.inj hall
  obtain ⟨hrun, hbook, hclose⟩ := book_of_run {} none 0 (Machine.run_of_execOk hs)
  exact ⟨s, hrun, hbook, htwo, hclose 100 (of_decide_eq_true hfresh), hthree⟩

/-- **A row that is lost is not noticed.** The disk has no room for the first
row, and the file of the second frame is written all the same; the closing then
writes the first row, which the stream has kept, and the second is in no file.
So two frames are counted as saved of which one has a row, and files were
written behind a failure. -/
theorem not_book_row_lost :
    ∃ s, Machine.Run (step RawBlocks.codec sampleConfig) Machine.always (afterClose none {} 0)
        [sampleFrame 1 ⟨false, 100, 0, 0⟩, sampleFrame 2 {}] s
      ∧ (csvRows (s.save.close 1000).csv.disk).length = 1 ∧ s.save.savedFrameCount = 2
      ∧ ¬ Book sampleConfig s.save.log s.save.csv.disk := by
  have hexec : (Machine.exec (step RawBlocks.codec sampleConfig) (afterClose none {} 0)
      [sampleFrame 1 ⟨false, 100, 0, 0⟩, sampleFrame 2 {}]).map
      (fun s => ((csvRows (s.save.close 1000).csv.disk).length, s.save.savedFrameCount,
        decide (s.save.log.Pairwise (fun e e' => e.failed = true → e'.writes = false))))
      = some (1, 2, false) := by decide +kernel
  obtain ⟨s, hs, hall⟩ := Option.map_eq_some_iff.mp hexec
  obtain ⟨hone, hall⟩ := Prod.mk.inj hall
  obtain ⟨htwo, hfailure⟩ := Prod.mk.inj hall
  exact ⟨s, Machine.run_iff_exec.mpr hs, hone, htwo, fun hbook =>
    of_decide_eq_false hfailure hbook.failure⟩

end SavingFrames
