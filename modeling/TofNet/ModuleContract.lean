import TofNet.ModuleRounds
import TofNet.Transition

/-!
# What a call of `readModuleData` leaves behind

A call makes temporary files as it goes through the chunks, and a JSON file at
its end, and each way out removes some of them. What it found is kept in members
of the object, which no later call sets back. An error is to leave no file of
the call; what is handed out is to be whole; and no call is to know of the ones
in front of it.

The calls of an object are a machine, with a step for each round of the loop.
`honours_of_run` says in front of which steps a call may be so that it keeps
its promises.

The promises are about one call in a history of calls, between which anything
may happen to the EEPROM, to the files and to the serial number. What makes them
hard to keep is what an earlier call has left in the object. So the invariant
(`Reading`) has a second object beside the first, one that no call was made on,
and says that it would be at the same place of the loop; at the end the two are
compared. The members of the object are the other half: in a call they are those
of the call, as far as it has set them (`Follows`).
-/

namespace ModuleMemory

/-! ## Calls

Between two calls there is the object and what the last call was like; in a call
there is what it began with besides. A round of the loop is a step, and so is
each of the two ends. -/

/-- A call that is over. -/
structure ReadCall where
  /-- What the EEPROM and the system answered. -/
  env : ModuleEnv
  /-- The object as it was before. -/
  start : ModuleMemory
  /-- What was returned. -/
  result : Option ModuleFiles

/-- **Between two calls**, with the last one; or in one, with what it began
with, the names it has given, and where its loop is. -/
inductive CallState where
  | idle (s : ModuleMemory) (last : Option ReadCall)
  | reading (env : ModuleEnv) (start : ModuleMemory) (given : Blob → List Bytes) (w : ChunkWalk)

inductive CallStep where
  | call (env : ModuleEnv)
  | round
  | finish
  /-- Other programs change the files; and the other functions of the object
  read or write the EEPROM. -/
  | meanwhile (files : Files) (serialNumber : Bytes) (requests : ℕ)

/-- **The calls of `readModuleData` on one object.** -/
def calls : Machine CallState CallStep
  | .idle s _, .call env =>
    match startWalk env s with
    | (some h, s') => some (.reading env s (fun _ => []) (.walking h s'))
    | (none, s') => some (.idle s' (some ⟨env, s, none⟩))
  | .idle s _, .meanwhile files serialNumber requests =>
    some (.idle { s with files := files, serialNumber := serialNumber, requests := requests } none)
  | .reading env start given (.walking h s), .round =>
    (walkStep env (.walking h s)).map (.reading env start (noted env given h s))
  | .reading env start _ (.left s), .finish =>
    some (.idle (finishWalk env s).2 (some ⟨env, start, (finishWalk env s).1⟩))
  | _, _ => none

/-! ## The contract

There are four promises. Behind an error there is no file of the call. What is
handed out are names of files which there are, and which the call has made; the
JSON file among them is a text that names the others. And the result is what it
would be on a new object. -/

/-- The name of a file that is handed out. -/
def handedOut (r : ModuleFiles) : Blob → Bytes
  | .ccb => r.ccbFile
  | .cfg => r.cfgFile

/-- **A call keeps its promises**: it is one of `readModuleData`; behind an error
there is no file that was not there before; what is handed out is a JSON text
that names the files handed out, which there are, and which were made in the
call; and the result is that of an object that no call was made on. -/
structure Honours (env : ModuleEnv) (start : ModuleMemory) (result : Option ModuleFiles)
    (s : ModuleMemory) : Prop where
  /-- It is a call of `readModuleData`. -/
  returned : ∃ n, readModuleData env n start = some (result, s)
  /-- Behind an error there is no new file. -/
  removed : result = none → ∀ name, start.files name = none → s.files name = none
  /-- The JSON file is new, and is read as the names that are handed out. -/
  json : ∀ r ∈ result, start.files r.jsonFile = none
    ∧ ∃ text, s.files r.jsonFile = some text ∧ Utf8.Valid text
      ∧ Json.object text = some (named r.ccbFile r.cfgFile)
  /-- The files handed out are new, and are there. -/
  written : ∀ r ∈ result, ∀ b, handedOut r b ≠ [] →
    start.files (handedOut r b) = none ∧ (s.files (handedOut r b)).isSome
  /-- A call on an object without a history returns the same. -/
  fresh : ∃ n s', readModuleData env n start.fresh = some (result, s')

/-- The last call kept its promises. -/
def CallState.Honoured : CallState → Prop
  | .idle s (some c) => Honours c.env c.start c.result s
  | _ => True

/-! ## Where it does

The condition is on the state in front of a step: on what was there when the
call began, on what the next round will take, or, at the way out, on the flags
and names and on the answers to the requests that are still to come. It never
asks what the call will return. -/

/-- The files of the call are removed, by requests from one on. -/
def Removes (env : ModuleEnv) (given : Blob → List Bytes) (s : ModuleMemory) (request : ℕ) :
    Prop :=
  (given .ccb ≠ [] → s.ccbFilename ≠ [] → env.removes request = true)
    ∧ (given .cfg ≠ [] → s.cfgFilename ≠ [] → env.removes (request + 1) = true)

/-- **The JSON file is whole**: it is opened and written, there is a name for
it, and the names are of the call and such as are read back. If a chunk was bad,
one blob was, and there is no file of that. -/
structure Whole (env : ModuleEnv) (start : ModuleMemory) (given : Blob → List Bytes)
    (s : ModuleMemory) : Prop where
  /-- The JSON file can be opened, … -/
  opens : env.opens (s.requests + 1) = true
  /-- … and is written as a whole. -/
  keeps : env.loses (s.requests + 1) = 0
  /-- It has a name to hold. -/
  names : s.ccbFilename ≠ [] ∨ s.cfgFilename ≠ []
  /-- The names are of the call, and of none before. -/
  own : ∀ b, given b ≠ [] ∨ start.filename b = []
  /-- They are read back as they are. -/
  writable : ∀ b, Writable (s.filename b) ∧ Utf8.Valid (s.filename b)
  /-- Where a chunk was bad, the blob was. -/
  flagged : s.isBadChunk = true → s.badCcb = true ∨ s.badCfg = true
  /-- A bad blob leaves no file, or none that can be removed. -/
  dropped : s.isBadChunk = true → ∀ b, s.badBlob b = true →
    s.filename b = [] ∨ env.removes (s.requests + 2) = false

/-- **The way out**: the flags are of the call. Where both are set there is no
JSON file, not even one of an earlier call, unless a chunk was bad; where none
can be made, neither is set; else it is whole. -/
def Leaves (env : ModuleEnv) (start : ModuleMemory) (given : Blob → List Bytes)
    (s : ModuleMemory) : Prop :=
  (∀ b, start.badBlob b = true → [] ∈ given b)
    ∧ if s.badCcb = true ∧ s.badCfg = true then
        (s.isBadChunk = true ∨ start.jsonFilename = []) ∧ Removes env given s s.requests
      else if (getTempFilename env (ascii "adi_tof_cfgjson") s).1 = [] then
        s.badCcb = false ∧ s.badCfg = false ∧ Removes env given s (s.requests + 2)
      else Whole env start given s

/-- **The guard of a step**: a call comes to its loop without a bad chunk of an
earlier one; no blob comes behind a file of its kind, and a file that is made is
opened; and the way out. -/
def Sound : CallState → CallStep → Prop
  | .idle s _, .call env => (startWalk env s).1 = none ∨ s.isBadChunk = false
  | .reading env _ given (.walking h s), .round => ∀ t ∈ taken env h s,
    (∀ name ∈ given t.blob, name = [])
      ∧ (IsBlob t.blob t.buffer t.length → Opens env (ascii "adi_tof_" ++ t.blob.tag) t.state)
  | .reading env start given (.left s), .finish => Leaves env start given s
  | _, _ => True

instance (env : ModuleEnv) (given : Blob → List Bytes) (s : ModuleMemory) (request : ℕ) :
    Decidable (Removes env given s request) :=
  inferInstanceAs (Decidable (_ ∧ _))

instance (env : ModuleEnv) (start : ModuleMemory) (given : Blob → List Bytes) (s : ModuleMemory) :
    Decidable (Whole env start given s) :=
  decidable_of_iff (_ ∧ _ ∧ _ ∧ _ ∧ _ ∧ _ ∧ _)
    ⟨fun h => ⟨h.1, h.2.1, h.2.2.1, h.2.2.2.1, h.2.2.2.2.1, h.2.2.2.2.2.1, h.2.2.2.2.2.2⟩,
      fun h => ⟨h.1, h.2, h.3, h.4, h.5, h.6, h.7⟩⟩

instance (env : ModuleEnv) (start : ModuleMemory) (given : Blob → List Bytes) (s : ModuleMemory) :
    Decidable (Leaves env start given s) :=
  inferInstanceAs (Decidable (_ ∧ ite _ _ _))

instance (st : CallState) (a : CallStep) : Decidable (Sound st a) :=
  match st, a with
  | .idle _ _, .call _ => inferInstanceAs (Decidable (_ ∨ _))
  | .reading env _ given (.walking h s), .round => inferInstanceAs (Decidable (∀ t ∈ taken env h s,
      (∀ name ∈ given t.blob, name = [])
        ∧ (IsBlob t.blob t.buffer t.length → Opens env (ascii "adi_tof_" ++ t.blob.tag) t.state)))
  | .reading env start given (.left s), .finish =>
    inferInstanceAs (Decidable (Leaves env start given s))
  | .idle _ _, .round => isTrue trivial
  | .idle _ _, .finish => isTrue trivial
  | .idle _ _, .meanwhile _ _ _ => isTrue trivial
  | .reading _ _ _ (.walking _ _), .call _ => isTrue trivial
  | .reading _ _ _ (.walking _ _), .finish => isTrue trivial
  | .reading _ _ _ (.walking _ _), .meanwhile _ _ _ => isTrue trivial
  | .reading _ _ _ (.left _), .call _ => isTrue trivial
  | .reading _ _ _ (.left _), .round => isTrue trivial
  | .reading _ _ _ (.left _), .meanwhile _ _ _ => isTrue trivial

variable {env : ModuleEnv} {start s s' m : ModuleMemory} {h : ChunkHeader} {buffer : Bytes}
  {given : Blob → List Bytes}

/-! ## What is known of a call

For each round: which blob it takes, if any, and the name of the file that is
made of it. The names that the call has given are kept in a list, from which the
members are known, and the files as well: those of the call are the ones it
knows the names of. -/

/-- **The members, as the call has set them**: the names and flags are those it
began with, where it has given no name. -/
structure Follows (start : ModuleMemory) (given : Blob → List Bytes) (s : ModuleMemory) : Prop where
  /-- A name is the one given first, or the one from before. -/
  filename : ∀ b, s.filename b = (given b).head?.getD (start.filename b)
  /-- A blob is bad if it was, or if no name was given for it. -/
  badBlob : ∀ b, s.badBlob b = (start.badBlob b || decide ([] ∈ given b))
  /-- The name of the JSON file is from before. -/
  jsonFilename : s.jsonFilename = start.jsonFilename

/-- **The files of the call** are those of which it knows the names. -/
structure Made (start : ModuleMemory) (given : Blob → List Bytes) (s : ModuleMemory) : Prop where
  /-- A file that was given a name was made in the call. -/
  made : ∀ b name, (given b).head? = some name → name ≠ [] →
    start.files name = none ∧ (s.files name).isSome
  /-- A file that was made has a name that was given. -/
  known : ∀ name, start.files name = none → (s.files name).isSome →
    name ≠ [] ∧ ∃ b, (given b).head? = some name
  /-- No file that was there is gone. -/
  kept : ∀ name, (start.files name).isSome → (s.files name).isSome

theorem Follows.of_frame (hs : Follows start given s) (bad : Bool) (requests : ℕ) :
    Follows start given { s with isBadChunk := bad, requests := requests } where
  filename b := by
    rw [← hs.filename b]
    cases b <;> rfl
  badBlob b := by
    rw [← hs.badBlob b]
    cases b <;> rfl
  jsonFilename := hs.jsonFilename

theorem writeBlob_frame {b : Blob} {length : ℕ} {r : Bytes × ModuleMemory}
    (hwrite : writeBlob env b buffer length s = some r) :
    ∃ serialNumber files requests, r.2
      = { s with serialNumber := serialNumber, files := files, requests := requests } := by
  cases b with
  | ccb => exact writeTempCcb_frame hwrite
  | cfg =>
    obtain ⟨files, requests, hframe⟩ := writeTempCfg_frame hwrite
    exact ⟨s.serialNumber, files, requests, hframe⟩

/-- The members behind a blob. -/
theorem Follows.assign (hs : Follows start given s) {b : Blob} {length : ℕ} {name : Bytes}
    {s₂ : ModuleMemory} (hwrite : writeBlob env b buffer length s = some (name, s₂)) (bad : Bool) :
    Follows start (Function.update given b (name :: given b))
      { s₂.assign b name with isBadChunk := bad } := by
  obtain ⟨serialNumber, files, requests, hframe⟩ := writeBlob_frame hwrite
  have hfilename : ∀ c, s₂.filename c = s.filename c := fun c => by
    rw [show s₂ = _ from hframe]
    cases c <;> rfl
  have hbadBlob : ∀ c, s₂.badBlob c = s.badBlob c := fun c => by
    rw [show s₂ = _ from hframe]
    cases c <;> rfl
  refine { filename := fun c => ?_, badBlob := fun c => ?_, jsonFilename := ?_ }
  · have hassign : ({ s₂.assign b name with isBadChunk := bad } : ModuleMemory).filename c
        = (s₂.assign b name).filename c := by cases c <;> rfl
    rw [hassign, filename_assign]
    by_cases hc : c = b
    · rw [if_pos hc, hc, Function.update_self]
      rfl
    · rw [if_neg hc, Function.update_of_ne hc, hfilename, hs.filename]
  · have hassign : ({ s₂.assign b name with isBadChunk := bad } : ModuleMemory).badBlob c
        = (s₂.assign b name).badBlob c := by cases c <;> rfl
    rw [hassign, badBlob_assign]
    by_cases hc : c = b
    · rw [if_pos hc, hc, Function.update_self, hbadBlob, hs.badBlob]
      cases name with
      | nil => simp
      | cons d name => simp
    · rw [if_neg hc, Function.update_of_ne hc, hbadBlob, hs.badBlob]
  · show (s₂.assign b name).jsonFilename = _
    rw [jsonFilename_assign, show s₂ = _ from hframe]
    exact hs.jsonFilename

/-- **A round keeps the members in step.** -/
theorem Follows.walkStep {w : ChunkWalk} (hs : Follows start given s)
    (hstep : walkStep env (.walking h s) = some w) :
    Follows start (noted env given h s) w.object := by
  obtain ⟨htaken, bad, requests, hobject⟩
    | ⟨t, s₂, bad, htaken, ⟨requests, hstate⟩, hwrite, hobject⟩ := walkStep_cases hstep
  · rw [noted, htaken, hobject]
    exact hs.of_frame bad requests
  · rw [noted, htaken, hobject]
    refine Follows.assign ?_ hwrite bad
    rw [hstate]
    exact hs.of_frame s.isBadChunk requests

/-- A name that is not given in place of others. -/
theorem head?_update {b c : Blob} {name other : Bytes} (hname : other ≠ name) :
    (Function.update given b (name :: given b) c).head? = some other ↔
      c ≠ b ∧ (given c).head? = some other := by
  by_cases hc : c = b
  · rw [hc, Function.update_self]
    exact iff_of_false (fun h => hname (Option.some.inj h).symm) fun h => h.1 rfl
  · rw [Function.update_of_ne hc]
    exact ⟨fun h => ⟨hc, h⟩, And.right⟩

/-- A blob without a file. -/
theorem Made.without (hs : Made start given s) {b : Blob} (hfirst : ∀ name ∈ given b, name = [])
    (hfiles : s'.files = s.files) : Made start (Function.update given b ([] :: given b)) s' := by
  refine { made := fun c name hc hname => ?_, known := fun name hnone hsome => ?_,
           kept := fun name hsome => ?_ }
  · rw [hfiles]
    exact hs.made c name ((head?_update hname).mp hc).2 hname
  · rw [hfiles] at hsome
    obtain ⟨hname, c, hc⟩ := hs.known name hnone hsome
    refine ⟨hname, c, (head?_update hname).mpr ⟨?_, hc⟩⟩
    rintro rfl
    exact hname (hfirst name (List.mem_of_mem_head? hc))
  · rw [hfiles]
    exact hs.kept name hsome

/-- A blob with a new file. -/
theorem Made.new (hs : Made start given s) {b : Blob} (hfirst : ∀ name ∈ given b, name = [])
    {name content : Bytes} (hname : name ≠ []) (hnew : s.files name = none)
    (hfiles : s'.files = Function.update s.files name (some content)) :
    Made start (Function.update given b (name :: given b)) s' := by
  have hstart : start.files name = none := by
    by_contra hsome
    have hkept := hs.kept name (Option.isSome_iff_ne_none.mpr hsome)
    rw [hnew] at hkept
    cases hkept
  have hself : (s'.files name).isSome := by
    rw [hfiles, Function.update_self]
    rfl
  have hother : ∀ other, other ≠ name → s'.files other = s.files other := fun other hne => by
    rw [hfiles, Function.update_of_ne hne]
  refine { made := fun c other hc hne => ?_, known := fun other hnone hsome => ?_,
           kept := fun other hsome => ?_ }
  · by_cases heq : other = name
    · rw [heq]
      exact ⟨hstart, hself⟩
    · rw [hother other heq]
      exact hs.made c other ((head?_update heq).mp hc).2 hne
  · by_cases heq : other = name
    · rw [heq]
      refine ⟨hname, b, ?_⟩
      rw [Function.update_self]
      rfl
    · rw [hother other heq] at hsome
      obtain ⟨hne, c, hc⟩ := hs.known other hnone hsome
      refine ⟨hne, c, (head?_update heq).mpr ⟨?_, hc⟩⟩
      rintro rfl
      exact hne (hfirst other (List.mem_of_mem_head? hc))
  · by_cases heq : other = name
    · rw [heq]
      exact hself
    · rw [hother other heq]
      exact hs.kept other hsome

theorem Made.walkStep {w : ChunkWalk} (hs : Made start given s)
    (hsound : ∀ t ∈ taken env h s, (∀ name ∈ given t.blob, name = [])
      ∧ (IsBlob t.blob t.buffer t.length → Opens env (ascii "adi_tof_" ++ t.blob.tag) t.state))
    (hstep : walkStep env (.walking h s) = some w) :
    Made start (noted env given h s) w.object := by
  obtain ⟨htaken, bad, requests, hobject⟩
    | ⟨t, s₂, bad, htaken, ⟨requests, hstate⟩, hwrite, hobject⟩ := walkStep_cases hstep
  · rw [noted, htaken, hobject]
    exact ⟨hs.made, hs.known, hs.kept⟩
  · obtain ⟨hfirst, hopens⟩ := hsound t htaken
    have hfiles := files_of_writeBlob hopens hwrite
    have hobjectFiles : w.object.files = s₂.files := by
      rw [hobject]
      exact files_assign _ _
    rw [noted, htaken]
    dsimp only
    rw [hstate, ← hobjectFiles] at hfiles
    obtain ⟨hname, hsame⟩ | ⟨hname, hnew, content, hmore⟩ := hfiles
    · rw [hname]
      exact hs.without hfirst hsame
    · exact hs.new hfirst hname hnew hmore

/-- **What is known in a call**: it is one of `readModuleData`, and one of an
object that no call was made on would be at the same place; and the members and
the files are those of the call. -/
structure Reading (env : ModuleEnv) (start : ModuleMemory) (given : Blob → List Bytes)
    (w : ChunkWalk) : Prop where
  /-- It is at this place of its loop. -/
  call : ∃ h₀ s₀ n, startWalk env start = (some h₀, s₀) ∧ walk env n (.walking h₀ s₀) = some w
  /-- An object without a history would be at the same place. -/
  twin : ∃ m h₀ s₀ n, startWalk env start.fresh = (some h₀, s₀)
    ∧ walk env n (.walking h₀ s₀) = some (w.onto m)
    ∧ Follows start.fresh given (w.onto m).object
  /-- The members are those of the call, … -/
  follows : Follows start given w.object
  /-- … and so are the files. -/
  made : Made start given w.object

theorem startWalk_onto (m : ModuleMemory) :
    startWalk env (onto m s) = ((startWalk env s).1, onto m (startWalk env s).2) := by
  rw [startWalk, startWalk, readChunkHeader_onto]
  generalize readChunkHeader env 0 s = r
  obtain ⟨_ | h, s₁⟩ := r
  · rfl
  · rfl

theorem startWalk_frame (env : ModuleEnv) (s : ModuleMemory) : (startWalk env s).2 = s.asked := by
  have hheader := readChunkHeader_frame env 0 s
  rw [startWalk]
  generalize readChunkHeader env 0 s = r at hheader
  obtain ⟨_ | h, s₁⟩ := r
  · exact hheader
  · exact hheader

/-- An object that no call was made on. -/
theorem fresh_eq_onto (hgood : s.isBadChunk = false) :
    s.fresh = onto { files := s.files } s := by
  rw [fresh, onto, hgood]

theorem follows_nil (s : ModuleMemory) : Follows s (fun _ => []) s where
  filename _ := rfl
  badBlob b := by simp
  jsonFilename := rfl

/-- **In front of the loop.** -/
theorem reading_start (hstart : startWalk env start = (some h, s))
    (hgood : start.isBadChunk = false) : Reading env start (fun _ => []) (.walking h s) := by
  have hs : s = start.asked := by
    rw [← startWalk_frame env start, hstart]
  have hfresh : startWalk env start.fresh = (some h, onto { files := start.files } s) := by
    rw [fresh_eq_onto hgood, startWalk_onto, hstart]
  refine { call := ⟨h, s, 0, hstart, rfl⟩, twin := ⟨_, h, _, 0, hfresh, rfl, ?_⟩,
           follows := ?_, made := ?_ }
  · rw [hs]
    exact (follows_nil start.fresh).of_frame start.isBadChunk (start.requests + 1)
  · rw [hs]
    exact (follows_nil start).of_frame start.isBadChunk (start.requests + 1)
  · rw [hs]
    refine ⟨fun b name hhead => ?_, fun name hnone hsome => ?_, fun name hsome => hsome⟩
    · cases hhead
    · change (start.files name).isSome at hsome
      rw [hnone] at hsome
      cases hsome

/-- **A round.** -/
theorem Reading.walkStep {w : ChunkWalk} (hr : Reading env start given (.walking h s))
    (hsound : ∀ t ∈ taken env h s, (∀ name ∈ given t.blob, name = [])
      ∧ (IsBlob t.blob t.buffer t.length → Opens env (ascii "adi_tof_" ++ t.blob.tag) t.state))
    (hstep : walkStep env (.walking h s) = some w) :
    Reading env start (noted env given h s) w := by
  obtain ⟨⟨h₀, s₀, n, hstart, hwalk⟩, ⟨m, h₁, s₁, k, hfresh, htwin, hfollows⟩, hs, hmade⟩ := hr
  obtain ⟨m', hm'⟩ := walkStep_onto env m (.walking h s)
  rw [hstep, Option.map_some] at hm'
  refine { call := ⟨h₀, s₀, n + 1, hstart, ?_⟩, twin := ⟨m', h₁, s₁, k + 1, hfresh, ?_, ?_⟩,
           follows := hs.walkStep hstep, made := hmade.walkStep hsound hstep }
  · rw [walk_add, hwalk, Option.bind_some, walk, hstep]
    rfl
  · rw [walk_add, htwin, Option.bind_some, walk, hm']
    rfl
  · rw [← noted_onto m]
    exact hfollows.walkStep hm'

/-! ## The way out

There are three ways out, by the two flags and by whether there is a JSON file,
and each removes other files. What is left behind a removal was there before.
The three lemmas (`Reading.finish_both`, `Reading.finish_nil`,
`Reading.finish_ne`) are about one way out each, and each uses its own part of
the condition. -/

/-- A file is removed, or its removal fails. -/
theorem files_remove (name : Bytes) :
    (remove env name s).files
      = if env.removes s.requests = true then Function.update s.files name none
        else s.files := by
  rw [remove]
  split_ifs <;> rfl

theorem requests_remove (name : Bytes) : (remove env name s).requests = s.requests + 1 := by
  rw [remove]
  split_ifs <;> rfl

theorem ccbFilename_remove (name : Bytes) :
    (remove env name s).ccbFilename = s.ccbFilename := by
  rw [remove]
  split_ifs <;> rfl

theorem cfgFilename_remove (name : Bytes) :
    (remove env name s).cfgFilename = s.cfgFilename := by
  rw [remove]
  split_ifs <;> rfl

theorem jsonFilename_remove (name : Bytes) :
    (remove env name s).jsonFilename = s.jsonFilename := by
  rw [remove]
  split_ifs <;> rfl

/-- Without a blob that is good, no JSON file is made. -/
theorem finishWalk_of_both (env : ModuleEnv) (hboth : s.badCcb = true ∧ s.badCfg = true)
    (hout : s.isBadChunk = true ∨ s.jsonFilename = []) :
    finishWalk env s = (none, remove env s.cfgFilename (remove env s.ccbFilename s)) := by
  have hnone : ¬ (s.badCcb = false ∨ s.badCfg = false) := by
    rw [hboth.1, hboth.2]
    decide
  rw [finishWalk, if_neg hnone]
  dsimp only
  rw [if_pos hout, if_pos hboth]

/-- What is behind the JSON file, if there is to be one. -/
theorem finishWalk_of_made {name : Bytes} {s₁ : ModuleMemory}
    (hmade : s.badCcb = false ∨ s.badCfg = false) (hwrite : writeTempJson env s = (name, s₁))
    (hcfg : s₁.badCfg = s.badCfg) (hccb : s₁.badCcb = s.badCcb)
    (hbad : s₁.isBadChunk = s.isBadChunk) :
    finishWalk env s
      = if s.isBadChunk = true ∨ name = [] then
          if s.badCfg = true then
            (some { jsonFile := name, ccbFile := s₁.ccbFilename, cfgFile := s₁.cfgFilename },
              remove env s₁.cfgFilename { s₁ with jsonFilename := name })
          else if s.badCcb = true then
            (some { jsonFile := name, ccbFile := s₁.ccbFilename, cfgFile := s₁.cfgFilename },
              remove env s₁.ccbFilename { s₁ with jsonFilename := name })
          else
            (none, remove env s₁.cfgFilename
              (remove env s₁.ccbFilename { s₁ with jsonFilename := name }))
        else
          (some { jsonFile := name, ccbFile := s₁.ccbFilename, cfgFile := s₁.cfgFilename },
            { s₁ with jsonFilename := name }) := by
  have hboth : ¬ (s.badCcb = true ∧ s.badCfg = true) := by
    rintro ⟨hccb, hcfg⟩
    rw [hccb, hcfg] at hmade
    exact absurd hmade (by decide)
  unfold finishWalk
  simp only [if_pos hmade, hwrite, hcfg, hccb, hbad, if_neg hboth, ccbFilename_remove,
    cfgFilename_remove, jsonFilename_remove]

/-- There is no JSON file, and no blob is known to be bad. -/
theorem finishWalk_of_nil (hccb : s.badCcb = false) (hcfg : s.badCfg = false)
    (hnil : (getTempFilename env (ascii "adi_tof_cfgjson") s).1 = []) :
    ∃ s₁, s₁.files = s.files ∧ s₁.requests = s.requests + 2
      ∧ finishWalk env s = (none, remove env s.cfgFilename (remove env s.ccbFilename s₁)) := by
  refine ⟨{ s.asked.asked with jsonFilename := [] }, rfl, rfl, ?_⟩
  have hwrite : writeTempJson env s = ([], s.asked.asked) := newFile_of_nil hnil _
  rw [finishWalk_of_made (.inl hccb) hwrite rfl rfl rfl, if_pos (.inr rfl),
    if_neg (by rw [hcfg]; decide), if_neg (by rw [hccb]; decide)]
  rfl

/-- **The files are handed out**; if a chunk was bad, that of the bad blob is
removed. -/
theorem finishWalk_of_ne (hnot : ¬ (s.badCcb = true ∧ s.badCfg = true))
    (hne : (getTempFilename env (ascii "adi_tof_cfgjson") s).1 ≠ [])
    (hopens : env.opens (s.requests + 1) = true)
    (hflagged : s.isBadChunk = true → s.badCcb = true ∨ s.badCfg = true) :
    ∃ s₁, s₁.files = Function.update s.files (getTempFilename env (ascii "adi_tof_cfgjson") s).1
        (some ((jsonText s.ccbFilename s.cfgFilename).take
          ((jsonText s.ccbFilename s.cfgFilename).length - env.loses (s.requests + 1))))
      ∧ s₁.requests = s.requests + 2
      ∧ (finishWalk env s).1 = some
          { jsonFile := (getTempFilename env (ascii "adi_tof_cfgjson") s).1,
            ccbFile := s.ccbFilename, cfgFile := s.cfgFilename }
      ∧ ((finishWalk env s).2 = s₁ ∨ s.isBadChunk = true ∧ ∃ b, s.badBlob b = true
          ∧ (finishWalk env s).2 = remove env (s.filename b) s₁) := by
  have hmade : s.badCcb = false ∨ s.badCfg = false := by
    cases hccb : s.badCcb
    · exact .inl rfl
    · cases hcfg : s.badCfg
      · exact .inr rfl
      · exact absurd ⟨hccb, hcfg⟩ hnot
  have hwrite : writeTempJson env s = _ := newFile_of_ne hne hopens _
  generalize (getTempFilename env (ascii "adi_tof_cfgjson") s).1 = name at hne hwrite ⊢
  rw [finishWalk_of_made hmade hwrite rfl rfl rfl]
  let s₁ : ModuleMemory := { s.asked.asked.setFile name
    (some ((jsonText s.ccbFilename s.cfgFilename).take
      ((jsonText s.ccbFilename s.cfgFilename).length - env.loses (s.requests + 1)))) with
    jsonFilename := name }
  refine ⟨s₁, rfl, rfl, ?_⟩
  split_ifs with hout hcfg hccb
  · have hbad : s.isBadChunk = true := hout.resolve_right hne
    exact ⟨rfl, .inr ⟨hbad, .cfg, hcfg, rfl⟩⟩
  · have hbad : s.isBadChunk = true := hout.resolve_right hne
    exact ⟨rfl, .inr ⟨hbad, .ccb, hccb, rfl⟩⟩
  · exact absurd (hflagged (hout.resolve_right hne)) (not_or.mpr ⟨hccb, hcfg⟩)
  · exact ⟨rfl, .inl rfl⟩

/-- What is there behind a removal was there before, and is not what was
removed. -/
theorem isSome_files_remove {name other : Bytes}
    (hsome : ((remove env name s).files other).isSome) :
    (s.files other).isSome ∧ ¬ (other = name ∧ env.removes s.requests = true) := by
  rw [files_remove] at hsome
  split_ifs at hsome with hremoves
  · by_cases heq : other = name
    · rw [heq, Function.update_self] at hsome
      cases hsome
    · rw [Function.update_of_ne heq] at hsome
      exact ⟨hsome, fun h => heq h.1⟩
  · exact ⟨hsome, fun h => hremoves h.2⟩

/-- Another file stays. -/
theorem files_remove_of {name other : Bytes}
    (h : other ≠ name ∨ env.removes s.requests = false) :
    (remove env name s).files other = s.files other := by
  rw [files_remove]
  split_ifs with hremoves
  · rw [Function.update_of_ne (h.resolve_right (by rw [hremoves]; decide))]
  · rfl

theorem filename_of_head (hs : Follows start given s) {b : Blob} {name : Bytes}
    (hhead : (given b).head? = some name) : s.filename b = name := by
  rw [hs.filename, hhead]
  rfl

/-- **Nothing is left of the call** when its two files are removed. -/
theorem files_of_removes (hs : Follows start given s) (hmade : Made start given s)
    {s₁ : ModuleMemory} (hfiles : s₁.files = s.files)
    (hremoves : Removes env given s s₁.requests) {name : Bytes}
    (hnone : start.files name = none) :
    (remove env s.cfgFilename (remove env s.ccbFilename s₁)).files name = none := by
  by_contra hsome
  obtain ⟨hsome, hcfg⟩ := isSome_files_remove (Option.isSome_iff_ne_none.mpr hsome)
  obtain ⟨hsome, hccb⟩ := isSome_files_remove hsome
  rw [hfiles] at hsome
  obtain ⟨hname, b, hhead⟩ := hmade.known name hnone hsome
  have hgiven : given b ≠ [] := fun hnil => by
    rw [hnil] at hhead
    cases hhead
  have hfilename := filename_of_head hs hhead
  rw [← hfilename] at hname hccb hcfg
  cases b with
  | ccb => exact hccb ⟨rfl, hremoves.1 hgiven hname⟩
  | cfg =>
    rw [requests_remove] at hcfg
    exact hcfg ⟨rfl, hremoves.2 hgiven hname⟩

/-- The flags of the call are those of a new object. -/
theorem badBlob_of_flags (hflags : ∀ b, start.badBlob b = true → [] ∈ given b)
    (hs : Follows start given s) (hs' : Follows start.fresh given s') (b : Blob) :
    s'.badBlob b = s.badBlob b := by
  have hfresh : start.fresh.badBlob b = false := by cases b <;> rfl
  rw [hs'.badBlob, hs.badBlob, hfresh]
  cases hflag : start.badBlob b with
  | false => rfl
  | true => simp [hflags b hflag]

/-- A name that is of the call is that of a new object's. -/
theorem filename_of_own (hown : ∀ b, given b ≠ [] ∨ start.filename b = [])
    (hs : Follows start given s) (hs' : Follows start.fresh given s') (b : Blob) :
    s'.filename b = s.filename b := by
  have hfresh : start.fresh.filename b = [] := by cases b <;> rfl
  rw [hs'.filename, hs.filename, hfresh]
  cases hgiven : given b with
  | nil => exact ((hown b).resolve_left (not_not_intro hgiven)).symm
  | cons name names => rfl

/-- It is that of a file of the call. -/
theorem made_of_own (hs : Follows start given s) (hmade : Made start given s) {b : Blob}
    (hown : given b ≠ [] ∨ start.filename b = []) (hne : s.filename b ≠ []) :
    start.files (s.filename b) = none ∧ (s.files (s.filename b)).isSome := by
  rw [hs.filename b] at hne ⊢
  cases hgiven : given b with
  | nil =>
    rw [hgiven] at hne
    exact absurd (hown.resolve_left (not_not_intro hgiven)) hne
  | cons name names =>
    rw [hgiven] at hne
    exact hmade.made b name (by rw [hgiven]; rfl) hne

/-- A call that is over is one of `readModuleData`. -/
theorem readModuleData_of_walk {n : ℕ} {s₀ : ModuleMemory}
    (hstart : startWalk env start = (some h, s₀))
    (hwalk : walk env n (.walking h s₀) = some (.left s)) :
    readModuleData env n start = some (finishWalk env s) := by
  rw [readModuleData, hstart]
  dsimp only
  rw [hwalk]

/-- **The way out of a call that is told from a new object's** by its result. -/
theorem Reading.honours (hr : Reading env start given (.left s))
    (hremoved : (finishWalk env s).1 = none →
      ∀ name, start.files name = none → (finishWalk env s).2.files name = none)
    (hjson : ∀ r ∈ (finishWalk env s).1, start.files r.jsonFile = none
      ∧ ∃ text, (finishWalk env s).2.files r.jsonFile = some text ∧ Utf8.Valid text
        ∧ Json.object text = some (named r.ccbFile r.cfgFile))
    (hwritten : ∀ r ∈ (finishWalk env s).1, ∀ b, handedOut r b ≠ [] →
      start.files (handedOut r b) = none ∧ ((finishWalk env s).2.files (handedOut r b)).isSome)
    (hfresh : ∀ m, Follows start.fresh given (onto m s) →
      (finishWalk env (onto m s)).1 = (finishWalk env s).1) :
    Honours env start (finishWalk env s).1 (finishWalk env s).2 := by
  obtain ⟨⟨h₀, s₀, n, hstart, hwalk⟩, ⟨m, h₁, s₁, k, hstart', htwin, hfollows⟩, -, -⟩ := hr
  exact { returned := ⟨n, readModuleData_of_walk hstart hwalk⟩,
          removed := hremoved, json := hjson, written := hwritten,
          fresh := ⟨k, _, by
            rw [readModuleData_of_walk hstart' htwin, ← hfresh m hfollows]⟩ }

/-- Both blobs are bad. -/
theorem Reading.finish_both (hr : Reading env start given (.left s))
    (hflags : ∀ b, start.badBlob b = true → [] ∈ given b)
    (hboth : s.badCcb = true ∧ s.badCfg = true)
    (hout : s.isBadChunk = true ∨ start.jsonFilename = [])
    (hremoves : Removes env given s s.requests) :
    Honours env start (finishWalk env s).1 (finishWalk env s).2 := by
  have hfinish := finishWalk_of_both env hboth
    (hout.imp_right fun h => hr.follows.jsonFilename.trans h)
  refine hr.honours (fun _ name hnone => ?_) (fun r hmem => ?_) (fun r hmem => ?_)
    fun m hfresh => ?_
  · rw [hfinish]
    exact files_of_removes hr.follows hr.made rfl hremoves hnone
  · rw [hfinish] at hmem
    cases hmem
  · rw [hfinish] at hmem
    cases hmem
  · have hflagged := badBlob_of_flags hflags hr.follows hfresh
    have hboth' := And.intro ((hflagged .ccb).trans hboth.1) ((hflagged .cfg).trans hboth.2)
    rw [hfinish, finishWalk_of_both env hboth' (.inr hfresh.jsonFilename)]

/-- There is no JSON file. -/
theorem Reading.finish_nil (hr : Reading env start given (.left s))
    (hflags : ∀ b, start.badBlob b = true → [] ∈ given b)
    (hnil : (getTempFilename env (ascii "adi_tof_cfgjson") s).1 = [])
    (hccb : s.badCcb = false) (hcfg : s.badCfg = false)
    (hremoves : Removes env given s (s.requests + 2)) :
    Honours env start (finishWalk env s).1 (finishWalk env s).2 := by
  obtain ⟨s₁, hfiles, hrequests, hfinish⟩ := finishWalk_of_nil hccb hcfg hnil
  refine hr.honours (fun _ name hnone => ?_) (fun r hmem => ?_) (fun r hmem => ?_)
    fun m hfresh => ?_
  · rw [hfinish]
    exact files_of_removes hr.follows hr.made hfiles (hrequests ▸ hremoves) hnone
  · rw [hfinish] at hmem
    cases hmem
  · rw [hfinish] at hmem
    cases hmem
  · have hflagged := badBlob_of_flags hflags hr.follows hfresh
    have hnil' : (getTempFilename env (ascii "adi_tof_cfgjson") (onto m s)).1 = [] := by
      rw [getTempFilename_onto]
      exact hnil
    obtain ⟨s₂, -, -, hfinish'⟩ := finishWalk_of_nil ((hflagged .ccb).trans hccb)
      ((hflagged .cfg).trans hcfg) hnil'
    rw [hfinish, hfinish']

/-- The files are handed out. -/
theorem Reading.finish_ne (hr : Reading env start given (.left s))
    (hflags : ∀ b, start.badBlob b = true → [] ∈ given b)
    (hnot : ¬ (s.badCcb = true ∧ s.badCfg = true))
    (hne : (getTempFilename env (ascii "adi_tof_cfgjson") s).1 ≠ [])
    (hwhole : Whole env start given s) :
    Honours env start (finishWalk env s).1 (finishWalk env s).2 := by
  have hfollows : Follows start given s := hr.follows
  have hmade : Made start given s := hr.made
  obtain ⟨s₁, hfiles, hrequests, hresult, hend⟩ :=
    finishWalk_of_ne hnot hne hwhole.opens hwhole.flagged
  obtain ⟨hnew, -⟩ := getTempFilename_of_ne hne
  have htemp : ∀ m, (getTempFilename env (ascii "adi_tof_cfgjson") (onto m s)).1
      = (getTempFilename env (ascii "adi_tof_cfgjson") s).1 := fun m => by
    rw [getTempFilename_onto]
  rw [hwhole.keeps, Nat.sub_zero, List.take_length] at hfiles
  generalize (getTempFilename env (ascii "adi_tof_cfgjson") s).1 = name at *
  -- what is removed is no file of the call
  have hlast : ∀ other, other ≠ [] → (finishWalk env s).2.files other = s₁.files other := by
    intro other hother
    obtain hsame | ⟨hbad, b, hflag, hremove⟩ := hend
    · rw [hsame]
    · rw [hremove]
      refine files_remove_of ?_
      rw [hrequests]
      refine (hwhole.dropped hbad b hflag).imp_left fun hnil => ?_
      rw [hnil]
      exact hother
  have hstart : start.files name = none := by
    by_contra hsome
    have hkept := hmade.kept name (Option.isSome_iff_ne_none.mpr hsome)
    rw [hnew] at hkept
    cases hkept
  refine hr.honours (fun hnone => ?_) (fun r hmem => ?_) (fun r hmem b hb => ?_) fun m hfresh => ?_
  · rw [hresult] at hnone
    cases hnone
  · rw [hresult] at hmem
    cases hmem
    refine ⟨hstart, jsonText s.ccbFilename s.cfgFilename, ?_, ?_, ?_⟩
    · rw [hlast name hne, hfiles, Function.update_self]
    · exact valid_jsonText (hwhole.writable .ccb).1.spaced (hwhole.writable .cfg).1.spaced
        (hwhole.writable .ccb).2 (hwhole.writable .cfg).2
    · exact object_jsonText hwhole.names (hwhole.writable .ccb).1 (hwhole.writable .cfg).1
  · rw [hresult] at hmem
    cases hmem
    rw [show handedOut _ b = s.filename b by cases b <;> rfl] at hb ⊢
    obtain ⟨hstartNone, hsome⟩ := made_of_own hfollows hmade (hwhole.own b) hb
    have hother : s.filename b ≠ name := fun heq => by
      rw [heq, hnew] at hsome
      cases hsome
    rw [hlast _ hb, hfiles, Function.update_of_ne hother]
    exact ⟨hstartNone, hsome⟩
  · have hflagged := badBlob_of_flags hflags hfollows hfresh
    have hfilename := filename_of_own hwhole.own hfollows hfresh
    have hnot' : ¬ ((onto m s).badCcb = true ∧ (onto m s).badCfg = true) := fun h =>
      hnot ⟨(hflagged .ccb).symm.trans h.1, (hflagged .cfg).symm.trans h.2⟩
    have hne' : (getTempFilename env (ascii "adi_tof_cfgjson") (onto m s)).1 ≠ [] := by
      rw [htemp]
      exact hne
    obtain ⟨_, -, -, hresult', -⟩ := finishWalk_of_ne hnot' hne' hwhole.opens
      fun hbad => (hwhole.flagged hbad).imp (hflagged .ccb).trans (hflagged .cfg).trans
    rw [hresult, hresult', htemp, show (onto m s).ccbFilename = s.ccbFilename from hfilename .ccb,
      show (onto m s).cfgFilename = s.cfgFilename from hfilename .cfg]

/-- **Every way out.** -/
theorem Reading.finish (hr : Reading env start given (.left s))
    (hleaves : Leaves env start given s) :
    Honours env start (finishWalk env s).1 (finishWalk env s).2 := by
  obtain ⟨hflags, hout⟩ := hleaves
  split_ifs at hout with hboth hnil
  · exact hr.finish_both hflags hboth hout.1 hout.2
  · exact hr.finish_nil hflags hnil hout.1 hout.2.1 hout.2.2
  · exact hr.finish_ne hflags hboth hnil hout

/-! ## Runs

The run is one of calls, with the steps of each in between. That every call of
`readModuleData` as a function is such a run, and ends with what the function
returns, is shown as well, so that the contract is about that function. -/

/-- What is in front of the loop depends on the number of requests only. -/
theorem startWalk_fresh (env : ModuleEnv) (s : ModuleMemory) :
    (startWalk env s.fresh).1 = (startWalk env s).1 := by
  have hheader : (readChunkHeader env 0 s.fresh).1 = (readChunkHeader env 0 s).1 := by
    have hrequests : s.fresh.requests = s.requests := rfl
    rw [readChunkHeader, readChunkHeader, eepromRead, eepromRead, hrequests]
    split_ifs
    · rfl
    · rfl
  have hfst : ∀ x : ModuleMemory, (startWalk env x).1 = (readChunkHeader env 0 x).1.bind fun h =>
      if h.chunktype = chunkTypeFileHeader ∧ h.nextChunkAddress ≠ 0 then some h else none := by
    intro x
    rw [startWalk]
    generalize readChunkHeader env 0 x = r
    obtain ⟨_ | h, s₁⟩ := r
    · rfl
    · rfl
  rw [hfst, hfst, hheader]

/-- A call that does not come to its loop. -/
theorem honours_of_none (hstart : (startWalk env start).1 = none) :
    Honours env start none (startWalk env start).2 := by
  have hreturned : ∀ {x : ModuleMemory}, (startWalk env x).1 = none →
      readModuleData env 0 x = some (none, (startWalk env x).2) := fun {x} h => by
    rw [readModuleData]
    generalize startWalk env x = r at h
    obtain ⟨_ | h', s₁⟩ := r
    · rfl
    · cases h
  refine { returned := ⟨0, hreturned hstart⟩, removed := fun _ name hnone => ?_,
           json := fun r hmem => absurd hmem (Option.not_mem_none r),
           written := fun r hmem => absurd hmem (Option.not_mem_none r),
           fresh := ⟨0, _, hreturned ((startWalk_fresh env start).trans hstart)⟩ }
  rw [startWalk_frame]
  exact hnone

/-- **What holds in every state**: of the last call, and of the one that goes
on. -/
def CallState.Invariant : CallState → Prop
  | .idle s last => (CallState.idle s last).Honoured
  | .reading env start given w => Reading env start given w

theorem CallState.Invariant.step {st st' : CallState} {a : CallStep} (hst : st.Invariant)
    (hsound : Sound st a) (hstep : calls st a = some st') : st'.Invariant := by
  cases st with
  | idle s last =>
    cases a with
    | call env =>
      rw [calls] at hstep
      split at hstep
      · next h s' hstart =>
        cases hstep
        refine reading_start hstart (hsound.resolve_left ?_)
        rw [hstart]
        exact Option.some_ne_none h
      · next s' hstart =>
        cases hstep
        have hnone := honours_of_none (congrArg Prod.fst hstart)
        rw [hstart] at hnone
        exact hnone
    | meanwhile files serialNumber requests =>
      cases hstep
      exact trivial
    | round => cases hstep
    | finish => cases hstep
  | reading env start given w =>
    cases w with
    | walking h s =>
      cases a with
      | round =>
        obtain ⟨w, hw, rfl⟩ := Option.map_eq_some_iff.mp hstep
        exact Reading.walkStep hst hsound hw
      | call env => cases hstep
      | finish => cases hstep
      | meanwhile files serialNumber requests => cases hstep
    | left s =>
      cases a with
      | finish =>
        cases hstep
        exact Reading.finish hst hsound
      | call env => cases hstep
      | round => cases hstep
      | meanwhile files serialNumber requests => cases hstep

theorem CallState.Invariant.honoured {st : CallState} (hst : st.Invariant) : st.Honoured := by
  cases st with
  | idle s last => exact hst
  | reading env start given w => exact trivial

/-- **Every call keeps its promises**, in a run on one object the steps of which
all are sound.

The run is of any number of calls, each with an EEPROM, answers and a serial
number of its own, and the steps of a call are the rounds of its loop and its
end. So a condition can be one on the round that comes next: it looks at the
chunk which is about to be read and at what the object has kept, and at nothing
that is still to be computed. -/
theorem honours_of_run {s : ModuleMemory} {steps : List CallStep} {st : CallState}
    (hrun : Machine.Run calls Sound (.idle s none) steps st) : st.Honoured :=
  (hrun.invariant (fun _ _ _ hst hsound hstep => hst.step hsound hstep)
    (show CallState.Invariant (.idle s none) from trivial)).honoured

/-- The rounds of a call. -/
theorem run_of_walk (env : ModuleEnv) (start : ModuleMemory) {n : ℕ} {s₁ : ModuleMemory}
    (given : Blob → List Bytes) (hwalk : walk env n (.walking h s) = some (.left s₁)) :
    ∃ steps given', Machine.Run calls Machine.always
      (.reading env start given (.walking h s)) steps (.reading env start given' (.left s₁)) := by
  induction n generalizing h s given with
  | zero => cases hwalk
  | succ n ih =>
    obtain ⟨w, hstep, hrest⟩ := Option.bind_eq_some_iff.mp hwalk
    have hround : calls (.reading env start given (.walking h s)) .round
        = some (.reading env start (noted env given h s) w) := by
      rw [calls, hstep]
      rfl
    cases w with
    | left s₂ =>
      rw [walk_left] at hrest
      cases hrest
      exact ⟨[.round], _, Machine.Run.cons trivial hround (Machine.Run.nil _)⟩
    | walking h' s' =>
      obtain ⟨steps, given', hrun⟩ := ih (noted env given h s) hrest
      exact ⟨.round :: steps, given', Machine.Run.cons trivial hround hrun⟩

/-- **Every call of `readModuleData` is a run.** -/
theorem run_of_readModuleData {n : ℕ} {result : Option ModuleFiles}
    (hread : readModuleData env n start = some (result, s)) (last : Option ReadCall) :
    ∃ steps, Machine.Run calls Machine.always (.idle start last) steps
      (.idle s (some ⟨env, start, result⟩)) := by
  rw [readModuleData] at hread
  split at hread
  · next s₀ hstart =>
    cases hread
    refine ⟨[.call env], Machine.Run.cons trivial ?_ (Machine.Run.nil _)⟩
    rw [calls, hstart]
  · next h s₀ hstart =>
    split at hread
    · next s₁ hwalk =>
      obtain ⟨steps, given, hrun⟩ := run_of_walk env start (fun _ => []) hwalk
      have hfinish : calls (.reading env start given (.left s₁)) .finish
          = some (.idle s (some ⟨env, start, result⟩)) := by
        rw [calls, Option.some.inj hread]
      refine ⟨.call env :: (steps ++ [.finish]),
        Machine.Run.cons trivial ?_ (hrun.snoc trivial hfinish)⟩
      rw [calls, hstart]
    · cases hread

/-! ## Two contents of the EEPROM

The first shows a promise that is broken by a new object in its first call. The
second is a module that is read twice, with both calls keeping their promises;
it has a CFG file and no CCB, so that one of the flags is set each time. -/

/-- A module of which only the header was written. -/
def headerEnv : ModuleEnv := { goodEnv with eeprom := fileHeader.encode }

/-- **The JSON file stays**, though the call ends with an error: there is no chunk
where the first one is to be. -/
theorem not_honoured_header :
    ¬ ∀ (s : ModuleMemory) (steps : List CallStep) (st : CallState), s = s.fresh →
      Machine.Run calls Machine.always (.idle s none) steps st → st.Honoured := by
  intro h
  have hread : (readModuleData headerEnv 2 { files := fun _ => none }).map
      (fun r => (r.1.isNone, (r.2.files (List.replicate 3 97)).isSome)) = some (true, true) := by
    decide +kernel
  obtain ⟨⟨result, s⟩, hcall, hend⟩ := Option.map_eq_some_iff.mp hread
  obtain ⟨hnone, hsome⟩ := Prod.mk.inj hend
  obtain ⟨steps, hrun⟩ := run_of_readModuleData hcall none
  have hhonours : Honours headerEnv { files := fun _ => none } result s := h _ steps _ rfl hrun
  rw [hhonours.removed (Option.isNone_iff_eq_none.mp hnone) _ rfl] at hsome
  cases hsome

/-- A module with a CFG file of 20 bytes, and no CCB. -/
def cfgEnv : ModuleEnv :=
  { goodEnv with eeprom := fileHeader.encode
      ++ chunkBytes (initChunkHeader chunkTypeCfg 20 20 true) (zeroCfg 16) }

/-- The module is read twice by one object, with a CFG file in it and no CCB. -/
theorem honours_of_run_cfg : ∃ st,
    Machine.Run calls Sound (.idle { files := fun _ => none } none)
        [.call cfgEnv, .round, .round, .finish, .call cfgEnv, .round, .round, .finish] st
      ∧ st.Honoured := by
  have hrun : (Machine.execOk calls Sound (.idle { files := fun _ => none } none)
      [.call cfgEnv, .round, .round, .finish, .call cfgEnv, .round, .round, .finish]).isSome := by
    decide +kernel
  obtain ⟨st, hst⟩ := Option.isSome_iff_exists.mp hrun
  exact ⟨st, Machine.run_of_execOk hst, honours_of_run (Machine.run_of_execOk hst)⟩

end ModuleMemory
