import Mathlib.Data.FinEnum
import TofNet.Chase
import TofNet.ModuleBounds

/-!
# The chain of chunks

The loop of `readModuleData` goes from a chunk to the next by the address in
its header. Each header is checked for its own sake, by its checksum, and
nothing keeps an address from being that of a chunk in front of it. So the loop
has no end where the chain comes back to a chunk.

`behind` is the chain as the bytes of the EEPROM have it, without a failure.
Failures cut it short and never make it longer, which is why
`ends_iff_chainEnds` can say for which contents there is always an end.
-/

namespace ModuleMemory

/-! ## What the bytes of the EEPROM say

An address is a number below the size of the EEPROM, so there are finitely many,
and the chain is a case of `Chase`: it ends, or an address comes twice. Whether
the loop goes on behind a chunk is a matter of the bytes, as long as nothing
fails: the chunk has to be of a type that is known, with a checksum that is
right where one is looked at. -/

/-- The header at an address, if its checksum is right. An address that leaves
no room for a header has none. -/
def headerAt (eeprom : Bytes) (address : UInt32) : Option ChunkHeader :=
  if eeprom.length < address.toNat + chunkHeaderSize then none
  else if verifyChunkHeader (slice address.toNat chunkHeaderSize eeprom) then
    some (ChunkHeader.decode (slice address.toNat chunkHeaderSize eeprom))
  else none

/-- The data behind that header. -/
def dataAt (eeprom : Bytes) (address : UInt32) (h : ChunkHeader) : Option Bytes :=
  if eeprom.length < (address + h.headerSizeBytes).toNat + h.chunkSizeBytes.toNat then none
  else some (slice (address + h.headerSizeBytes).toNat h.chunkSizeBytes.toNat eeprom)

/-- The chunks that have no checksum, of which the data are not read. -/
def Unread (h : ChunkHeader) : Prop :=
  h.chunktype = chunkTypeFirmwareCurrentHeader ∨ h.chunktype = chunkTypeInitFirmwareHeader

/-- The chunks that are passed over where they are bad. -/
def Upgrade (h : ChunkHeader) : Prop :=
  h.chunktype = chunkTypeFirmwareFactoryHeader ∨ h.chunktype = chunkTypeFirmwareUpgradeHeader

/-- The types of `processNVMFirmware`. -/
def Known (h : ChunkHeader) : Prop :=
  h.chunktype = chunkTypeCcb
    ∨ (h.chunktype = chunkTypeCfg ∨ h.chunktype = chunkTypeImagerFactoryHeader)
    ∨ h.chunktype ∈ ignoredChunkTypes

instance (h : ChunkHeader) : Decidable (Unread h) := inferInstanceAs (Decidable (_ ∨ _))

instance (h : ChunkHeader) : Decidable (Upgrade h) := inferInstanceAs (Decidable (_ ∨ _))

instance (h : ChunkHeader) : Decidable (Known h) := inferInstanceAs (Decidable (_ ∨ _ ∨ _))

instance (buffer : Bytes) (payload : ℕ) : Decidable (CrcOk buffer payload) :=
  inferInstanceAs (Decidable (_ ∨ _))

/-- The loop has nothing against a chunk. -/
def Good (h : ChunkHeader) (buffer : Bytes) : Prop :=
  Upgrade h ∨ (CrcOk buffer (h.chunkSizeBytes.toNat - 4) ∧ Known h)

instance (h : ChunkHeader) (buffer : Bytes) : Decidable (Good h buffer) :=
  inferInstanceAs (Decidable (_ ∨ _))

/-- The address of a next chunk, where there is one. -/
def nextOf (h : ChunkHeader) : Option UInt32 :=
  if h.nextChunkAddress = 0 then none else some h.nextChunkAddress

/-- **The chunk behind the one at an address**: none where the loop ends there.
This is a function of the bytes, so where the loop comes to an address a second
time it goes on as it did the first time. -/
def behind (eeprom : Bytes) (address : UInt32) : Option UInt32 :=
  (headerAt eeprom address).bind fun h =>
    if h.chunkSizeBytes = 0 then none
    else if Unread h then nextOf h
    else (dataAt eeprom address h).bind fun buffer => if Good h buffer then nextOf h else none

/-- The first chunk. -/
def firstOf (eeprom : Bytes) : Option UInt32 :=
  (headerAt eeprom 0).bind fun h => if h.chunktype = chunkTypeFileHeader then nextOf h else none

/-- **The chain ends**: no address comes twice in it, and each chunk has what it
needs for the loop to have a result. The second is about chunks whose strings,
or fields, are not inside of them: reading on behind them has no result. -/
structure ChainEnds (eeprom : Bytes) : Prop where
  /-- No address comes twice. -/
  once : ¬ Chase.ComesBack (behind eeprom) (firstOf eeprom)
  /-- Each chunk of the chain has what it needs. -/
  bounded : ∀ n address h buffer, Chase.after (behind eeprom) n (firstOf eeprom) = some address →
    headerAt eeprom address = some h → h.chunkSizeBytes ≠ 0 → ¬ Unread h →
      dataAt eeprom address h = some buffer → Bounded h buffer

/-- **`readModuleData` has a result.** -/
def Ends (env : ModuleEnv) (s : ModuleMemory) : Prop := ∃ n r, readModuleData env n s = some r

variable {env : ModuleEnv} {s s' : ModuleMemory} {h h' : ChunkHeader} {buffer : Bytes}
  {address : UInt32}

/-! ## What is read is there

If a request of the loop is answered, what it gives is what the bytes say. Each
request is numbered, as the failures are, and a chunk takes two. -/

/-- What a read gives is what is there. -/
theorem eepromRead_some {size : ℕ} {bs : Bytes}
    (hread : eepromRead env address.toNat size s = (some bs, s')) :
    ¬ env.eeprom.length < address.toNat + size ∧ bs = slice address.toNat size env.eeprom := by
  rw [eepromRead] at hread
  split at hread
  · cases hread
  · next hroom =>
    obtain ⟨hbs, -⟩ := Prod.mk.inj hread
    exact ⟨fun hlt => hroom (.inr hlt), (Option.some.inj hbs).symm⟩

/-- Reading a chunk with its data takes two requests more than it had made. -/
theorem readChunk_frame (hread : readChunk env address s = .chunk h buffer s') :
    ∃ requests, s' = { s with requests := requests } := by
  rw [readChunk] at hread
  split at hread
  · cases hread
  · next h₁ s₁ heq =>
    have hs₁ : s₁ = s.asked := by
      rw [readChunkHeader] at heq
      split at heq
      · next hbytes => exact (Prod.mk.inj heq).2.symm.trans (Prod.mk.inj hbytes).2.symm
      · cases heq
    rw [readChunkData, hs₁] at hread
    split at hread
    · cases hread
    split at hread
    · cases hread
    split at hread
    · cases hread
    split at hread
    · next hbytes =>
      cases hread
      exact ⟨_, (Prod.mk.inj hbytes).2.symm⟩
    · cases hread

/-- So a header that is read is the header at its address. -/
theorem headerAt_of_read (hread : readChunkHeader env address s = (some h, s')) :
    headerAt env.eeprom address = some h := by
  rw [readChunkHeader] at hread
  split at hread
  · next bs s₁ heq =>
    obtain ⟨hroom, rfl⟩ := eepromRead_some heq
    obtain ⟨hheader, -⟩ := Prod.mk.inj hread
    rw [headerAt, if_neg hroom, hheader]
  · cases hread

/-- **A chunk that is read is in the EEPROM**, and it is one with data. A
failure can only have it not read. -/
theorem chunk_of_readChunk (hread : readChunk env address s = .chunk h buffer s') :
    headerAt env.eeprom address = some h ∧ h.chunkSizeBytes ≠ 0 ∧ ¬ Unread h
      ∧ dataAt env.eeprom address h = some buffer := by
  rw [readChunk] at hread
  split at hread
  · cases hread
  · next h₁ s₁ heq =>
    rw [readChunkData] at hread
    split at hread
    · cases hread
    · next hsize =>
      split at hread
      · cases hread
      · split at hread
        · cases hread
        · next hunread =>
          split at hread
          · next bs s₂ hdata =>
            cases hread
            obtain ⟨hroom, rfl⟩ := eepromRead_some hdata
            exact ⟨headerAt_of_read heq, fun hzero => hsize (.inr hzero), hunread,
              by rw [dataAt, if_neg hroom]⟩
          · cases hread

/-- A chunk of which the data are not read, if it is not bad. -/
theorem skipped_of_readChunk (hread : readChunk env address s = .skipped h s')
    (hgood : s'.isBadChunk = false) :
    headerAt env.eeprom address = some h ∧ h.chunkSizeBytes ≠ 0 ∧ Unread h := by
  rw [readChunk] at hread
  split at hread
  · cases hread
  · next h₁ s₁ heq =>
    rw [readChunkData] at hread
    split at hread
    · cases hread
    · next hsize =>
      split at hread
      · cases hread
      · split at hread
        · next hunread =>
          cases hread
          exact ⟨headerAt_of_read heq, fun hzero => hsize (.inr hzero), hunread⟩
        · split at hread
          · cases hread
          · cases hread
            cases hgood

/-! ## What a chunk does

Whatever is done with the data of a chunk – a file is made of it, or not, or the
chunk is found bad – the loop either is left or goes on with the header that
comes behind. That is all that matters here. -/

/-- A temporary file changes the files and the number of requests. -/
theorem writeToTempFile_frame (env : ModuleEnv) (data fileTag : Bytes) (s : ModuleMemory) :
    ∃ files requests, (writeToTempFile env data fileTag s).2
      = { s with files := files, requests := requests } := by
  rw [writeToTempFile, getTempFilename]
  dsimp only
  split
  · rw [writeFile, if_pos (.inl rfl)]
    exact ⟨_, _, rfl⟩
  · rw [writeFile]
    split
    · exact ⟨_, _, rfl⟩
    · exact ⟨_, _, rfl⟩

/-- Writing a CCB changes the serial number besides, … -/
theorem writeTempCcb_frame {length : ℕ} {r : Bytes × ModuleMemory}
    (hwrite : writeTempCcb env buffer length s = some r) :
    ∃ serialNumber files requests, r.2
      = { s with serialNumber := serialNumber, files := files, requests := requests } := by
  rw [writeTempCcb] at hwrite
  split at hwrite
  · cases hwrite
    exact ⟨_, _, _, rfl⟩
  split at hwrite
  · cases hwrite
    exact ⟨_, _, _, rfl⟩
  obtain ⟨-, -, hwrite⟩ := Option.bind_eq_some_iff.mp hwrite
  split at hwrite
  · cases hwrite
    exact ⟨_, _, _, rfl⟩
  obtain ⟨-, -, hwrite⟩ := Option.bind_eq_some_iff.mp hwrite
  obtain ⟨serialNumber, -, hwrite⟩ := Option.bind_eq_some_iff.mp hwrite
  obtain ⟨-, -, hwrite⟩ := Option.bind_eq_some_iff.mp hwrite
  cases hwrite
  obtain ⟨files, requests, hframe⟩ := writeToTempFile_frame env (buffer.take length)
    (ascii "ccb") { s with serialNumber := serialNumber }
  exact ⟨serialNumber, files, requests, hframe⟩

/-- … and writing a CFG file does not. -/
theorem writeTempCfg_frame {length : ℕ} {r : Bytes × ModuleMemory}
    (hwrite : writeTempCfg env buffer length s = some r) :
    ∃ files requests, r.2 = { s with files := files, requests := requests } := by
  rw [writeTempCfg] at hwrite
  split at hwrite
  · cases hwrite
    exact ⟨_, _, rfl⟩
  obtain ⟨signature, -, hwrite⟩ := Option.bind_eq_some_iff.mp hwrite
  split at hwrite
  · cases hwrite
    exact ⟨_, _, rfl⟩
  obtain ⟨-, -, hwrite⟩ := Option.bind_eq_some_iff.mp hwrite
  obtain ⟨-, -, hwrite⟩ := Option.bind_eq_some_iff.mp hwrite
  cases hwrite
  exact writeToTempFile_frame env _ _ s

/-- Whether a chunk is of a known type, and that it is not bad for another
reason. -/
theorem known_of_processNvmFirmware {payload : ℕ} {r : Bool × ModuleMemory}
    (hprocess : processNvmFirmware env h.chunktype buffer payload s = some r) :
    (r.1 = true ↔ Known h) ∧ r.2.isBadChunk = s.isBadChunk := by
  rw [processNvmFirmware] at hprocess
  split at hprocess
  · next hccb =>
    obtain ⟨w, hwrite, rfl⟩ := Option.map_eq_some_iff.mp hprocess
    obtain ⟨_, _, _, hframe⟩ := writeTempCcb_frame hwrite
    exact ⟨⟨fun _ => .inl hccb, fun _ => rfl⟩, by rw [hframe]⟩
  · next hccb =>
    split at hprocess
    · next hcfg =>
      obtain ⟨w, hwrite, rfl⟩ := Option.map_eq_some_iff.mp hprocess
      obtain ⟨_, _, hframe⟩ := writeTempCfg_frame hwrite
      exact ⟨⟨fun _ => .inr (.inl hcfg), fun _ => rfl⟩, by rw [hframe]⟩
    · next hcfg =>
      cases hprocess
      refine ⟨decide_eq_true_iff.trans ⟨fun hin => .inr (.inr hin), ?_⟩, rfl⟩
      rintro (h | h | h)
      · exact absurd h hccb
      · exact absurd h hcfg
      · exact h

/-- **What becomes of a chunk.** The checksum is computed in both of the ways in
which it may have been written; a chunk with another one is bad, unless it is
one of those that are passed over. -/
theorem processChunk_cases (hprocess : processChunk env h buffer s = some s') :
    ∃ crc r, blockCrc buffer (payloadSize h.chunkSizeBytes) = some crc
      ∧ (if crcFast (buffer.take (payloadSize h.chunkSizeBytes).toNat) true = crc
            ∨ crcFast (buffer.take (payloadSize h.chunkSizeBytes).toNat) false = crc then
          processNvmFirmware env h.chunktype buffer (payloadSize h.chunkSizeBytes).toNat s
        else some (false, s)) = some r
      ∧ s' = { r.2 with isBadChunk := (r.2.isBadChunk || !r.1)
          && h.chunktype ≠ chunkTypeFirmwareFactoryHeader
          && h.chunktype ≠ chunkTypeFirmwareUpgradeHeader } := by
  obtain ⟨crc, hcrc, hrest⟩ := Option.bind_eq_some_iff.mp hprocess
  dsimp only at hrest
  split at hrest
  · next hok =>
    obtain ⟨r, hr, hs'⟩ := Option.bind_eq_some_iff.mp hrest
    exact ⟨crc, r, hcrc, (if_pos hok).trans hr, (Option.some.inj hs').symm⟩
  · next hnot =>
    exact ⟨crc, (false, s), hcrc, if_neg hnot, (Option.some.inj hrest).symm⟩

/-- **A chunk is found bad where it is not a good one.** Whether it is good is a
matter of its bytes, and not of what became of its file. -/
theorem isBadChunk_processChunk (hbounded : Bounded h buffer)
    (hlength : buffer.length = h.chunkSizeBytes.toNat) (hs : s.isBadChunk = false)
    (hprocess : processChunk env h buffer s = some s') :
    s'.isBadChunk = false ↔ Good h buffer := by
  have hpayload := payloadSize_eq hbounded.size
  have hsize := hbounded.size.1
  obtain ⟨crc, r, hcrc, hr, rfl⟩ := processChunk_cases hprocess
  rw [hpayload, blockCrc, if_pos ⟨by omega, by omega⟩, Int.toNat_natCast] at hcrc
  rw [hpayload, Int.toNat_natCast, ← Option.some.inj hcrc] at hr
  have hresult : (r.1 = true ↔ CrcOk buffer (h.chunkSizeBytes.toNat - 4) ∧ Known h)
      ∧ r.2.isBadChunk = false := by
    split at hr
    · next hok =>
      obtain ⟨hknown, hbad⟩ := known_of_processNvmFirmware hr
      exact ⟨hknown.trans ⟨fun hknown => ⟨hok, hknown⟩, And.right⟩, hbad.trans hs⟩
    · next hnot =>
      cases hr
      exact ⟨⟨fun hfalse => absurd hfalse Bool.false_ne_true, fun hok => absurd hok.1 hnot⟩, hs⟩
  rw [Good, ← hresult.1, Upgrade, hresult.2]
  by_cases hfactory : h.chunktype = chunkTypeFirmwareFactoryHeader
  · simp [hfactory]
  · by_cases hupgrade : h.chunktype = chunkTypeFirmwareUpgradeHeader
    · simp [hupgrade]
    · simp [hfactory, hupgrade]

/-! ## The chain ends

`InChain` is the invariant, with the number of rounds: after `n` of them the
loop has been left, or is at the `n`th chunk of the chain. Where the chain has
an end the loop comes there after as many rounds as the chain has chunks, if
nothing ends it before. -/

/-- **The loop is somewhere in the chain**: it is left, or it is about to be,
or it is at the `n`th chunk. -/
def InChain (n : ℕ) (eeprom : Bytes) : ChunkWalk → Prop
  | .left _ => True
  | .walking h s => s.isBadChunk = true
    ∨ nextOf h = Chase.after (behind eeprom) n (firstOf eeprom)

/-- An address of 0 stands for the end. -/
theorem nextOf_eq_some {address : UInt32} (hnext : nextOf h = some address) :
    h.nextChunkAddress = address ∧ address ≠ 0 := by
  rw [nextOf] at hnext
  split at hnext
  · cases hnext
  · next hzero => exact ⟨Option.some.inj hnext, Option.some.inj hnext ▸ hzero⟩

/-- **A round goes one chunk further.** If the chunk is read and good, the loop
is at the chunk behind it. If not, because of its bytes or of a failure, the
loop is left, or is about to be; and `InChain` allows this at any place. -/
theorem InChain.walkStep (hends : ChainEnds env.eeprom) {n : ℕ} {w : ChunkWalk}
    (hw : InChain n env.eeprom w) :
    ∃ w', walkStep env w = some w' ∧ InChain (n + 1) env.eeprom w' := by
  cases w with
  | left s => exact ⟨_, rfl, trivial⟩
  | walking h s =>
    rw [ModuleMemory.walkStep]
    split
    · exact ⟨_, rfl, trivial⟩
    · next htest =>
      have hgood : s.isBadChunk = false := Bool.eq_false_iff.mpr fun hbad => htest (.inl hbad)
      have hat : Chase.after (behind env.eeprom) n (firstOf env.eeprom)
          = some h.nextChunkAddress := by
        rw [← hw.resolve_left (fun hbad => htest (.inl hbad)), nextOf,
          if_neg (fun hzero => htest (.inr hzero))]
      rw [InChain, chunkRound] at *
      cases hread : readChunk env h.nextChunkAddress s with
      | left s₁ => exact ⟨_, rfl, trivial⟩
      | skipped h₁ s₁ =>
        refine ⟨_, rfl, ?_⟩
        cases hbad : s₁.isBadChunk with
        | true => exact .inl hbad
        | false =>
          obtain ⟨hheader, hsize, hunread⟩ := skipped_of_readChunk hread hbad
          refine .inr ?_
          rw [Chase.after, hat, Option.bind_some, behind, hheader, Option.bind_some,
            if_neg hsize, if_pos hunread]
      | chunk h₁ buffer s₁ =>
        obtain ⟨hheader, hsize, hunread, hdata⟩ := chunk_of_readChunk hread
        -- the chunk is one of the chain, which is bounded there
        have hbounded := hends.bounded n _ h₁ buffer hat hheader hsize hunread hdata
        have hsome : (processChunk env h₁ buffer s₁).isSome :=
          (processChunk_isSome_iff (length_of_readChunk hread)).mpr hbounded
        obtain ⟨s₂, hprocess⟩ := Option.isSome_iff_exists.mp hsome
        refine ⟨.walking h₁ s₂, congrArg (Option.map (ChunkWalk.walking h₁)) hprocess, ?_⟩
        cases hbad : s₂.isBadChunk with
        | true => exact .inl hbad
        | false =>
          obtain ⟨requests, hs₁⟩ := readChunk_frame hread
          have hgood₁ : s₁.isBadChunk = false := by rw [hs₁, ← hgood]
          have hnext : Good h₁ buffer :=
            (isBadChunk_processChunk hbounded (length_of_readChunk hread) hgood₁ hprocess).mp hbad
          refine .inr ?_
          rw [Chase.after, hat, Option.bind_some, behind, hheader, Option.bind_some,
            if_neg hsize, if_neg hunread, hdata, Option.bind_some, if_pos hnext]

/-- What is in front of the loop: the header of the file is read, or the call
ends. -/
theorem startWalk_cases (env : ModuleEnv) (s : ModuleMemory) :
    (∃ s₀, startWalk env s = (none, s₀))
      ∨ ∃ h₀ s₀, startWalk env s = (some h₀, s₀) ∧ nextOf h₀ = firstOf env.eeprom := by
  rw [startWalk]
  cases hread : readChunkHeader env 0 s with
  | mk header s₀ =>
    cases header with
    | none => exact .inl ⟨s₀, rfl⟩
    | some h₀ =>
      by_cases htype : h₀.chunktype = chunkTypeFileHeader ∧ h₀.nextChunkAddress ≠ 0
      · refine .inr ⟨h₀, s₀, congrArg (·, s₀) (if_pos htype), ?_⟩
        rw [firstOf, headerAt_of_read hread, Option.bind_some, if_pos htype.1]
      · exact .inl ⟨s₀, congrArg (·, s₀) (if_neg htype)⟩

/-- **The loop ends where the chain does**, whatever fails. The chain has an end
after some number of chunks, as there are only so many addresses and none comes
twice. With as many rounds and one more, the loop has found the end, or was left
before. -/
theorem ends_of_chainEnds (hends : ChainEnds env.eeprom) (s : ModuleMemory) : Ends env s := by
  rcases startWalk_cases env s with ⟨s₀, hstart⟩ | ⟨h₀, s₀, hstart, hfirst⟩
  · exact ⟨0, _, by rw [readModuleData, hstart]⟩
  · obtain ⟨n, hn⟩ := Chase.ends_iff.mpr hends.once
    have hwalk : ∀ n, ∃ w, walk env n (.walking h₀ s₀) = some w ∧ InChain n env.eeprom w := by
      intro n
      induction n with
      | zero => exact ⟨_, rfl, .inr hfirst⟩
      | succ n ih =>
        obtain ⟨w, hw, hin⟩ := ih
        obtain ⟨w', hw', hin'⟩ := hin.walkStep hends
        exact ⟨w', by rw [walk_add, hw, Option.bind_some, walk, hw']; rfl, hin'⟩
    obtain ⟨w, hw, hin⟩ := hwalk n
    have hleft : ∃ s₁, walk env (n + 1) (.walking h₀ s₀) = some (.left s₁) := by
      rw [walk_add, hw, Option.bind_some, walk]
      cases w with
      | left s₁ => exact ⟨s₁, rfl⟩
      | walking h s₁ =>
        -- there is no chunk behind this one
        have htest : s₁.isBadChunk = true ∨ h.nextChunkAddress = 0 := by
          refine hin.imp_right fun hnext => ?_
          rw [hn, nextOf] at hnext
          split at hnext
          · assumption
          · cases hnext
        exact ⟨s₁, by rw [ModuleMemory.walkStep, if_pos htest]; rfl⟩
    obtain ⟨s₁, hs₁⟩ := hleft
    exact ⟨n + 1, _, by rw [readModuleData, hstart]; dsimp only; rw [hs₁]⟩

/-! ## Without a failure

The converse needs a run in which nothing fails but the making of temporary
files, which keeps the loop free of anything but the chain. In that run the loop
is where the chain is, in every round (`AtChunk`); so if it ends, the chain
does. -/

/-- The EEPROM and an operating system that fails in nothing but temporary
files. Without those nothing of the object matters to the loop. -/
def plainEnv (eeprom : Bytes) : ModuleEnv where
  eeprom := eeprom
  readFails _ := false
  allocates _ _ := true
  tempFilename _ _ := []
  opens _ := true
  loses _ := 0
  removes _ := true

variable {eeprom : Bytes}

/-- A read in the EEPROM. -/
theorem eepromRead_plainEnv (at' size : ℕ) (s : ModuleMemory) :
    eepromRead (plainEnv eeprom) at' size s
      = (if eeprom.length < at' + size then none else some (slice at' size eeprom), s.asked) := by
  simp only [eepromRead, plainEnv, Bool.false_eq_true, false_or]

/-- The header of a chunk is read. -/
theorem readChunkHeader_plainEnv (hheader : headerAt eeprom address = some h) :
    readChunkHeader (plainEnv eeprom) address s = (some h, s.asked) := by
  rw [headerAt] at hheader
  rw [readChunkHeader, eepromRead_plainEnv]
  split at hheader
  · cases hheader
  · next hroom =>
    rw [if_neg hroom]
    dsimp only
    rw [hheader]

/-- The chunk of a header is read. -/
theorem readChunk_plainEnv (hheader : headerAt eeprom address = some h)
    (hsize : h.chunkSizeBytes ≠ 0) :
    readChunk (plainEnv eeprom) address s = if Unread h then .skipped h s.asked.asked
      else match dataAt eeprom address h with
        | some buffer => .chunk h buffer s.asked.asked.asked
        | none => .skipped h s.asked.asked.asked.bad := by
  have htwenty : h.headerSizeBytes = 20 := by
    rw [headerAt] at hheader
    split at hheader
    · cases hheader
    · split at hheader
      · next hverify =>
        cases hheader
        simp only [verifyChunkHeader, Bool.and_eq_true, decide_eq_true_eq] at hverify
        exact hverify.1.2
      · cases hheader
  rw [readChunk, readChunkHeader_plainEnv hheader]
  dsimp only
  rw [readChunkData, if_neg (not_or.mpr ⟨not_not.mpr htwenty, hsize⟩), if_neg Bool.noConfusion]
  by_cases hunread : Unread h
  · rw [if_pos hunread, if_pos (show _ ∨ _ from hunread)]
  · rw [if_neg hunread, if_neg (show ¬ (_ ∨ _) from hunread), eepromRead_plainEnv, dataAt]
    by_cases hroom : eeprom.length
        < (address + h.headerSizeBytes).toNat + h.chunkSizeBytes.toNat
    · rw [if_pos hroom]
    · rw [if_neg hroom]

/-- **The loop is at the `n`th chunk.** -/
def AtChunk (n : ℕ) (eeprom : Bytes) (w : ChunkWalk) : Prop :=
  ∃ h s, w = .walking h s ∧ s.isBadChunk = false
    ∧ nextOf h = Chase.after (behind eeprom) n (firstOf eeprom)

/-- What a chunk with another behind it is. -/
theorem behind_cases {next : UInt32} (hbehind : behind eeprom address = some next) :
    ∃ h, headerAt eeprom address = some h ∧ h.chunkSizeBytes ≠ 0 ∧ nextOf h = some next
      ∧ (Unread h
        ∨ ¬ Unread h ∧ ∃ buffer, dataAt eeprom address h = some buffer ∧ Good h buffer) := by
  obtain ⟨h, hheader, hrest⟩ := Option.bind_eq_some_iff.mp hbehind
  refine ⟨h, hheader, ?_⟩
  split at hrest
  · cases hrest
  · next hsize =>
    split at hrest
    · next hunread => exact ⟨hsize, hrest, .inl hunread⟩
    · next hunread =>
      obtain ⟨buffer, hdata, hrest⟩ := Option.bind_eq_some_iff.mp hrest
      split at hrest
      · next hbuffer => exact ⟨hsize, hrest, .inr ⟨hunread, buffer, hdata, hbuffer⟩⟩
      · cases hrest

/-- **Without a failure a round goes to the next chunk**, where there is one and
the round has a result. That there is a next one means that the chunk is good,
and so it does not end the loop. -/
theorem AtChunk.walkStep {n : ℕ} {w w' : ChunkWalk} (hw : AtChunk n eeprom w)
    (hsome : Chase.after (behind eeprom) (n + 1) (firstOf eeprom) ≠ none)
    (hstep : ModuleMemory.walkStep (plainEnv eeprom) w = some w') : AtChunk (n + 1) eeprom w' := by
  obtain ⟨h, s, rfl, hgood, hnext⟩ := hw
  obtain ⟨next, hafter⟩ := Option.ne_none_iff_exists'.mp hsome
  obtain ⟨address, hat, hbehind⟩ := Option.bind_eq_some_iff.mp hafter
  obtain ⟨rfl, hzero⟩ := nextOf_eq_some (hnext.trans hat)
  obtain ⟨h₁, hheader, hsize, hnext₁, hrest⟩ := behind_cases hbehind
  rw [ModuleMemory.walkStep, if_neg (not_or.mpr ⟨Bool.eq_false_iff.mp hgood, hzero⟩),
    chunkRound] at hstep
  have hread := readChunk_plainEnv (s := s) hheader hsize
  rcases hrest with hunread | ⟨hunread, buffer, hdata, hbuffer⟩
  · rw [hread, if_pos hunread] at hstep
    cases hstep
    exact ⟨h₁, _, rfl, hgood, hnext₁.trans hafter.symm⟩
  · rw [if_neg hunread, hdata] at hread
    rw [hread] at hstep
    obtain ⟨s₂, hprocess, rfl⟩ := Option.map_eq_some_iff.mp hstep
    have hlength := length_of_readChunk hread
    have hbounded := (processChunk_isSome_iff hlength).mp (Option.isSome_of_eq_some hprocess)
    have hgood₁ : s.asked.asked.asked.isBadChunk = false := hgood
    exact ⟨h₁, s₂, rfl, (isBadChunk_processChunk hbounded hlength hgood₁ hprocess).mpr hbuffer,
      hnext₁.trans hafter.symm⟩

/-- The loop is still in the chain, as long as there is one. By induction on the
number of rounds. -/
theorem atChunk_of_walk {h₀ : ChunkHeader} {s₀ : ModuleMemory} (hgood : s₀.isBadChunk = false)
    (hfirst : nextOf h₀ = firstOf eeprom) {n : ℕ} {w : ChunkWalk}
    (hsome : Chase.after (behind eeprom) n (firstOf eeprom) ≠ none)
    (hwalk : walk (plainEnv eeprom) n (.walking h₀ s₀) = some w) : AtChunk n eeprom w := by
  induction n generalizing w with
  | zero =>
    cases hwalk
    exact ⟨h₀, s₀, rfl, hgood, hfirst⟩
  | succ n ih =>
    rw [walk_add] at hwalk
    obtain ⟨w₁, hw₁, hstep⟩ := Option.bind_eq_some_iff.mp hwalk
    have hbefore : Chase.after (behind eeprom) n (firstOf eeprom) ≠ none := fun hnone =>
      hsome (Chase.after_eq_none_of_le (Nat.le_succ n) hnone)
    obtain ⟨w₂, hw₂, hlast⟩ := Option.bind_eq_some_iff.mp hstep
    cases hlast
    exact (ih hbefore hw₁).walkStep hsome hw₂

/-- A part of a walk that has a result has one. -/
theorem isSome_walk_of_le {m n : ℕ} {w : ChunkWalk} (hmn : m ≤ n)
    (hn : (walk env n w).isSome) : (walk env m w).isSome := by
  obtain ⟨k, rfl⟩ := Nat.exists_eq_add_of_le hmn
  rw [walk_add] at hn
  cases hm : walk env m w with
  | none =>
    rw [hm] at hn
    cases hn
  | some w' => rfl

/-- The loop is in front of the chain. -/
theorem startWalk_plainEnv {address : UInt32} (hfirst : firstOf eeprom = some address)
    (s : ModuleMemory) :
    ∃ h₀, startWalk (plainEnv eeprom) s = (some h₀, s.asked) ∧ nextOf h₀ = firstOf eeprom := by
  obtain ⟨h₀, hheader, hrest⟩ := Option.bind_eq_some_iff.mp hfirst
  split at hrest
  · next htype =>
    refine ⟨h₀, ?_, hrest.trans hfirst.symm⟩
    obtain ⟨hnext, hzero⟩ := nextOf_eq_some hrest
    rw [startWalk, readChunkHeader_plainEnv hheader]
    exact congrArg (·, s.asked) (if_pos ⟨htype, hnext ▸ hzero⟩)
  · cases hrest

/-- **A loop that ends has the end of the chain in front of it.** If an address
came twice, the chain would go on for ever, and the loop would be in it after
every number of rounds (`atChunk_of_walk`); so it would not have been left. And
each chunk of the chain is read in some round, which has a result, so the chunk
has what it needs. -/
theorem chainEnds_of_ends (hends : Ends (plainEnv eeprom) { files := fun _ => none }) :
    ChainEnds eeprom := by
  obtain ⟨n, r, hr⟩ := hends
  cases hfirst : firstOf eeprom with
  | none =>
    have hnone : ∀ n, Chase.after (behind eeprom) n (firstOf eeprom) = none := fun n => by
      rw [hfirst, Chase.after_none]
    refine ⟨?_, fun n address _ _ hat => ?_⟩
    · rintro ⟨i, j, b, -, hi, -⟩
      rw [hnone] at hi
      cases hi
    · rw [hnone] at hat
      cases hat
  | some address =>
    obtain ⟨h₀, hstart, hnext⟩ := startWalk_plainEnv hfirst { files := fun _ => none }
    rw [readModuleData, hstart] at hr
    obtain ⟨s₁, hwalk⟩ : ∃ s₁, walk (plainEnv eeprom) n
        (.walking h₀ (asked { files := fun _ => none })) = some (.left s₁) := by
      dsimp only at hr
      split at hr
      · next s₁ hs₁ => exact ⟨s₁, hs₁⟩
      · cases hr
    have hgood : (asked { files := fun _ => none }).isBadChunk = false := rfl
    have hnone : Chase.after (behind eeprom) n (firstOf eeprom) = none := by
      by_contra hsome
      obtain ⟨_, _, hleft, -⟩ := atChunk_of_walk hgood hnext hsome hwalk
      cases hleft
    refine ⟨Chase.ends_iff.mp ⟨n, hnone⟩, ?_⟩
    intro m address h buffer hat hheader hsize hunread hdata
    -- the chunk lies on the way of the loop, which has gone through its round
    have hmn : m < n := by
      by_contra hle
      rw [Chase.after_eq_none_of_le (Nat.not_lt.mp hle) hnone] at hat
      cases hat
    have hsome := isSome_walk_of_le hmn (Option.isSome_of_eq_some hwalk)
    rw [Nat.succ_eq_add_one, walk_add] at hsome
    obtain ⟨w, hw⟩ := Option.isSome_iff_exists.mp (isSome_walk_of_le hmn.le
      (Option.isSome_of_eq_some hwalk))
    obtain ⟨h₁, s, rfl, hgood₁, hnext₁⟩ := atChunk_of_walk hgood hnext
      (by rw [hat]; exact Option.some_ne_none _) hw
    obtain ⟨rfl, hzero⟩ := nextOf_eq_some (hnext₁.trans hat)
    have hread := readChunk_plainEnv (s := s) hheader hsize
    rw [if_neg hunread, hdata] at hread
    have hround : (walkStep (plainEnv eeprom) (.walking h₁ s)).isSome := by
      rw [hw, Option.bind_some, walk] at hsome
      cases hstep : walkStep (plainEnv eeprom) (.walking h₁ s) with
      | none =>
        rw [hstep] at hsome
        cases hsome
      | some w => rfl
    exact walkStep_isSome_iff.mp hround hgood₁ hzero h buffer _ hread

/-- **`readModuleData` ends for a content of the EEPROM**, whatever fails and
whatever there was before, where the chain ends, and only there.

The loop is a `while (true)` with no counter, so that it ends is a property of
the chain it follows. If no address comes twice the chain is finite, as there
are only so many addresses; if one does, the calls that all succeed go round for
ever. The second clause of `ChainEnds` is there because a round without a result
is no end either. -/
theorem ends_iff_chainEnds (eeprom : Bytes) :
    (∀ env s, env.eeprom = eeprom → Ends env s) ↔ ChainEnds eeprom :=
  ⟨fun h => chainEnds_of_ends (h (plainEnv eeprom) _ rfl),
    fun h _ s henv => ends_of_chainEnds (henv ▸ h) s⟩

/-! ## A chunk behind itself -/

/-- A header with the address that it is at. -/
def selfHeader : ChunkHeader :=
  let header : ChunkHeader :=
    { chunkid := 0xAD, chunktype := 0x50, major := 1, minor := 0, headerSizeBytes := 20,
      chunkSizeBytes := 4, nextChunkAddress := 20 }
  { header with chunkHeaderCrc := crcFast header.front true }

/-- An EEPROM with that chunk, which has no payload and the checksum of none. -/
def selfEeprom : Bytes := fileHeader.encode ++ (selfHeader.encode ++ [0, 0, 0, 0])

/-- **A chunk that points to itself is read again and again.** Its checksum is
right, and the next address in it is its own. -/
theorem not_ends_self : ¬ ∀ env s, env.eeprom = selfEeprom → Ends env s := by
  intro h
  have hchain := chainEnds_of_ends (h (plainEnv selfEeprom) _ rfl)
  have hfirst : firstOf selfEeprom = some 20 := by decide +kernel
  have hbehind : behind selfEeprom 20 = some 20 := by decide +kernel
  refine hchain.once ⟨0, 1, 20, Nat.one_pos, hfirst, ?_⟩
  rw [Chase.after, Chase.after, hfirst, Option.bind_some, hbehind]

end ModuleMemory
