import TofNet.CsvText
import TofNet.JsonString
import TofNet.SaveSession

/-!
# The texts of a session

The rows of `frames.csv` and the strings of `camera.json`. The frame type comes
from the network and the paths from the configuration, so that any bytes can be
in them; `csvEscape` and `jsonEscape` are to make them harmless.

A row is always read back. `readBack_iff` says for which strings those of
`camera.json` are.

Reading is by the rules of the two formats (`Csv`, `Json`), which know nothing
of what is written here. That a text is read back is shown field by field, as
the reader stops at a separator, and character by character, as it stops at a
quote.
-/

/-! ## Escaping

`csvEscape` puts quotes around a field and doubles those within. `jsonEscape`
has an escape for five characters, and leaves all the others as they are. -/

/-- What `jsonEscape` makes of a character. -/
def jsonEscapeChar (c : UInt8) : Bytes :=
  if c = 92 then ascii "\\\\"
  else if c = 34 then ascii "\\\""
  else if c = 10 then ascii "\\n"
  else if c = 13 then ascii "\\r"
  else if c = 9 then ascii "\\t"
  else [c]

/-- `jsonEscape`. -/
def jsonEscape (value : Bytes) : Bytes := value.flatMap jsonEscapeChar

/-! ## The texts

The strings of `camera.json` are the frame type, the files that TOFI was
initialised with, and the planes that are configured. -/

namespace Snapshot

/-- The values of its 17 fields. -/
def csvFields (x : Snapshot) (config : SaveConfig) (saveIndex : ℕ) (systemTimeNs : UInt64)
    (validRatio : ℕ) : List Bytes := [
  decimal saveIndex,
  decimal x.header.frameId.toNat,
  decimal x.header.timestampNs.toNat,
  decimal systemTimeNs.toNat,
  decimal (makeMode x.header config.toViewerConfig).toNat,
  makeFrameType x.header config.toViewerConfig,
  decimal x.width.toNat,
  decimal x.height.toNat,
  decimal x.header.rawWidth.toNat,
  decimal x.header.rawHeight.toNat,
  decimal x.header.rawBytes.toNat,
  decimal x.compressedBytes,
  x.planeFile config saveIndex .raw,
  x.planeFile config saveIndex .depth,
  x.planeFile config saveIndex .ir,
  x.planeFile config saveIndex .xyz,
  fixed6 validRatio]

/-- The strings that `camera.json` has in quotes; the files are those TOFI was
initialised with. -/
def cameraStrings (x : Snapshot) (config : SaveConfig) (tofi : TofiKey) : List Bytes :=
  [makeFrameType x.header config.toViewerConfig, tofi.iniFile, tofi.ccbFile, tofi.cfgFile]
    ++ config.saveProcessedPlanes.map trim

end Snapshot

/-- **What is saved can be read back**: the row has its 17 values, and each
string of `camera.json` is the one that was written. -/
structure ReadBack (x : Snapshot) (config : SaveConfig) (saveIndex : ℕ) (systemTimeNs : UInt64)
    (validRatio : ℕ) (tofi : TofiKey) : Prop where
  /-- The row is read as its values, to its end. -/
  row : Csv.record (x.csvRow config saveIndex systemTimeNs validRatio)
    = some (x.csvFields config saveIndex systemTimeNs validRatio, [])
  /-- Each string is read as it was. -/
  strings : ∀ s ∈ x.cameraStrings config tofi,
    Json.string (ascii "\"" ++ jsonEscape s ++ ascii "\"") = some s

/-- **A string that `jsonEscape` makes harmless**: UTF-8 without control
characters other than tab, line feed and carriage return. -/
def Escapable (s : Bytes) : Prop :=
  Utf8.Valid s ∧ ∀ c ∈ s, 32 ≤ c ∨ c = 9 ∨ c = 10 ∨ c = 13

instance (s : Bytes) : Decidable (Escapable s) := inferInstanceAs (Decidable (_ ∧ _))

/-! ## Reading a row

A field is a number in digits, one with a point, or a quoted string. The first
two have no character that a reader would stop at. -/

/-- A digit is neither a quote nor a separator. -/
theorem plain_of_isDigit {c : UInt8} (h : 48 ≤ c ∧ c ≤ 57) : Csv.Plain c := by
  have hne : ∀ d : UInt8, ¬ (48 ≤ d ∧ d ≤ 57) → c ≠ d := fun d hd heq => hd (heq ▸ h)
  exact ⟨hne 34 (by decide), hne 44 (by decide), hne 13 (by decide), hne 10 (by decide)⟩

/-- A number is read as its digits. -/
theorem reads_decimal (n : ℕ) : Csv.Reads (decimal n) (decimal n) :=
  Csv.reads_plain fun _ hc => plain_of_isDigit (isDigit_of_mem_decimal hc)

/-- A ratio is read as it is printed. -/
theorem reads_fixed6 (millionths : ℕ) : Csv.Reads (fixed6 millionths) (fixed6 millionths) := by
  refine Csv.reads_plain fun c hc => ?_
  unfold fixed6 at hc
  simp only [List.mem_append, List.mem_replicate] at hc
  obtain ((hc | hc) | hc) | hc := hc
  · exact plain_of_isDigit (isDigit_of_mem_decimal hc)
  · have hdot : c = 46 := by simpa [ascii] using hc
    rw [hdot]
    decide
  · rw [hc.2]
    decide
  · exact plain_of_isDigit (isDigit_of_mem_decimal hc)

/-- **A row is read back**, whatever the frame type is. -/
theorem record_csvRow (x : Snapshot) (config : SaveConfig) (saveIndex : ℕ)
    (systemTimeNs : UInt64) (validRatio : ℕ) :
    Csv.record (x.csvRow config saveIndex systemTimeNs validRatio)
      = some (x.csvFields config saveIndex systemTimeNs validRatio, []) := by
  have hquoted : ∀ v, Csv.Reads (csvEscape v) v := Csv.reads_quote
  have hreads : List.Forall₂ Csv.Reads _ (x.csvFields config saveIndex systemTimeNs validRatio) :=
    .cons (reads_decimal saveIndex) <| .cons (reads_decimal _) <| .cons (reads_decimal _) <|
      .cons (reads_decimal _) <| .cons (reads_decimal _) <| .cons (hquoted _) <|
      .cons (reads_decimal _) <| .cons (reads_decimal _) <| .cons (reads_decimal _) <|
      .cons (reads_decimal _) <| .cons (reads_decimal _) <| .cons (reads_decimal _) <|
      .cons (hquoted _) <| .cons (hquoted _) <| .cons (hquoted _) <| .cons (hquoted _) <|
      .cons (reads_fixed6 validRatio) .nil
  have hrow := Csv.record_row hreads (List.cons_ne_nil _ _) []
  rw [List.append_nil] at hrow
  exact hrow

/-! ## Reading a string

What JSON asks for is that control characters are escaped and that the text is
UTF-8. The escapes see to a part of the first and to nothing of the second, and
the condition is what is left. -/

/-- **`jsonEscape` escapes tabs, line feeds and carriage returns**, and no other
control characters. -/
theorem escapes_jsonEscapeChar :
    Json.Escapes jsonEscapeChar (fun c => 32 ≤ c ∨ c = 9 ∨ c = 10 ∨ c = 13) where
  reads c hc rest := by
    unfold jsonEscapeChar
    split_ifs with hbackslash hquote hfeed hreturn htab
    · rw [hbackslash]
      rfl
    · rw [hquote]
      rfl
    · rw [hfeed]
      rfl
    · rw [hreturn]
      rfl
    · rw [htab]
      rfl
    · have hprint : 32 ≤ c := hc.resolve_right (by rintro (h | h | h) <;> contradiction)
      exact Json.stringBody_cons_of_plain ⟨hprint, hquote, hbackslash⟩ rest
  refuses c hc rest := by
    obtain ⟨hlow, htab, hfeed, hreturn⟩ : c < 32 ∧ c ≠ 9 ∧ c ≠ 10 ∧ c ≠ 13 := by
      simpa only [not_or, UInt8.not_le] using hc
    have hne : ∀ d : UInt8, ¬ d < 32 → c ≠ d := fun d hd heq => hd (heq ▸ hlow)
    unfold jsonEscapeChar
    rw [if_neg (hne 92 (by decide)), if_neg (hne 34 (by decide)), if_neg hfeed, if_neg hreturn,
      if_neg htab]
    exact Json.stringBody_cons_of_control hlow rest
  utf8 c owed howed bs := by
    unfold jsonEscapeChar
    split_ifs with hbackslash hquote hfeed hreturn htab
    · rw [hbackslash]
      exact Utf8.run_pair howed (by decide) (by decide) (by decide) bs
    · rw [hquote]
      exact Utf8.run_pair howed (by decide) (by decide) (by decide) bs
    · rw [hfeed]
      exact Utf8.run_pair howed (by decide) (by decide) (by decide) bs
    · rw [hreturn]
      exact Utf8.run_pair howed (by decide) (by decide) (by decide) bs
    · rw [htab]
      exact Utf8.run_pair howed (by decide) (by decide) (by decide) bs
    · rfl

/-- A string is read back exactly if it is escapable. -/
theorem string_jsonEscape_iff (s : Bytes) :
    Json.string (ascii "\"" ++ jsonEscape s ++ ascii "\"") = some s ↔ Escapable s :=
  escapes_jsonEscapeChar.string_iff

/-- **What is saved can be read back exactly if every string of `camera.json` is
UTF-8 and has no control characters other than the three.**

Nothing has to be assumed of the row: `csvEscape` is right for all bytes. Of the
strings `jsonEscape` treats the quote, the backslash and the three control
characters that have a letter; the others have to be written as numbers in JSON,
and it leaves them as they are. -/
theorem readBack_iff (x : Snapshot) (config : SaveConfig) (saveIndex : ℕ) (systemTimeNs : UInt64)
    (validRatio : ℕ) (tofi : TofiKey) :
    ReadBack x config saveIndex systemTimeNs validRatio tofi ↔
      ∀ s ∈ x.cameraStrings config tofi, Escapable s := by
  constructor
  · intro h s hs
    exact (string_jsonEscape_iff s).mp (h.strings s hs)
  · intro h
    exact { row := record_csvRow x config saveIndex systemTimeNs validRatio,
            strings := fun s hs => (string_jsonEscape_iff s).mpr (h s hs) }

/-- A frame type with an escape character. -/
def escapeHeader : DataFramePayloadHeader where
  frameType := copyCstr kNameLen [27, 91, 109]

/-- **A control character in the frame type spoils `camera.json`**: it is
written as it is. -/
theorem not_readBack_escape :
    ¬ ∀ (x : Snapshot) (config : SaveConfig) (saveIndex : ℕ) (systemTimeNs : UInt64)
      (validRatio : ℕ) (tofi : TofiKey), (∀ s ∈ x.cameraStrings config tofi, 0 ∉ s) →
      ReadBack x config saveIndex systemTimeNs validRatio tofi := by
  intro h
  let x : Snapshot := { header := escapeHeader, compressedBytes := 0, width := 1, height := 1 }
  have hnul : ∀ s ∈ x.cameraStrings {} {}, 0 ∉ s := by decide +kernel
  have hread := (h x {} 0 0 0 {} hnul).strings [27, 91, 109] (by decide +kernel)
  exact absurd hread (by decide +kernel)
