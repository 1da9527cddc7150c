import TofNet.JsonString
import TofNet.ModuleMemory

/-!
# The JSON file of a module

`writeTempJSON` puts the names of the temporary files between quotes, with a
second backslash in front of a backslash. Behind one it goes on four characters
further, so that of backslashes that stand closer together than three the later
ones stay single.

`object_jsonText` says for which names the file is read back.

What is read back is said with the reader of `JsonText`, which knows JSON and
nothing of this program. A name without backslashes stays as it is. One with
backslashes is read back if they stand far enough apart for the loop to find
each of them.
-/

namespace ModuleMemory

/-! ## Backslashes

The loop inserts a character and goes on behind it. `escapeFrom_append` follows
it from backslash to backslash, with what is in front as it has become. -/

/-- A backslash is written twice. -/
def escapeChar (c : UInt8) : Bytes := if c = 92 then [92, 92] else [c]

/-- Behind each backslash there are two characters that are none, or the end. -/
def Spaced : Bytes → Prop
  | [] => True
  | c :: rest => (c = 92 → (92 : UInt8) ∉ rest.take 2) ∧ Spaced rest

instance decidableSpaced : (name : Bytes) → Decidable (Spaced name)
  | [] => isTrue trivial
  | c :: rest =>
    have := decidableSpaced rest
    inferInstanceAs (Decidable ((c = 92 → (92 : UInt8) ∉ rest.take 2) ∧ Spaced rest))

theorem Spaced.of_append {front back : Bytes} (h : Spaced (front ++ back)) : Spaced back := by
  induction front with
  | nil => exact h
  | cons c front ih => exact ih h.2

theorem flatMap_escapeChar {name : Bytes} (h : (92 : UInt8) ∉ name) :
    name.flatMap escapeChar = name := by
  induction name with
  | nil => rfl
  | cons c name ih =>
    rw [List.mem_cons, not_or] at h
    rw [List.flatMap_cons, ih h.2, escapeChar, if_neg (Ne.symm h.1)]
    rfl

/-- Behind the end nothing is found. -/
theorem escapeFrom_of_length_le (n : ℕ) {start : ℕ} {path : Bytes} (h : path.length ≤ start) :
    escapeFrom n start path = path := by
  cases n with
  | zero => rfl
  | succ n =>
    rw [escapeFrom, List.drop_eq_nil_of_le h]
    rfl

/-- The first backslash. -/
theorem exists_of_findIdx? {back : Bytes} {i : ℕ} (h : back.findIdx? (· = 92) = some i) :
    ∃ plain rest, back = plain ++ 92 :: rest ∧ plain.length = i ∧ (92 : UInt8) ∉ plain := by
  obtain ⟨hi, hfound, hbefore⟩ := List.findIdx?_eq_some_iff_getElem.mp h
  have hat : back[i] = 92 := of_decide_eq_true hfound
  refine ⟨back.take i, back.drop (i + 1), ?_, by rw [List.length_take]; omega, fun hmem => ?_⟩
  · rw [← hat, ← List.drop_eq_getElem_cons hi, List.take_append_drop]
  · obtain ⟨j, hj, heq⟩ := List.mem_take_iff_getElem.mp hmem
    exact absurd heq (by simpa using hbefore j (by omega))

theorem insertIdx_length_append (front back : Bytes) (c : UInt8) :
    (front ++ back).insertIdx front.length c = front ++ c :: back := by
  induction front with
  | nil => rfl
  | cons d front ih => exact congrArg (d :: ·) ih

/-- **Each round finds the next backslash**, where the ones behind it are not
too near. -/
theorem escapeFrom_append (n : ℕ) {front back : Bytes} (hn : back.length ≤ n)
    (hspaced : Spaced back) :
    escapeFrom n front.length (front ++ back) = front ++ back.flatMap escapeChar := by
  induction n generalizing front back with
  | zero =>
    rw [List.eq_nil_of_length_eq_zero (Nat.le_zero.mp hn)]
    rfl
  | succ n ih =>
    rw [escapeFrom, List.drop_left]
    cases hfind : back.findIdx? (· = 92) with
    | none =>
      have hnone : (92 : UInt8) ∉ back := fun hmem => by
        simpa using List.findIdx?_eq_none_iff.mp hfind 92 hmem
      rw [flatMap_escapeChar hnone]
    | some i =>
      obtain ⟨plain, rest, rfl, rfl, hplain⟩ := exists_of_findIdx? hfind
      obtain ⟨hnear, hrest⟩ := hspaced.of_append
      have hinsert : (front ++ (plain ++ 92 :: rest)).insertIdx (front.length + plain.length) 92
          = front ++ (plain ++ 92 :: 92 :: rest) := by
        rw [← List.append_assoc, ← List.length_append, insertIdx_length_append, List.append_assoc]
      have hpassed : front ++ (plain ++ 92 :: 92 :: rest)
          = (front ++ plain ++ 92 :: 92 :: rest.take 2) ++ rest.drop 2 := by
        simp [List.take_append_drop]
      have hescaped : (plain ++ 92 :: rest).flatMap escapeChar
          = plain ++ 92 :: 92 :: (rest.take 2 ++ (rest.drop 2).flatMap escapeChar) := by
        rw [List.flatMap_append, flatMap_escapeChar hplain, List.flatMap_cons]
        conv_lhs => rw [← List.take_append_drop 2 rest]
        rw [List.flatMap_append, flatMap_escapeChar (hnear rfl)]
        rfl
      dsimp only
      rw [hinsert, hpassed, hescaped]
      by_cases hlength : 2 ≤ rest.length
      · have hstart : front.length + plain.length + 4
            = (front ++ plain ++ 92 :: 92 :: rest.take 2).length := by
          simp only [List.length_append, List.length_cons, List.length_take]
          omega
        rw [hstart, ih (by simp at hn ⊢; omega) ((List.take_append_drop 2 rest ▸ hrest).of_append)]
        simp
      · rw [List.drop_eq_nil_of_le (by omega), escapeFrom_of_length_le n (by simp; omega)]
        simp

theorem escapePathBackslash_eq {name : Bytes} (h : Spaced name) :
    escapePathBackslash name = name.flatMap escapeChar := by
  show escapeFrom name.length ([] : Bytes).length ([] ++ name) = [] ++ name.flatMap escapeChar
  exact escapeFrom_append name.length (Nat.le_refl _) h

/-! ## Names that are read back

A writable name has no quotes and no control characters, and its backslashes are
spaced. In the text it stands between quotes, and each character of it stands
for itself, except the backslash. -/

/-- **A name that JSON has between quotes**, when its backslashes are escaped. -/
structure Writable (name : Bytes) : Prop where
  chars : ∀ c ∈ name, 32 ≤ c ∧ c ≠ 34
  spaced : Spaced name

instance (name : Bytes) : Decidable (Writable name) :=
  decidable_of_iff ((name.all fun c => decide (32 ≤ c ∧ c ≠ 34)) = true ∧ Spaced name)
    ⟨fun h => ⟨fun c hc => of_decide_eq_true (List.all_eq_true.mp h.1 c hc), h.2⟩,
      fun h => ⟨List.all_eq_true.mpr fun c hc => decide_eq_true (h.1 c hc), h.2⟩⟩

theorem Writable.stringBody {name : Bytes} (h : Writable name) (rest : Bytes) :
    Json.stringBody (escapePathBackslash name ++ 34 :: rest) = some (name, rest) := by
  rw [escapePathBackslash_eq h.spaced]
  refine Json.stringBody_flatMap (fun c hc rest => ?_) rest
  obtain ⟨hcontrol, hquote⟩ := h.chars c hc
  by_cases hbackslash : c = 92
  · rw [hbackslash]
    rfl
  · rw [escapeChar, if_neg hbackslash]
    exact Json.stringBody_cons_of_plain ⟨hcontrol, hquote, hbackslash⟩ rest

theorem spaced_of_not_mem {name : Bytes} (h : (92 : UInt8) ∉ name) : Spaced name := by
  induction name with
  | nil => trivial
  | cons c name ih =>
    rw [List.mem_cons, not_or] at h
    exact ⟨fun hc => absurd hc.symm h.1, ih h.2⟩

/-- A name without a backslash stays as it is. -/
theorem writable_of_plain {name : Bytes} (h : ∀ c ∈ name, Json.Plain c) : Writable name where
  chars c hc := ⟨(h c hc).1, (h c hc).2.1⟩
  spaced := spaced_of_not_mem fun hmem => (h 92 hmem).2.2 rfl

/-! ## The text

The members stand one behind the other with commas between them, and line feeds.
The reader skips the white space; so the text is read member by member. -/

/-- What a JSON file names. -/
def named (ccbFilename cfgFilename : Bytes) : List (Bytes × Bytes) :=
  (if cfgFilename = [] then [] else [(ascii "sensorFirmware", cfgFilename)])
    ++ (if ccbFilename = [] then [] else [(ascii "CCB_Calibration", ccbFilename)])

theorem jsonEntry_append (key name rest : Bytes) :
    jsonEntry key name ++ rest
      = 34 :: (key ++ 34 :: 58 :: 32 :: 34 :: (escapePathBackslash name ++ 34 :: rest)) := by
  rw [jsonEntry]
  simp [ascii]

theorem member_jsonEntry {key name : Bytes} (hkey : ∀ c ∈ key, Json.Plain c)
    (hname : Writable name) (rest : Bytes) :
    Json.member (10 :: (jsonEntry key name ++ rest)) = some ((key, name), rest) := by
  rw [Json.member_space rfl, jsonEntry_append, Json.member_append hkey hname.stringBody]

/-- The last member of an object, and its end. -/
theorem members_last (n : ℕ) {key name : Bytes} (hkey : ∀ c ∈ key, Json.Plain c)
    (hname : Writable name) :
    Json.members (n + 1) (10 :: (jsonEntry key name ++ ascii "\n\x7d\n"))
      = some ([(key, name)], [10]) := by
  have hcomma : Json.expect 44 (ascii "\n\x7d\n") = none := by decide
  have hclose : Json.expect 125 (ascii "\n\x7d\n") = some [10] := by decide
  rw [Json.members]
  simp [member_jsonEntry hkey hname, hcomma, hclose]

theorem members_next (n : ℕ) {key name rest : Bytes} (hkey : ∀ c ∈ key, Json.Plain c)
    (hname : Writable name) :
    Json.members (n + 1) (10 :: (jsonEntry key name ++ 44 :: rest))
      = (Json.members n rest).map fun r => ((key, name) :: r.1, r.2) := by
  have hcomma : Json.expect 44 (44 :: rest) = some rest := by
    rw [Json.expect_cons rfl, if_pos rfl]
  rw [Json.members]
  simp [member_jsonEntry hkey hname, hcomma]

/-- An object that has its members behind a line feed. -/
theorem object_of_members {key name rest : Bytes} {entries : List (Bytes × Bytes)}
    (h : ∀ n, Json.members (n + 2) (10 :: (jsonEntry key name ++ rest)) = some (entries, [10])) :
    Json.object (ascii "\x7b\n" ++ (jsonEntry key name ++ rest)) = some entries := by
  have hopen : Json.expect 123 (ascii "\x7b\n" ++ (jsonEntry key name ++ rest))
      = some (10 :: (jsonEntry key name ++ rest)) := by
    show Json.expect 123 (123 :: 10 :: (jsonEntry key name ++ rest)) = _
    rw [Json.expect_cons rfl, if_pos rfl]
  have hmore : Json.expect 125 (10 :: (jsonEntry key name ++ rest)) = none := by
    rw [Json.expect_space rfl, jsonEntry_append, Json.expect_cons rfl, if_neg (by decide)]
  have hlength : 2 ≤ (10 :: (jsonEntry key name ++ rest)).length := by
    rw [jsonEntry_append, List.length_cons, List.length_cons]
    omega
  obtain ⟨n, hn⟩ := Nat.exists_eq_add_of_le' hlength
  rw [Json.object]
  simp only [hopen, hmore, bind, Option.bind_some, hn, h n]
  rfl

/-- **The JSON file names the files**, if there is one at least. -/
theorem object_jsonText {ccbFilename cfgFilename : Bytes}
    (hne : ccbFilename ≠ [] ∨ cfgFilename ≠ []) (hccb : Writable ccbFilename)
    (hcfg : Writable cfgFilename) :
    Json.object (jsonText ccbFilename cfgFilename) = some (named ccbFilename cfgFilename) := by
  have hkeyCcb : ∀ c ∈ ascii "CCB_Calibration", Json.Plain c := by decide +kernel
  have hkeyCfg : ∀ c ∈ ascii "sensorFirmware", Json.Plain c := by decide +kernel
  rw [jsonText, named]
  by_cases hccbNil : ccbFilename = []
  · have hcfgNe := hne.resolve_left (fun h => h hccbNil)
    rw [if_neg (fun h => h.1 hccbNil), if_neg (fun h => h hccbNil), if_pos hcfgNe,
      if_neg hcfgNe, if_pos hccbNil]
    exact object_of_members fun n => members_last (n + 1) hkeyCfg hcfg
  · by_cases hcfgNil : cfgFilename = []
    · rw [if_neg (fun h => h.2 hcfgNil), if_pos hccbNil, if_pos hcfgNil, if_neg hccbNil]
      exact object_of_members fun n => members_last (n + 1) hkeyCcb hccb
    · rw [if_pos ⟨hccbNil, hcfgNil⟩, if_neg hcfgNil, if_neg hccbNil]
      have htwo : jsonEntry (ascii "sensorFirmware") cfgFilename ++ ascii ",\n"
            ++ jsonEntry (ascii "CCB_Calibration") ccbFilename ++ ascii "\n\x7d\n"
          = jsonEntry (ascii "sensorFirmware") cfgFilename ++ 44 :: 10 ::
            (jsonEntry (ascii "CCB_Calibration") ccbFilename ++ ascii "\n\x7d\n") := by
        simp [ascii]
      rw [htwo]
      refine object_of_members fun n => ?_
      rw [members_next _ hkeyCfg hcfg, members_last n hkeyCcb hccb]
      rfl

/-! ## The octets

That the text is JSON requires that its octets are UTF-8. Doubling a backslash
does not change that, since it is ASCII and so never stands within a character. -/

theorem run_escapeChar (c : UInt8) (owed : List (UInt8 × UInt8)) (howed : Utf8.Owed owed)
    (bs : Bytes) : Utf8.run owed (escapeChar c ++ bs) = Utf8.run owed (c :: bs) := by
  by_cases hc : c = 92
  · rw [hc]
    exact Utf8.run_pair howed (by decide) (by decide) (by decide) bs
  · rw [escapeChar, if_neg hc]
    rfl

theorem valid_escapePathBackslash {name : Bytes} (h : Spaced name) (hutf8 : Utf8.Valid name) :
    Utf8.Valid (escapePathBackslash name) := by
  have hrun : Utf8.run [] (name.flatMap escapeChar ++ []) = Utf8.run [] (name ++ []) :=
    Json.run_flatMap run_escapeChar (fun _ hmem => absurd hmem List.not_mem_nil) []
  rw [List.append_nil, List.append_nil] at hrun
  rw [escapePathBackslash_eq h]
  exact hrun.trans hutf8

theorem valid_jsonEntry {key name : Bytes} (hkey : Utf8.Valid key) (h : Spaced name)
    (hutf8 : Utf8.Valid name) : Utf8.Valid (jsonEntry key name) := by
  have hquote : Utf8.Valid [34] := by decide
  have hcolon : Utf8.Valid (ascii "\": \"") := by decide
  exact (((hquote.append hkey).append hcolon).append (valid_escapePathBackslash h hutf8)).append
    hquote

/-- **The file is UTF-8**, if the names are. -/
theorem valid_jsonText {ccbFilename cfgFilename : Bytes} (hccb : Spaced ccbFilename)
    (hcfg : Spaced cfgFilename) (hccbUtf8 : Utf8.Valid ccbFilename)
    (hcfgUtf8 : Utf8.Valid cfgFilename) : Utf8.Valid (jsonText ccbFilename cfgFilename) := by
  have hopen : Utf8.Valid (ascii "\x7b\n") := by decide
  have hclose : Utf8.Valid (ascii "\n\x7d\n") := by decide
  have hcomma : Utf8.Valid (ascii ",\n") := by decide
  have hentryCcb := valid_jsonEntry (by decide : Utf8.Valid (ascii "CCB_Calibration")) hccb hccbUtf8
  have hentryCfg := valid_jsonEntry (by decide : Utf8.Valid (ascii "sensorFirmware")) hcfg hcfgUtf8
  rw [jsonText]
  split_ifs
  · exact hopen.append (((hentryCfg.append hcomma).append hentryCcb).append hclose)
  · exact hopen.append (hentryCcb.append hclose)
  · exact hopen.append (hentryCfg.append hclose)
  · exact hopen.append (by decide)

end ModuleMemory
