import Mathlib.Data.List.Basic

/-!
# JSON objects of strings

A reader of JSON texts, on bytes, for the objects whose members are all
strings. A string ends at the first quote that no backslash precedes; the
escapes are those of the standard, except that a character outside of the
basic plane, which would be written as two of them, is refused.

The reader is a function with fuel, the length of the text, and returns what is
left of it. That a string, a member, or an object is read back is said with
anything behind it, so that the lemmas can be put one in front of the other.
-/

namespace Json

/-- What a backslash and a character stand for. -/
def unescape (c : UInt8) : Option UInt8 :=
  if c = 34 ∨ c = 92 ∨ c = 47 then some c
  else if c = 98 then some 8
  else if c = 102 then some 12
  else if c = 110 then some 10
  else if c = 114 then some 13
  else if c = 116 then some 9
  else none

/-- The value of a hexadecimal digit. -/
def hexDigit (c : UInt8) : Option ℕ :=
  if 48 ≤ c ∧ c ≤ 57 then some (c.toNat - 48)
  else if 65 ≤ c ∧ c ≤ 70 then some (c.toNat - 55)
  else if 97 ≤ c ∧ c ≤ 102 then some (c.toNat - 87)
  else none

/-- A character of the basic plane, in UTF-8; a surrogate is none. -/
def utf8 (n : ℕ) : Option (List UInt8) :=
  if n < 0x80 then some [UInt8.ofNat n]
  else if n < 0x800 then some [UInt8.ofNat (0xC0 + n / 64), UInt8.ofNat (0x80 + n % 64)]
  else if 0xD800 ≤ n ∧ n < 0xE000 then none
  else some [UInt8.ofNat (0xE0 + n / 4096), UInt8.ofNat (0x80 + n / 64 % 64),
    UInt8.ofNat (0x80 + n % 64)]

/-- The character four hexadecimal digits are the number of. -/
def unicode (a b c d : UInt8) : Option (List UInt8) := do
  utf8 (((← hexDigit a) * 16 + (← hexDigit b)) * 256 + (← hexDigit c) * 16 + (← hexDigit d))

/-- What is behind the opening quote of a string: the string, and what is
behind its closing quote. -/
def stringBody : List UInt8 → Option (List UInt8 × List UInt8)
  | [] => none
  | 34 :: rest => some ([], rest)
  | 92 :: 117 :: a :: b :: c :: d :: rest =>
    (unicode a b c d).bind fun front => (stringBody rest).map fun r => (front ++ r.1, r.2)
  | 92 :: c :: rest =>
    (unescape c).bind fun front => (stringBody rest).map fun r => (front :: r.1, r.2)
  | c :: rest =>
    if c < 32 ∨ c = 92 then none else (stringBody rest).map fun r => (c :: r.1, r.2)

/-- White space of JSON. -/
def isSpace (c : UInt8) : Bool := c = 32 || c = 9 || c = 10 || c = 13

/-- What is behind a character, and the white space in front of it. -/
def expect (c : UInt8) (text : List UInt8) : Option (List UInt8) :=
  match text.dropWhile isSpace with
  | d :: rest => if d = c then some rest else none
  | [] => none

/-- A member of an object, `"key": "value"`. -/
def member (text : List UInt8) : Option ((List UInt8 × List UInt8) × List UInt8) := do
  let key ← stringBody (← expect 34 text)
  let value ← stringBody (← expect 34 (← expect 58 key.2))
  some ((key.1, value.1), value.2)

/-- At most `n` further members, and the closing brace. -/
def members : ℕ → List UInt8 → Option (List (List UInt8 × List UInt8) × List UInt8)
  | 0, _ => none
  | n + 1, text => do
    let m ← member text
    match expect 44 m.2 with
    | some rest => (members n rest).map fun r => (m.1 :: r.1, r.2)
    | none => (expect 125 m.2).map fun rest => ([m.1], rest)

/-- **The members of an object of strings**, where the text is one. -/
def object (text : List UInt8) : Option (List (List UInt8 × List UInt8)) := do
  let body ← expect 123 text
  let r ← match expect 125 body with
    | some rest => some ([], rest)
    | none => members body.length body
  if r.2.dropWhile isSpace = [] then some r.1 else none

/-- A character that stands for itself in a string. -/
def Plain (c : UInt8) : Prop := 32 ≤ c ∧ c ≠ 34 ∧ c ≠ 92

instance (c : UInt8) : Decidable (Plain c) := inferInstanceAs (Decidable (_ ∧ _ ∧ _))

theorem stringBody_cons_of_plain {c : UInt8} (hc : Plain c) (rest : List UInt8) :
    stringBody (c :: rest) = (stringBody rest).map fun r => (c :: r.1, r.2) := by
  have hnot : ¬ (c < 32 ∨ c = 92) := by
    rintro (h | h)
    · exact absurd hc.1 (UInt8.not_le.mpr h)
    · exact hc.2.2 h
  rw [stringBody.eq_def]
  split
  · rename_i heq
    cases heq
  · rename_i heq
    exact absurd (List.cons.inj heq).1 hc.2.1
  · rename_i heq
    exact absurd (List.cons.inj heq).1 hc.2.2
  · rename_i heq
    exact absurd (List.cons.inj heq).1 hc.2.2
  · rename_i heq
    obtain ⟨rfl, rfl⟩ := List.cons.inj heq
    rw [if_neg hnot]

/-- **Plain characters are read back**, up to the closing quote. -/
theorem stringBody_append {value : List UInt8} (h : ∀ c ∈ value, Plain c) (rest : List UInt8) :
    stringBody (value ++ 34 :: rest) = some (value, rest) := by
  induction value with
  | nil => rfl
  | cons c value ih =>
    rw [List.cons_append, stringBody_cons_of_plain (h c List.mem_cons_self),
      ih fun d hd => h d (List.mem_cons_of_mem c hd)]
    rfl

/-- A character that is not white space is what the reader finds. -/
theorem expect_cons {c d : UInt8} (hd : isSpace d = false) (rest : List UInt8) :
    expect c (d :: rest) = if d = c then some rest else none := by
  rw [expect, List.dropWhile_cons_of_neg (by simp [hd])]

theorem expect_space {c d : UInt8} (hd : isSpace d = true) (rest : List UInt8) :
    expect c (d :: rest) = expect c rest := by
  rw [expect, List.dropWhile_cons_of_pos hd, expect]

/-- **A member is read back**, if its value is. -/
theorem member_append {key value text : List UInt8} (hkey : ∀ c ∈ key, Plain c)
    (hvalue : ∀ rest, stringBody (text ++ 34 :: rest) = some (value, rest)) (rest : List UInt8) :
    member (34 :: (key ++ 34 :: 58 :: 32 :: 34 :: (text ++ 34 :: rest)))
      = some ((key, value), rest) := by
  have hopen : ∀ text : List UInt8, expect 34 (34 :: text) = some text := fun text => by
    rw [expect_cons rfl, if_pos rfl]
  have hcolon : ∀ text : List UInt8, expect 58 (58 :: text) = some text := fun text => by
    rw [expect_cons rfl, if_pos rfl]
  have hspace : ∀ text : List UInt8, expect 34 (32 :: text) = expect 34 text := fun text =>
    expect_space rfl text
  rw [member, hopen]
  simp [stringBody_append hkey, hvalue, hcolon, hspace, hopen]

theorem member_space {c : UInt8} (hc : isSpace c = true) (text : List UInt8) :
    member (c :: text) = member text := by
  rw [member, member, expect_space hc]

end Json
