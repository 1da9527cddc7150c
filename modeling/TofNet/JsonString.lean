import TofNet.JsonText

/-!
# Strings of a JSON text

A reader of a whole JSON text that is one string. A JSON text is UTF-8: the
reader takes a string only where the octets are, and refuses control
characters, which must be written as escapes.

A writer that escapes characters one by one is correct if each character,
written, is read back as itself, and if nothing it writes could end the string
early. This is what `Escapes` asks of a function of one character, and
`Escapes.string_iff` is what follows for all texts. Whether the text is UTF-8 is
a question of its own: an escape is of ASCII characters, none of which may stand
inside a character of several octets.
-/

/-! ## UTF-8

A run over the octets, with what is still owed to the character that has begun:
the bounds of the next octet, and of those behind it. The bounds exclude what is
too long, a surrogate, or beyond the last plane. -/

namespace Utf8

/-- **One octet**, given between which bounds the ones must be that are still
owed to a character; none where no UTF-8 goes on like this. -/
def next (owed : List (UInt8 × UInt8)) (b : UInt8) : Option (List (UInt8 × UInt8)) :=
  match owed with
  | (low, high) :: more => if low ≤ b ∧ b ≤ high then some more else none
  | [] =>
    if b ≤ 0x7F then some []
    else if 0xC2 ≤ b ∧ b ≤ 0xDF then some [(0x80, 0xBF)]
    else if b = 0xE0 then some [(0xA0, 0xBF), (0x80, 0xBF)]
    else if b = 0xED then some [(0x80, 0x9F), (0x80, 0xBF)]
    else if 0xE1 ≤ b ∧ b ≤ 0xEF then some [(0x80, 0xBF), (0x80, 0xBF)]
    else if b = 0xF0 then some [(0x90, 0xBF), (0x80, 0xBF), (0x80, 0xBF)]
    else if 0xF1 ≤ b ∧ b ≤ 0xF3 then some [(0x80, 0xBF), (0x80, 0xBF), (0x80, 0xBF)]
    else if b = 0xF4 then some [(0x80, 0x8F), (0x80, 0xBF), (0x80, 0xBF)]
    else none

/-- All octets, and whether nothing is owed at the end. -/
def run : List (UInt8 × UInt8) → List UInt8 → Bool
  | owed, [] => owed.isEmpty
  | owed, b :: bs =>
    match next owed b with
    | some owed => run owed bs
    | none => false

/-- **The octets are UTF-8.** -/
def Valid (bs : List UInt8) : Prop := run [] bs = true

instance (bs : List UInt8) : Decidable (Valid bs) := inferInstanceAs (Decidable (_ = true))

/-- Octets of continuations are not ASCII. -/
def Owed (owed : List (UInt8 × UInt8)) : Prop := ∀ bounds ∈ owed, 0x80 ≤ bounds.1

theorem owed_of_all {owed : List (UInt8 × UInt8)}
    (h : owed.all (fun bounds => decide (0x80 ≤ bounds.1)) = true) : Owed owed :=
  fun bounds hbounds => of_decide_eq_true (List.all_eq_true.mp h bounds hbounds)

theorem owed_next {owed owed' : List (UInt8 × UInt8)} {b : UInt8} (h : Owed owed)
    (hnext : next owed b = some owed') : Owed owed' := by
  cases owed with
  | cons bounds more =>
    rw [next] at hnext
    split at hnext
    · rw [← Option.some.inj hnext]
      exact fun bounds hbounds => h bounds (List.mem_cons_of_mem _ hbounds)
    · cases hnext
  | nil =>
    rw [next] at hnext
    split_ifs at hnext
    all_goals
      cases hnext
      exact owed_of_all rfl

/-- **ASCII characters can be replaced by several**: none may stand inside a
character, and behind each nothing is owed. -/
theorem run_ascii {owed : List (UInt8 × UInt8)} (h : Owed owed) {c : UInt8} (hc : c ≤ 0x7F)
    (bs : List UInt8) : run owed (c :: bs) = (owed.isEmpty && run [] bs) := by
  cases owed with
  | nil =>
    rw [run, next, if_pos hc]
    rfl
  | cons bounds more =>
    have hlow : ¬ (bounds.1 ≤ c ∧ c ≤ bounds.2) := by
      intro hbetween
      have hle := UInt8.le_trans (UInt8.le_trans (h bounds List.mem_cons_self) hbetween.1) hc
      exact absurd hle (by decide)
    rw [run, next, if_neg hlow]
    rfl

/-- Two ASCII characters for one. -/
theorem run_pair {owed : List (UInt8 × UInt8)} (h : Owed owed) {b b' c : UInt8} (hb : b ≤ 0x7F)
    (hb' : b' ≤ 0x7F) (hc : c ≤ 0x7F) (bs : List UInt8) :
    run owed (b :: b' :: bs) = run owed (c :: bs) := by
  rw [run_ascii h hb, run_ascii h hc, run_ascii (fun _ h => absurd h List.not_mem_nil) hb']
  rfl

/-- Behind characters that are complete nothing is owed. -/
theorem run_append {owed : List (UInt8 × UInt8)} {front : List UInt8} (h : run owed front = true)
    (back : List UInt8) : run owed (front ++ back) = run [] back := by
  induction front generalizing owed with
  | nil =>
    rw [List.isEmpty_iff.mp h]
    rfl
  | cons b front ih =>
    rw [List.cons_append, run]
    rw [run] at h
    cases hnext : next owed b with
    | none =>
      rw [hnext] at h
      cases h
    | some owed' =>
      rw [hnext] at h
      exact ih h

theorem Valid.append {front back : List UInt8} (hfront : Valid front) (hback : Valid back) :
    Valid (front ++ back) :=
  (run_append hfront back).trans hback

end Utf8

namespace Json

/-- A control character is refused. -/
theorem stringBody_cons_of_control {c : UInt8} (hc : c < 32) (rest : List UInt8) :
    stringBody (c :: rest) = none := by
  have hne : ∀ d : UInt8, ¬ d < 32 → c ≠ d := fun d hd heq => hd (heq ▸ hc)
  rw [stringBody.eq_def]
  split
  · rename_i heq
    cases heq
  · rename_i heq
    exact absurd (List.cons.inj heq).1 (hne 34 (by decide))
  · rename_i heq
    exact absurd (List.cons.inj heq).1 (hne 92 (by decide))
  · rename_i heq
    exact absurd (List.cons.inj heq).1 (hne 92 (by decide))
  · rename_i heq
    obtain ⟨rfl, rfl⟩ := List.cons.inj heq
    rw [if_pos (.inl hc)]

/-- **A text that is one string.** -/
def string (text : List UInt8) : Option (List UInt8) :=
  if Utf8.Valid text ∧ text.head? = some 34 then
    match stringBody text.tail with
    | some (value, []) => some value
    | _ => none
  else none

/-- **A way to write characters between quotes**: those that are `Readable` are
read back, the others are refused, and the octets are UTF-8 if and only if they
were. -/
structure Escapes (e : UInt8 → List UInt8) (Readable : UInt8 → Prop) : Prop where
  reads : ∀ c, Readable c → ∀ rest,
    stringBody (e c ++ rest) = (stringBody rest).map fun r => (c :: r.1, r.2)
  refuses : ∀ c, ¬ Readable c → ∀ rest, stringBody (e c ++ rest) = none
  utf8 : ∀ c owed, Utf8.Owed owed → ∀ bs, Utf8.run owed (e c ++ bs) = Utf8.run owed (c :: bs)

variable {e : UInt8 → List UInt8} {Readable : UInt8 → Prop} {value : List UInt8}

/-- Characters that are written so that each is read back. -/
theorem stringBody_flatMap (h : ∀ c ∈ value, ∀ rest,
      stringBody (e c ++ rest) = (stringBody rest).map fun r => (c :: r.1, r.2))
    (rest : List UInt8) : stringBody (value.flatMap e ++ 34 :: rest) = some (value, rest) := by
  induction value with
  | nil => rfl
  | cons c value ih =>
    rw [List.flatMap_cons, List.append_assoc, h c List.mem_cons_self,
      ih fun d hd => h d (List.mem_cons_of_mem c hd)]
    rfl

theorem Escapes.stringBody_flatMap (he : Escapes e Readable) (h : ∀ c ∈ value, Readable c)
    (rest : List UInt8) : stringBody (value.flatMap e ++ 34 :: rest) = some (value, rest) :=
  Json.stringBody_flatMap (fun c hc => he.reads c (h c hc)) rest

theorem Escapes.stringBody_flatMap_of_not (he : Escapes e Readable)
    (h : ¬ ∀ c ∈ value, Readable c) (rest : List UInt8) :
    stringBody (value.flatMap e ++ rest) = none := by
  induction value with
  | nil => exact absurd (fun c hc => absurd hc List.not_mem_nil) h
  | cons c value ih =>
    rw [List.flatMap_cons, List.append_assoc]
    by_cases hc : Readable c
    · rw [he.reads c hc, ih fun hall => h (List.forall_mem_cons.mpr ⟨hc, hall⟩)]
      rfl
    · exact he.refuses c hc _

/-- Characters that are written as octets that end where they do. -/
theorem run_flatMap (h : ∀ c owed, Utf8.Owed owed → ∀ bs,
      Utf8.run owed (e c ++ bs) = Utf8.run owed (c :: bs))
    {owed : List (UInt8 × UInt8)} (howed : Utf8.Owed owed) (rest : List UInt8) :
    Utf8.run owed (value.flatMap e ++ rest) = Utf8.run owed (value ++ rest) := by
  induction value generalizing owed with
  | nil => rfl
  | cons c value ih =>
    rw [List.flatMap_cons, List.append_assoc, h c owed howed, List.cons_append, Utf8.run,
      Utf8.run]
    cases hnext : Utf8.next owed c with
    | none => rfl
    | some owed' => exact ih (Utf8.owed_next howed hnext)

/-- A quote behind UTF-8. -/
theorem run_append_quote {owed : List (UInt8 × UInt8)} (howed : Utf8.Owed owed)
    (bs : List UInt8) : Utf8.run owed (bs ++ [34]) = Utf8.run owed bs := by
  induction bs generalizing owed with
  | nil =>
    rw [List.nil_append, Utf8.run_ascii howed (by decide)]
    exact Bool.and_true _
  | cons b bs ih =>
    rw [List.cons_append, Utf8.run, Utf8.run]
    cases hnext : Utf8.next owed b with
    | none => rfl
    | some owed' => exact ih (Utf8.owed_next howed hnext)

/-- **A string is read back exactly if it is UTF-8 and has readable characters
only.** -/
theorem Escapes.string_iff (he : Escapes e Readable) :
    string (34 :: (value.flatMap e ++ [34])) = some value ↔
      Utf8.Valid value ∧ ∀ c ∈ value, Readable c := by
  have hnil : Utf8.Owed [] := fun _ h => absurd h List.not_mem_nil
  have hvalid : Utf8.Valid (34 :: (value.flatMap e ++ [34])) ↔ Utf8.Valid value := by
    unfold Utf8.Valid
    rw [Utf8.run_ascii hnil (by decide), run_flatMap he.utf8 hnil, run_append_quote hnil]
    rfl
  unfold string
  by_cases hutf8 : Utf8.Valid value
  · rw [if_pos ⟨hvalid.mpr hutf8, rfl⟩, List.tail_cons]
    by_cases hreadable : ∀ c ∈ value, Readable c
    · rw [he.stringBody_flatMap hreadable]
      exact iff_of_true rfl ⟨hutf8, hreadable⟩
    · rw [he.stringBody_flatMap_of_not hreadable]
      exact iff_of_false (fun h => nomatch h) fun h => hreadable h.2
  · rw [if_neg fun h => hutf8 (hvalid.mp h.1)]
    exact iff_of_false (fun h => nomatch h) fun h => hutf8 h.1

end Json
