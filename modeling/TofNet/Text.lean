import Mathlib.Data.List.DropRight
import Mathlib.Data.List.Infix
import Mathlib.Logic.Function.Basic

/-!
# Byte strings

The string functions of the C and C++ libraries that the relay's two programs
parse with, in the "C" locale, on strings of bytes: character classes,
trimming, substring search, lines, numbers and paths. The last section is
about tables filled by assignments in order, where the last one counts.

The functions are named by what they are in the library, and are total: where
the library throws, the result is none. There are only the lemmas that the
modules with texts use.
-/

/-! ## Characters

The classes of the "C" locale, in which no byte beyond 127 is in any of them. -/

/-- `isspace`. -/
def isSpace (c : UInt8) : Bool := c = 32 || (9 ≤ c && c ≤ 13)

/-- `isdigit`. -/
def isDigit (c : UInt8) : Bool := 48 ≤ c && c ≤ 57

/-- `isalnum`. -/
def isAlnum (c : UInt8) : Bool := isDigit c || (65 ≤ c && c ≤ 90) || (97 ≤ c && c ≤ 122)

/-! ## Searching

Two of the functions cut a string in two: behind the first occurrence of another
string, and at the last character of a kind. -/

/-- Leading and trailing white space removed. -/
def trim (s : List UInt8) : List UInt8 := (s.dropWhile isSpace).rdropWhile isSpace

/-- `s.find(sub) != npos`. -/
def contains (sub s : List UInt8) : Bool := decide (sub <:+: s)

/-- What follows the first occurrence of `sub`, if there is one. -/
def afterFirst (sub : List UInt8) : List UInt8 → Option (List UInt8)
  | [] => if sub = [] then some [] else none
  | c :: s => if sub <+: c :: s then some ((c :: s).drop sub.length) else afterFirst sub s

/-- The string cut at the last character `p` holds of, if there is one. -/
def cutLast (p : UInt8 → Bool) (s : List UInt8) : Option (List UInt8 × List UInt8) :=
  let tail := s.rtakeWhile (fun c => !p c)
  if tail.length = s.length then none
  else some (s.take (s.length - tail.length - 1), tail)

/-- The pieces successive `std::getline` calls read: an empty piece behind
the last delimiter is not one of them. -/
def getlines (delimiter : UInt8) (s : List UInt8) : List (List UInt8) :=
  let pieces := s.splitOn delimiter
  if pieces.getLast? = some [] then pieces.dropLast else pieces

/-! ## Numbers

`std::stoi` reads as far as it can and does not mind what comes behind. -/

/-- The value of a string of digits. -/
def digits (s : List UInt8) : ℕ := s.foldl (fun n c => 10 * n + (c.toNat - 48)) 0

/-- `std::stoi`: white space, a sign, and as many digits as there are; it
throws where there is none and where the value does not fit an `int`. -/
def stoi (s : List UInt8) : Option Int :=
  let s := s.dropWhile isSpace
  let negative := s.head? = some 45
  let s := if s.head? = some 45 ∨ s.head? = some 43 then s.drop 1 else s
  let ds := s.takeWhile isDigit
  if ds = [] then none
  else
    let value : Int := if negative then -(digits ds : Int) else digits ds
    if -2147483648 ≤ value ∧ value ≤ 2147483647 then some value else none

/-! ## Paths

A path is cut at its last separator, of either kind. -/

/-- The characters between which a path has its components. -/
def isSeparator (c : UInt8) : Bool := c = 47 || c = 92

/-- A path's last component. -/
def baseName (path : List UInt8) : List UInt8 := path.rtakeWhile (fun c => !isSeparator c)

/-- The directory a path is in. -/
def dirnameOf (path : List UInt8) : List UInt8 :=
  match cutLast isSeparator path with
  | none => [46]
  | some ([], _) => path.take 1
  | some (dir, _) => dir

/-- A path in a directory. -/
def joinPath (base rel : List UInt8) : List UInt8 :=
  if base = [] ∨ base = [46] then rel
  else if base.getLast?.any isSeparator then base ++ rel
  else base ++ [47] ++ rel

/-- The last component of a joined path is the name that was joined to it. -/
theorem baseName_joinPath {base rel : List UInt8} (h : ∀ c ∈ rel, isSeparator c = false) :
    baseName (joinPath base rel) = rel := by
  have hrev : ∀ c ∈ rel.reverse, (!isSeparator c) = true := by
    intro c hc
    rw [h c (List.mem_reverse.mp hc)]
    rfl
  have hcut : ∀ pre : List UInt8, (∀ c, pre.getLast? = some c → isSeparator c = true) →
      baseName (pre ++ rel) = rel := by
    intro pre hpre
    have hnil : pre.reverse.takeWhile (fun c => !isSeparator c) = [] := by
      cases hp : pre.reverse with
      | nil => rfl
      | cons c cs =>
        have hlast : pre.getLast? = some c := by rw [← List.head?_reverse, hp]; rfl
        rw [List.takeWhile_cons, hpre c hlast]
        rfl
    rw [baseName, List.rtakeWhile, List.reverse_append, List.takeWhile_append_of_pos hrev, hnil,
      List.append_nil, List.reverse_reverse]
  unfold joinPath
  split
  · exact hcut [] (by simp)
  · split
    · next hlast =>
      refine hcut base (fun c hc => ?_)
      rw [hc] at hlast
      exact hlast
    · refine hcut (base ++ [47]) (fun c hc => ?_)
      rw [List.getLast?_append] at hc
      cases hc
      rfl

/-! ## Tables filled in order

A table that is filled by assignments is what the last of them leaves for each
key, so that an earlier line of a file counts only where no later one has the
key. -/

section Table

variable {κ ν : Type} [DecidableEq κ]

/-- The table a list of assignments leaves. -/
def assignAll (assigns : List (κ × ν)) : κ → Option ν :=
  assigns.foldl (fun m a => Function.update m a.1 (some a.2)) (fun _ => none)

/-- **The last assignment counts.** -/
theorem assignAll_append (assigns : List (κ × ν)) (a : κ × ν) :
    assignAll (assigns ++ [a]) = Function.update (assignAll assigns) a.1 (some a.2) := by
  rw [assignAll, List.foldl_append]
  rfl

/-- **What a key is left with** is its last assignment's value. -/
theorem assignAll_eq_some_iff {assigns : List (κ × ν)} {k : κ} {v : ν} :
    assignAll assigns k = some v ↔
      ∃ pre post, assigns = pre ++ (k, v) :: post ∧ ∀ a ∈ post, a.1 ≠ k := by
  induction assigns using List.reverseRecOn with
  | nil => simp [assignAll]
  | append_singleton assigns a ih =>
    obtain ⟨k', v'⟩ := a
    rw [assignAll_append]
    by_cases hk : k = k'
    · subst hk
      rw [Function.update_self]
      constructor
      · intro h
        cases h
        exact ⟨assigns, [], rfl, fun _ ha => absurd ha List.not_mem_nil⟩
      · rintro ⟨pre, post, heq, hpost⟩
        rcases List.eq_nil_or_concat post with rfl | ⟨post', a', rfl⟩
        · cases (List.append_inj' heq rfl).2
          rfl
        · have heq' : assigns ++ [(k, v')] = (pre ++ (k, v) :: post') ++ [a'] := by
            rw [heq, List.concat_eq_append, List.append_assoc]
            rfl
          cases (List.append_inj' heq' rfl).2
          exact absurd rfl (hpost (k, v') (by simp))
    · rw [Function.update_of_ne hk, ih]
      constructor
      · rintro ⟨pre, post, rfl, hpost⟩
        refine ⟨pre, post ++ [(k', v')], by simp, fun a ha => ?_⟩
        rcases List.mem_append.mp ha with ha | ha
        · exact hpost a ha
        · cases List.mem_singleton.mp ha
          exact fun h => hk h.symm
      · rintro ⟨pre, post, heq, hpost⟩
        rcases List.eq_nil_or_concat post with rfl | ⟨post', a', rfl⟩
        · have hlast : [(k', v')] = [(k, v)] := (List.append_inj' heq rfl).2
          cases hlast
          exact absurd rfl hk
        · have heq' : assigns ++ [(k', v')] = (pre ++ (k, v) :: post') ++ [a'] := by
            rw [heq, List.concat_eq_append, List.append_assoc]
            rfl
          have hinit := (List.append_inj' heq' rfl).1
          exact ⟨pre, post', hinit, fun a ha => hpost a (by simp [ha])⟩

end Table
