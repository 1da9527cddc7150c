import Mathlib.Data.List.TakeDrop
import Mathlib.Data.Int.Basic

/-!
# Reading a file

A stream that reads a file has a position, and two flags: the end of the file
was hit, and a call has failed. A read that the file holds enough for leaves
both alone, also when it ends where the file ends; a read that hits the end
sets both, and then neither a read nor a seek does anything.

Two lemmas are all that is needed of it: what a seek and a read do while no flag
is set and the file holds enough. A stream with a flag set is never recovered
here, as no program of this repository clears the flags.
-/

/-- **A file being read.** -/
structure InputStream (α : Type) where
  file : List α
  pos : ℕ := 0
  eof : Bool := false
  fail : Bool := false

namespace InputStream

variable {α : Type}

/-- No flag is set. -/
def good (s : InputStream α) : Bool := !s.eof && !s.fail

/-- `seekg`; a position in front of the file fails. -/
def seek (p : ℤ) (s : InputStream α) : InputStream α :=
  if s.fail then s
  else if p < 0 then { s with eof := false, fail := true }
  else { s with pos := p.toNat, eof := false }

/-- `read`: what is read, and the stream behind it. -/
def read (n : ℕ) (s : InputStream α) : List α × InputStream α :=
  if s.good then
    if s.pos + n ≤ s.file.length then ((s.file.drop s.pos).take n, { s with pos := s.pos + n })
    else (s.file.drop s.pos, { s with pos := s.file.length, eof := true, fail := true })
  else ([], { s with fail := true })

variable {s : InputStream α} {n : ℕ}

theorem seek_good {p : ℤ} (hs : s.good = true) (hp : 0 ≤ p) :
    s.seek p = { s with pos := p.toNat } ∧ (s.seek p).good = true := by
  simp only [good, Bool.and_eq_true, Bool.not_eq_true'] at hs
  have hseek : s.seek p = { s with pos := p.toNat } := by
    simp [seek, hs, Int.not_lt.mpr hp]
  refine ⟨hseek, ?_⟩
  rw [hseek]
  simp [good, hs]

/-- A read that the file holds enough for. -/
theorem read_good (hs : s.good = true) (hn : s.pos + n ≤ s.file.length) :
    s.read n = ((s.file.drop s.pos).take n, { s with pos := s.pos + n })
      ∧ (s.read n).2.good = true := by
  have hread : s.read n = ((s.file.drop s.pos).take n, { s with pos := s.pos + n }) := by
    rw [read, if_pos hs, if_pos hn]
  refine ⟨hread, ?_⟩
  rw [hread]
  exact hs

@[simp] theorem file_seek (p : ℤ) : (s.seek p).file = s.file := by
  unfold seek
  split
  · rfl
  · split <;> rfl

@[simp] theorem file_read : (s.read n).2.file = s.file := by
  unfold read
  split
  · split <;> rfl
  · rfl

end InputStream
