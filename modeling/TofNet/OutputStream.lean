import Mathlib.Data.List.TakeDrop

/-!
# Buffered output

A stream that writes a file passes on what it is given when it likes: a write
may return while all of it, some of it or none of it has reached the disk, and
what is still held goes there when the stream is closed. A write that fails
says so, and nothing more is written. The closing says nothing when the stream
is a local variable, since a destructor has nobody to say it to.

What is on the disk is a front of what was written at any time
(`disk_append_held`), and all of it exactly if the closing moves what was held
(`disk_close`).

A stream that stays open over many records is flushed behind each of them, and
a flush that fails is not the end of what was given to it: the buffer keeps
what it holds, and the closing tries again. It then starts where the buffer
starts, so that a part which the flush has moved already may be written a
second time. This is the one way in which the disk stops being a front of what
was given (`Front`): as long as nothing is written twice, a record is on the
disk as a whole, or as far as a failure let it come, or not at all
(`Front.print`, `Front.close`).
-/

/-- **A file being written**: what is on the disk, what the stream still holds,
and whether no call has failed yet. -/
structure OutputStream (α : Type) where
  /-- What is on the disk. -/
  disk : List α := []
  /-- What is in the buffer. -/
  held : List α := []
  /-- No call has failed. -/
  good : Bool := true

/-- How a write goes: so many elements reach the disk before it returns, and
whether it fails. -/
structure WriteAnswer where
  /-- How many elements have reached the disk. -/
  moved : ℕ
  /-- The write has not failed. -/
  ok : Bool
  deriving DecidableEq

/-- How the printing of a record goes, with the flush behind it. Without a
failure all of it is on the disk. With one, `taken` elements of the record came
into the buffer, `moved` elements of the buffer reached the disk, and `again`
of these are in the buffer still. -/
structure PrintAnswer where
  /-- Nothing has failed. -/
  ok : Bool := true
  /-- How many elements of the record have come into the buffer. -/
  taken : ℕ := 0
  /-- How many of the buffer have reached the disk. -/
  moved : ℕ := 0
  /-- How many of these are in the buffer still. -/
  again : ℕ := 0
  deriving DecidableEq

namespace OutputStream

variable {α : Type}

/-- Elements that are held reach the disk. -/
def move (n : ℕ) (s : OutputStream α) : OutputStream α :=
  { s with disk := s.disk ++ s.held.take n, held := s.held.drop n }

/-- `write`. -/
def write (data : List α) (a : WriteAnswer) (s : OutputStream α) : OutputStream α :=
  if s.good then { move a.moved { s with held := s.held ++ data } with good := a.ok } else s

/-- `<<`, of what the buffer has room for. -/
def put (data : List α) (s : OutputStream α) : OutputStream α :=
  if s.good then { s with held := s.held ++ data } else s

/-- `flush`. -/
def flush (a : PrintAnswer) (s : OutputStream α) : OutputStream α :=
  if a.ok then { s with disk := s.disk ++ s.held, held := [] }
  else { disk := s.disk ++ s.held.take a.moved
         held := s.held.drop (a.moved - a.again)
         good := false }

/-- A record is put into the stream, which is flushed. -/
def print (data : List α) (a : PrintAnswer) (s : OutputStream α) : OutputStream α :=
  (s.put (if a.ok then data else data.take a.taken)).flush a

/-- The closing, which moves so many of the elements that are held, and loses
the others. -/
def close (n : ℕ) (s : OutputStream α) : OutputStream α := { s.move n with held := [] }

/-- The closing loses something. -/
def loses (n : ℕ) (s : OutputStream α) : Bool := n < s.held.length

/-- The closing, which moves so many elements, moves none that is on the disk
already. -/
def Fresh (n : ℕ) (s : OutputStream α) : Prop := ∀ b ∈ s.held.take n, b ∉ s.disk

instance [DecidableEq α] (n : ℕ) (s : OutputStream α) : Decidable (s.Fresh n) :=
  inferInstanceAs (Decidable (∀ b ∈ _, _))

variable (s : OutputStream α) (data : List α) (a : WriteAnswer) (n : ℕ)

@[simp] theorem move_disk_append_held : (s.move n).disk ++ (s.move n).held = s.disk ++ s.held := by
  show s.disk ++ s.held.take n ++ s.held.drop n = s.disk ++ s.held
  rw [List.append_assoc, List.take_append_drop]

/-- **A write appends.** -/
theorem disk_append_held (h : s.good = true) :
    (s.write data a).disk ++ (s.write data a).held = s.disk ++ s.held ++ data := by
  rw [write, if_pos h]
  have hmove := move_disk_append_held { s with held := s.held ++ data } a.moved
  rwa [← List.append_assoc] at hmove

/-- Whether a write fails is its answer. -/
@[simp] theorem good_write (h : s.good = true) : (s.write data a).good = a.ok := by
  rw [write, if_pos h]

@[simp] theorem disk_close : (s.close n).disk = s.disk ++ s.held.take n := rfl

/-- **The closing loses nothing exactly if all that was written is on the disk
then.** -/
theorem disk_close_eq_iff : (s.close n).disk = s.disk ++ s.held ↔ s.loses n = false := by
  rw [disk_close, List.append_right_inj, List.take_eq_self_iff]
  simp [loses]

/-! ## Records

A record that is printed without a failure leaves nothing in the buffer, so
that the disk has all records up to it. What a failure leaves in the buffer
continues what is on the disk, or begins with something that is on it. -/

/-- What is on the disk is a front of what was given; and what is held
continues it, unless it begins with something that is on the disk. -/
structure Front (given : List α) (s : OutputStream α) : Prop where
  /-- The disk has a front of what was given. -/
  disk : s.disk <+: given
  /-- The buffer continues it, unless it repeats something. -/
  held : s.disk ++ s.held <+: given ∨ ∃ b ∈ s.held.head?, b ∈ s.disk

variable {s data n} {given : List α} {p : PrintAnswer}

@[simp] theorem held_put (h : s.good = true) : (s.put data).held = s.held ++ data := by
  rw [put, if_pos h]

theorem put_empty (data : List α) : ({} : OutputStream α).put data = { held := data } := rfl

@[simp] theorem disk_put : (s.put data).disk = s.disk := by
  unfold put
  split <;> rfl

@[simp] theorem good_put : (s.put data).good = s.good := by
  unfold put
  split <;> rfl

/-- Whether a record was printed is its answer. -/
theorem good_print (h : s.good = true) : (s.print data p).good = p.ok := by
  unfold print flush
  cases p.ok with
  | true => exact good_put.trans h
  | false => rfl

/-- **A record that is printed is on the disk**, with all that was held. -/
theorem print_of_ok (data : List α) (h : s.good = true) (hok : p.ok = true) :
    (s.print data p).disk = s.disk ++ s.held ++ data ∧ (s.print data p).held = [] := by
  unfold print flush
  rw [if_pos hok, if_pos hok, disk_put, held_put h]
  exact ⟨(List.append_assoc _ _ _).symm, rfl⟩

/-- What is held by a stream that has given on all it could is a front. -/
theorem Front.of_eq (h : s.disk ++ s.held = given) : s.Front given :=
  ⟨⟨s.held, h⟩, Or.inl ⟨[], by rw [List.append_nil, h]⟩⟩

/-- A flush that fails leaves a front. -/
theorem Front.flush (h : s.disk ++ s.held <+: given) (hfail : p.ok = false) :
    (s.flush p).Front given := by
  have htake : s.disk ++ s.held.take p.moved <+: s.disk ++ s.held :=
    List.prefix_append_right_inj _ |>.mpr (List.take_prefix _ _)
  unfold OutputStream.flush
  rw [if_neg (by rw [hfail]; exact Bool.false_ne_true)]
  refine ⟨htake.trans h, ?_⟩
  dsimp only
  by_cases hagain : p.moved - p.again = p.moved
  · left
    rw [hagain, List.append_assoc, List.take_append_drop]
    exact h
  · -- the buffer begins behind the disk, with an element that was moved
    have hlt : p.moved - p.again < p.moved := Nat.lt_of_le_of_ne (Nat.sub_le _ _) hagain
    rcases Nat.lt_or_ge (p.moved - p.again) s.held.length with hin | hout
    · right
      refine ⟨s.held[p.moved - p.again], ?_, List.mem_append_right _ ?_⟩
      · rw [List.head?_drop, List.getElem?_eq_getElem hin]
        rfl
      · exact List.mem_take_iff_getElem.mpr ⟨_, Nat.lt_min.mpr ⟨hlt, hin⟩, rfl⟩
    · left
      rw [List.drop_eq_nil_of_le hout, List.append_nil]
      exact htake.trans h

/-- **A record that is not printed leaves a front** of what was given, with the
record. -/
theorem Front.print (h : s.disk ++ s.held = given) (hgood : s.good = true) :
    (s.print data p).Front (given ++ data) := by
  cases hok : p.ok with
  | true =>
    obtain ⟨hdisk, hheld⟩ := print_of_ok data hgood hok
    refine Front.of_eq ?_
    rw [hdisk, hheld, List.append_nil, h]
  | false =>
    refine Front.flush ?_ hok
    rw [hok, if_neg Bool.false_ne_true, disk_put, held_put hgood, ← List.append_assoc, h]
    exact (List.prefix_append_right_inj _).mpr (List.take_prefix _ _)

/-- **The closing of a front leaves a front on the disk**, if nothing is
written twice. -/
theorem Front.close (h : s.Front given) (hfresh : s.Fresh n) : (s.close n).disk <+: given := by
  rw [disk_close]
  rcases h.held with hheld | ⟨b, hb, hdisk⟩
  · exact ((List.prefix_append_right_inj _).mpr (List.take_prefix _ _)).trans hheld
  · -- the first element that is held is on the disk, so that none is moved
    obtain ⟨rest, hrest⟩ : ∃ rest, s.held = b :: rest := List.head?_eq_some_iff.mp hb
    cases n with
    | zero =>
      rw [List.take_zero, List.append_nil]
      exact h.disk
    | succ n =>
      refine absurd hdisk (hfresh b ?_)
      rw [hrest, List.take_succ_cons]
      exact List.mem_cons_self

end OutputStream
