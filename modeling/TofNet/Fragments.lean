import Mathlib.Data.List.Basic

/-!
# Messages in fragments

A link gives a message away in one piece or in several, and says of each piece
whether it is the last. A collector that is given the pieces keeps those that
are not the last, and hands on what it has when the last one comes.

There are two kinds of collectors: one forgets the pieces of a message when it
has handed it on, and one does not. The first hands on each message, however it
was cut (`run_forgetting`). The second does so up to the first message in
several pieces, that one included; whatever comes behind it is handed on with
all the pieces in front (`run_keeping`).

A message is known from its last piece and those in front of it. A collector
that forgets is one whose memory is empty between two messages, and this is all
that an induction over the messages needs. One that keeps the pieces hands on
each message with everything in front of it that was ever cut off (`piledUp`);
it hands the messages on as they are if and only if nothing was piled up, and
that is said in `run_keeping_iff` of messages that are not empty, since an empty
one in pieces would not be seen.
-/

namespace Fragments

variable {α : Type}

/-- A piece of a message. -/
structure Chunk (α : Type) where
  bytes : List α
  isLast : Bool
  deriving DecidableEq

/-- A message, as it was cut: the last piece, and those in front of it. -/
structure Cut (α : Type) where
  front : List (List α)
  back : List α
  deriving DecidableEq

/-- What was cut. -/
def Cut.message (c : Cut α) : List α := c.front.flatten ++ c.back

/-- It is in one piece. -/
def Cut.isWhole (c : Cut α) : Bool := c.front.isEmpty

/-- The pieces. -/
def Cut.chunks (c : Cut α) : List (Chunk α) := c.front.map (⟨·, false⟩) ++ [⟨c.back, true⟩]

/-- What a collector keeps. -/
structure Collector (α : Type) where
  hasFragments : Bool := false
  data : List α := []
  deriving DecidableEq

namespace Collector

/-- A piece comes: what is kept then, and what is handed on. -/
def receive (forgets : Bool) (d : Collector α) (c : Chunk α) : Collector α × Option (List α) :=
  if c.isLast then
    if d.hasFragments then
      (if forgets then {} else { d with data := d.data ++ c.bytes }, some (d.data ++ c.bytes))
    else (if forgets then {} else d, some c.bytes)
  else ({ hasFragments := true, data := d.data ++ c.bytes }, none)

/-- Piece after piece. -/
def run (forgets : Bool) : Collector α → List (Chunk α) → Collector α × List (List α)
  | d, [] => (d, [])
  | d, c :: cs =>
    let next := d.receive forgets c
    let last := next.1.run forgets cs
    (last.1, next.2.toList ++ last.2)

variable {forgets : Bool} {d : Collector α} {data m : List α} {c : Cut α} {cs : List (Cut α)}

theorem run_append (forgets : Bool) (d : Collector α) (cs ds : List (Chunk α)) :
    d.run forgets (cs ++ ds)
      = (((d.run forgets cs).1.run forgets ds).1,
          (d.run forgets cs).2 ++ ((d.run forgets cs).1.run forgets ds).2) := by
  induction cs generalizing d with
  | nil => rfl
  | cons c cs ih =>
    rw [List.cons_append, run, run]
    dsimp only
    rw [ih, List.append_assoc]

/-- Pieces that are not the last are kept. -/
theorem run_front (data : List α) (front : List (List α)) :
    (Collector.mk true data).run forgets (front.map (⟨·, false⟩))
      = (⟨true, data ++ front.flatten⟩, []) := by
  induction front generalizing data with
  | nil => rw [List.flatten_nil, List.append_nil, List.map_nil, run]
  | cons p ps ih =>
    rw [List.map_cons, run, receive, if_neg Bool.false_ne_true]
    dsimp only
    rw [ih, List.flatten_cons, List.append_assoc]
    rfl

/-- A message behind pieces that were kept. -/
theorem run_kept (data : List α) (c : Cut α) :
    (Collector.mk true data).run forgets c.chunks
      = (if forgets then {} else ⟨true, data ++ c.message⟩, [data ++ c.message]) := by
  rw [Cut.chunks, run_append, run_front, Cut.message, ← List.append_assoc]
  rfl

/-- A message behind none. -/
theorem run_chunks (c : Cut α) :
    (Collector.mk false []).run forgets c.chunks
      = (if forgets || c.isWhole then {} else ⟨true, c.message⟩, [c.message]) := by
  obtain ⟨front, back⟩ := c
  cases front with
  | nil => cases forgets <;> rfl
  | cons p ps =>
    have hkept := @run_kept α forgets p ⟨ps, back⟩
    rw [Cut.chunks] at hkept
    rw [Cut.chunks, List.map_cons, List.cons_append, run, receive, if_neg Bool.false_ne_true]
    dsimp only
    rw [List.nil_append, hkept, Cut.message, Cut.message, List.flatten_cons, List.append_assoc]
    cases forgets <;> rfl

/-- **A collector that forgets hands on each message**, however it was cut. -/
theorem run_forgetting (cs : List (Cut α)) :
    ({} : Collector α).run true (cs.flatMap Cut.chunks) = ({}, cs.map Cut.message) := by
  induction cs with
  | nil => rfl
  | cons c cs ih =>
    rw [List.flatMap_cons, run_append, run_chunks]
    dsimp only
    rw [Bool.true_or, if_pos rfl, ih, List.map_cons]
    rfl

/-- What is handed on behind pieces that are never forgotten: each message with
all that was there before. -/
def piledUp : List α → List (Cut α) → List (List α)
  | _, [] => []
  | data, c :: cs => (data ++ c.message) :: piledUp (data ++ c.message) cs

theorem run_piledUp (data : List α) (cs : List (Cut α)) :
    ((Collector.mk true data).run false (cs.flatMap Cut.chunks)).2 = piledUp data cs := by
  induction cs generalizing data with
  | nil => rfl
  | cons c cs ih =>
    rw [List.flatMap_cons, run_append, run_kept]
    dsimp only
    rw [if_neg Bool.false_ne_true, ih]
    rfl

/-- **A collector that keeps the pieces**: up to the first message in several
pieces it hands on each, and whatever comes behind with all of it. -/
theorem run_keeping (cs : List (Cut α)) :
    (({} : Collector α).run false (cs.flatMap Cut.chunks)).2
      = (cs.takeWhile Cut.isWhole).map Cut.message
        ++ piledUp [] (cs.dropWhile Cut.isWhole) := by
  induction cs with
  | nil => rfl
  | cons c cs ih =>
    rw [List.flatMap_cons, run_append, run_chunks, Bool.false_or]
    dsimp only
    cases hwhole : c.isWhole with
    | true =>
      rw [if_pos rfl, ih, List.takeWhile_cons_of_pos hwhole, List.dropWhile_cons_of_pos hwhole]
      rfl
    | false =>
      rw [if_neg Bool.false_ne_true, run_piledUp,
        List.takeWhile_cons_of_neg (by rw [hwhole]; exact Bool.false_ne_true),
        List.dropWhile_cons_of_neg (by rw [hwhole]; exact Bool.false_ne_true)]
      rfl

/-- Messages that are not empty are handed on as they are only if nothing was
piled up in front of them. -/
theorem piledUp_eq_iff (hc : c.message ≠ []) :
    piledUp [] (c :: cs) = (c :: cs).map Cut.message ↔ cs = [] := by
  constructor
  · intro h
    cases cs with
    | nil => rfl
    | cons c' cs =>
      rw [piledUp, piledUp, List.map_cons, List.map_cons, List.nil_append, List.cons.injEq,
        List.cons.injEq] at h
      exact absurd (List.append_left_eq_self.mp h.2.1) hc
  · rintro rfl
    rfl

/-- **A collector that keeps the pieces hands on the messages as they are** if
none is in several pieces, but for the last, and only then. -/
theorem run_keeping_iff (hcs : ∀ c ∈ cs, c.message ≠ []) :
    (({} : Collector α).run false (cs.flatMap Cut.chunks)).2 = cs.map Cut.message
      ↔ ∀ c ∈ cs.dropLast, c.isWhole = true := by
  rw [run_keeping]
  induction cs with
  | nil => exact ⟨fun _ _ h => (List.not_mem_nil h).elim, fun _ => rfl⟩
  | cons c cs ih =>
    obtain ⟨hc, hcs⟩ := List.forall_mem_cons.mp hcs
    cases hwhole : c.isWhole with
    | true =>
      rw [List.takeWhile_cons_of_pos hwhole, List.dropWhile_cons_of_pos hwhole, List.map_cons,
        List.map_cons, List.cons_append, List.cons.injEq, and_iff_right rfl, ih hcs]
      cases cs with
      | nil => rfl
      | cons c' cs =>
        rw [List.dropLast_cons_cons, List.forall_mem_cons, and_iff_right hwhole]
    | false =>
      have hpos : ¬ c.isWhole = true := by
        rw [hwhole]
        exact Bool.false_ne_true
      rw [List.takeWhile_cons_of_neg hpos, List.dropWhile_cons_of_neg hpos, List.map_nil,
        List.nil_append, piledUp_eq_iff hc]
      cases cs with
      | nil => exact ⟨fun _ _ h => (List.not_mem_nil h).elim, fun _ => rfl⟩
      | cons c' cs =>
        rw [List.dropLast_cons_cons, List.forall_mem_cons]
        exact ⟨fun h => absurd h (List.cons_ne_nil _ _),
          fun h => absurd h.1 hpos⟩

end Collector

end Fragments
