import Mathlib.Data.List.Basic

/-!
# Messages in packets

A link takes packets. A message is announced in a packet of its own, and then
comes in as many packets as it fills; what is behind its end in the last of
them is padding. A `Reader` takes the packets as they come: it has no other
notion of where a message begins than that the last one has ended.

So a message that is announced wrong, or that is empty and comes in no packet
at all, is not read as it was sent (`run_send_iff`), and from then on the
packets of other messages are read as what they are not.

The reader is a machine with two kinds of states, and a message takes it from
the first kind back to the first. What makes the induction on the packets go
through is to say how much of the message is read already, so that the lemmas
are about a reader in the middle of a message (`Reader.run_short`,
`Reader.run_message`), and about packets of which one too few would not do
(`Packed`).
-/

namespace PacketStream

variable {α : Type}

/-- Between two messages, or within one whose size was announced. -/
inductive Reader (α : Type)
  | idle
  | reading (size : ℕ) (got : List α)
  deriving DecidableEq

/-- **Packets that a message fills**: it is in front of what they hold, and the
last of them is not one too many. -/
structure Packed (ps : List (List α)) (m : List α) : Prop where
  front : m <+: ps.flatten
  tight : ∀ qs p, ps = qs ++ [p] → qs.flatten.length < m.length

/-- An empty message fills no packets. -/
theorem Packed.nil : Packed ([] : List (List α)) [] where
  front := List.prefix_refl _
  tight qs p h := absurd h (by simp)

/-- **A packet in front**, with as much of the message as it holds. -/
theorem Packed.cons {m p : List α} {ps : List (List α)} (hne : m ≠ [])
    (hp : m.take p.length <+: p) (h : Packed ps (m.drop p.length)) : Packed (p :: ps) m where
  front := by
    rw [List.flatten_cons]
    by_cases hlong : p.length ≤ m.length
    · have hall : m.take p.length = p :=
        hp.eq_of_length (by rw [List.length_take, Nat.min_eq_left hlong])
      have hfront := List.take_append_drop p.length m
      rw [hall] at hfront
      rw [← hfront]
      exact (List.prefix_append_right_inj p).mpr h.front
    · rw [List.take_of_length_le (Nat.le_of_not_le hlong)] at hp
      exact hp.trans (List.prefix_append ..)
  tight qs q heq := by
    cases qs with
    | nil => exact List.length_pos_of_ne_nil hne
    | cons p' qs =>
      obtain ⟨rfl, hps⟩ := List.cons.inj heq
      have hlt := h.tight qs q hps
      rw [List.length_drop] at hlt
      rw [List.flatten_cons, List.length_append]
      omega

namespace Reader

variable (announced : List α → ℕ)

/-- What a packet does, and the message that it completes. -/
def step : Reader α → List α → Reader α × Option (List α)
  | .idle, p => (.reading (announced p) [], none)
  | .reading size got, p =>
    if got.length + p.length < size then (.reading size (got ++ p), none)
    else (.idle, some ((got ++ p).take size))

/-- Packet after packet, and the messages they complete. -/
def run : Reader α → List (List α) → Reader α × List (List α)
  | r, [] => (r, [])
  | r, p :: ps =>
    let next := r.step announced p
    let last := next.1.run ps
    (last.1, next.2.toList ++ last.2)

variable {announced} {r : Reader α} {size : ℕ} {got p m : List α} {ps qs : List (List α)}

/-- Packets behind packets, as a reader takes them one at a time. -/
theorem run_append (r : Reader α) (ps qs : List (List α)) :
    r.run announced (ps ++ qs)
      = (((r.run announced ps).1.run announced qs).1,
          (r.run announced ps).2 ++ ((r.run announced ps).1.run announced qs).2) := by
  induction ps generalizing r with
  | nil => rfl
  | cons p ps ih =>
    rw [List.cons_append, run, run]
    dsimp only
    rw [ih, List.append_assoc]

/-- Packets that do not complete the message. -/
theorem run_short (h : got.length + ps.flatten.length < size) :
    (Reader.reading size got).run announced ps = (.reading size (got ++ ps.flatten), []) := by
  induction ps generalizing got with
  | nil => rw [List.flatten_nil, List.append_nil, run]
  | cons p ps ih =>
    rw [List.flatten_cons, List.length_append] at h
    have hstep : (Reader.reading size got).step announced p = (.reading size (got ++ p), none) :=
      if_pos (by omega)
    rw [run, hstep]
    dsimp only
    rw [ih (by rw [List.length_append]; omega), List.flatten_cons, List.append_assoc]
    rfl

/-- **The packets of a message, one too few of which would not complete it.** -/
theorem run_message (hlong : size ≤ (ps ++ [p]).flatten.length)
    (htight : ps = [] ∨ ps.flatten.length < size) :
    (Reader.reading size []).run announced (ps ++ [p])
      = (.idle, [(ps ++ [p]).flatten.take size]) := by
  rw [List.flatten_append, List.flatten_singleton] at hlong ⊢
  rw [List.length_append] at hlong
  have hlast : ∀ got : List α, got = ps.flatten →
      (Reader.reading size got).run announced [p] = (.idle, [(ps.flatten ++ p).take size]) := by
    rintro got rfl
    rw [run, step, if_neg (by omega)]
    rfl
  rcases htight with rfl | hlt
  · exact hlast [] rfl
  · rw [run_append, run_short (by simpa using hlt)]
    dsimp only
    rw [List.nil_append, hlast _ rfl, List.nil_append]

/-- The message that is completed next has the size that was announced. -/
theorem length_of_run (hgot : got.length ≤ size)
    (hm : ((Reader.reading size got).run announced ps).2.head? = some m) : m.length = size := by
  induction ps generalizing got with
  | nil => cases hm
  | cons p ps ih =>
    rw [run, step] at hm
    split at hm
    · next hshort => exact ih (by rw [List.length_append]; omega) hm
    · next hlong =>
      cases hm
      rw [List.length_take, List.length_append]
      omega

/-- As long as packets of a message are missing, it is read. -/
theorem run_part (h : Packed (ps ++ qs) m) (hqs : qs ≠ []) {header : List α}
    (hheader : announced header = m.length) :
    Reader.idle.run announced (header :: ps) = (.reading m.length ps.flatten, []) := by
  obtain ⟨rs, p, rfl⟩ := (List.eq_nil_or_concat qs).resolve_left hqs
  have hlt := h.tight (ps ++ rs) p (by rw [List.append_assoc, List.concat_eq_append])
  rw [List.flatten_append, List.length_append] at hlt
  rw [run, step]
  dsimp only
  rw [hheader, run_short (by rw [List.length_nil]; omega)]
  rfl

/-- **A message is read alone and as it was sent** if it is announced with its
length and is not empty, and only then. -/
theorem run_send_iff (h : Packed ps m) (header : List α) :
    Reader.idle.run announced (header :: ps) = (.idle, [m])
      ↔ announced header = m.length ∧ m ≠ [] := by
  have hstart : Reader.idle.run announced (header :: ps)
      = (Reader.reading (announced header) []).run announced ps := by
    rw [run, step]
    rfl
  rw [hstart]
  constructor
  · intro hrun
    refine ⟨(length_of_run (Nat.zero_le _) (by rw [hrun]; rfl)).symm, fun hnil => ?_⟩
    subst hnil
    rcases ps.eq_nil_or_concat with rfl | ⟨qs, p, rfl⟩
    · cases hrun
    · exact absurd (h.tight qs p (List.concat_eq_append ..)) (Nat.not_lt_zero _)
  · rintro ⟨hsize, hne⟩
    rcases ps.eq_nil_or_concat with rfl | ⟨qs, p, rfl⟩
    · exact absurd (List.prefix_nil.mp h.front) hne
    · rw [List.concat_eq_append] at h ⊢
      rw [hsize, run_message h.front.length_le (.inr (h.tight qs p rfl)),
        ← List.prefix_iff_eq_take.mp h.front]

end Reader

end PacketStream
