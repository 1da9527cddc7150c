import Mathlib.Data.List.Basic
import Mathlib.Order.Filter.AtTopBot.Basic
import TofNet.Protocol

/-!
# The socket loops

`Socket::send_all` and `Socket::recv_all` of `tof_net/socket.cpp`, over a
kernel whose every answer is given: each `::send` and `::recv` either moves
some bytes – as few as it likes, but at least one – or is interrupted, fails,
or returns zero. The answers come as a list, and a loop that has used them up
is left waiting in its next call.

A receiver is a function of the stream and of the answers still to come, and
the loops compose as the source's statements do (`Recv.bind`). What a
receiver does is stated in one of two ways: it *yields* a value from exactly
the bytes `w` (`Recv.Yields`), or it *fails* on a stream that ends after `w`
(`Recv.Fails`). Both are closed under sequencing, and it is through these
rules, not by unfolding the loops, that the framing results are proved.
-/

/-! ## What the kernel answers

A short count is an answer like any other, and the loops are there for it. What
a caller may rely on is that the stream is reliable and that bytes keep moving;
this is a `Schedule`. To state a result for all schedules, it is stated for
lists of answers with enough moving ones, and any schedule has such a front
(`Schedule.eventually_moving`). -/

/-- **The answer of one `::send` or `::recv`.** -/
inductive KernelAnswer
  /-- At most `n + 1` bytes are moved, and at least one if there is one. -/
  | count (n : ℕ)
  /-- `-1` with `errno == EINTR`. -/
  | eintr
  /-- `-1` with another error, given by its `strerror` text. -/
  | error (what : String)
  /-- `0`. -/
  | zero
  deriving DecidableEq, Repr

namespace KernelAnswer

/-- The answers that move bytes. -/
def moves : KernelAnswer → Bool
  | count _ => true
  | _ => false

/-- The answers of a reliable byte stream: some bytes, or an interruption. -/
def reliable : KernelAnswer → Bool
  | count _ => true
  | eintr => true
  | _ => false

end KernelAnswer

/-- How a call ended: it returned, it threw, or it is still inside a
`::send` or `::recv` the kernel has not answered. -/
inductive Outcome (α : Type)
  | returned (a : α)
  | threw (what : String)
  | waiting
  deriving DecidableEq, Repr

/-- A list of answers a reliable stream may give. -/
def Reliable (answers : List KernelAnswer) : Prop := ∀ a ∈ answers, a.reliable = true

/-- The number of answers that move bytes. -/
def moving (answers : List KernelAnswer) : ℕ := answers.countP KernelAnswer.moves

/-- What is left of reliable answers is reliable. -/
theorem Reliable.tail {a : KernelAnswer} {as : List KernelAnswer} (h : Reliable (a :: as)) :
    Reliable as :=
  fun b hb => h b (List.mem_cons_of_mem a hb)

/-- Without answers nothing moves. -/
@[simp] theorem moving_nil : moving [] = 0 := rfl

/-- A count moves bytes. -/
@[simp] theorem moving_count_cons (n : ℕ) (as : List KernelAnswer) :
    moving (.count n :: as) = moving as + 1 :=
  List.countP_cons_of_pos rfl

/-- An interruption moves none. -/
@[simp] theorem moving_eintr_cons (as : List KernelAnswer) :
    moving (.eintr :: as) = moving as :=
  List.countP_cons_of_neg (by simp [KernelAnswer.moves])

/-- The answers that move bytes are counted one list after the other. -/
theorem moving_append (as bs : List KernelAnswer) :
    moving (as ++ bs) = moving as + moving bs :=
  List.countP_append

/-- **A fair schedule**: the answers a reliable stream gives for ever, among
which those that move bytes never run out. -/
structure Schedule where
  answer : ℕ → KernelAnswer
  reliable : ∀ i, (answer i).reliable = true
  progress : ∀ i, ∃ j, i ≤ j ∧ (answer j).moves = true

namespace Schedule

/-- The first `k` answers. -/
def first (s : Schedule) (k : ℕ) : List KernelAnswer := (List.range k).map s.answer

/-- The front of a schedule is reliable. -/
theorem reliable_first (s : Schedule) (k : ℕ) : Reliable (s.first k) := by
  intro a ha
  obtain ⟨i, _, rfl⟩ := List.mem_map.mp ha
  exact s.reliable i

/-- One more answer. -/
theorem first_succ (s : Schedule) (k : ℕ) : s.first (k + 1) = s.first k ++ [s.answer k] := by
  rw [first, List.range_succ, List.map_append]
  rfl

/-- With more answers no fewer move bytes. -/
theorem moving_first_mono (s : Schedule) {k l : ℕ} (h : k ≤ l) :
    moving (s.first k) ≤ moving (s.first l) := by
  induction l, h using Nat.le_induction with
  | base => exact le_refl _
  | succ l _ ih =>
    rw [first_succ, moving_append]
    exact le_trans ih (Nat.le_add_right _ _)

/-- **Any number of moving answers comes in time.** -/
theorem eventually_moving (s : Schedule) (n : ℕ) :
    ∀ᶠ k in Filter.atTop, n ≤ moving (s.first k) := by
  suffices h : ∃ k, n ≤ moving (s.first k) by
    obtain ⟨k, hk⟩ := h
    exact Filter.eventually_atTop.mpr ⟨k, fun l hl => le_trans hk (s.moving_first_mono hl)⟩
  induction n with
  | zero => exact ⟨0, Nat.zero_le _⟩
  | succ n ih =>
    obtain ⟨k, hk⟩ := ih
    obtain ⟨j, hkj, hj⟩ := s.progress k
    refine ⟨j + 1, ?_⟩
    have hone : moving [s.answer j] = 1 := by
      rw [moving, List.countP_cons_of_pos hj, List.countP_nil]
    rw [first_succ, moving_append, hone]
    exact Nat.succ_le_succ (le_trans hk (s.moving_first_mono hkj))

end Schedule

/-! ## Sending

The induction of `sendAll` is on the answers. Each of them moves some bytes or
none, and what has been moved and what is left make up what was to be sent. -/

/-- One iteration of the loop in `Socket::send_all`, with `rest` the bytes at
`p + sent`: the bytes the call has put on the wire and those left to send. -/
def sendIter (rest : Bytes) : KernelAnswer → Except String (Bytes × Bytes)
  | .count n => .ok (rest.take (n + 1), rest.drop (n + 1))
  | .eintr => .ok ([], rest)
  | .error what => .error ("send: " ++ what)
  | .zero => .error "send returned zero"

/-- What a sender leaves behind: how it ended, the bytes on the wire, and the
answers it has not used. -/
structure Sent where
  outcome : Outcome Unit
  wire : Bytes
  answers : List KernelAnswer
  deriving DecidableEq, Repr

/-- `Socket::send_all`: the loop runs while bytes are left. -/
def sendAll (rest wire : Bytes) : List KernelAnswer → Sent
  | [] => ⟨if rest = [] then .returned () else .waiting, wire, []⟩
  | a :: as =>
    if rest = [] then ⟨.returned (), wire, a :: as⟩
    else
      match sendIter rest a with
      | .ok (moved, rest') => sendAll rest' (wire ++ moved) as
      | .error what => ⟨.threw what, wire, as⟩

/-- **Whatever the answers, `send_all` appends a prefix of its bytes**, and
all of them when it returns. -/
theorem sendAll_prefix (rest wire : Bytes) (answers : List KernelAnswer) :
    ∃ moved, (sendAll rest wire answers).wire = wire ++ moved ∧ moved <+: rest ∧
      ((sendAll rest wire answers).outcome = .returned () → moved = rest) := by
  induction answers generalizing rest wire with
  | nil =>
    refine ⟨[], (List.append_nil wire).symm, List.nil_prefix, ?_⟩
    intro h
    by_cases hr : rest = []
    · exact hr.symm
    · simp [sendAll, hr] at h
  | cons a as ih =>
    by_cases hr : rest = []
    · refine ⟨[], ?_, List.nil_prefix, fun _ => hr.symm⟩
      rw [sendAll, if_pos hr, List.append_nil]
    rw [sendAll, if_neg hr]
    cases a with
    | count n =>
      obtain ⟨moved, hw, hp, hret⟩ := ih (rest.drop (n + 1)) (wire ++ rest.take (n + 1))
      refine ⟨rest.take (n + 1) ++ moved, ?_, ?_, ?_⟩
      · rw [← List.append_assoc]
        exact hw
      · have h := List.prefix_append_right_inj (rest.take (n + 1)) |>.mpr hp
        rwa [List.take_append_drop] at h
      · intro h
        rw [hret h, List.take_append_drop]
    | eintr =>
      obtain ⟨moved, hw, hp, hret⟩ := ih rest (wire ++ [])
      refine ⟨moved, ?_, hp, hret⟩
      rw [List.append_nil] at hw
      simpa [sendIter] using hw
    | error what => exact ⟨[], (List.append_nil wire).symm, List.nil_prefix, nofun⟩
    | zero => exact ⟨[], (List.append_nil wire).symm, List.nil_prefix, nofun⟩

/-- **On a reliable stream `send_all` sends everything**, using at most one
moving answer a byte. -/
theorem sendAll_reliable (rest wire : Bytes) {answers : List KernelAnswer}
    (hrel : Reliable answers) (hmov : rest.length ≤ moving answers) :
    ∃ answers', sendAll rest wire answers = ⟨.returned (), wire ++ rest, answers'⟩ ∧
      Reliable answers' ∧ moving answers ≤ rest.length + moving answers' := by
  induction answers generalizing rest wire with
  | nil =>
    have hr : rest = [] := List.length_eq_zero_iff.mp (Nat.le_zero.mp hmov)
    subst hr
    exact ⟨[], by simp [sendAll], hrel, Nat.zero_le _⟩
  | cons a as ih =>
    by_cases hr : rest = []
    · subst hr
      exact ⟨a :: as, by simp [sendAll], hrel, by simp⟩
    have hpos : 0 < rest.length := List.length_pos_of_ne_nil hr
    rw [sendAll, if_neg hr]
    cases a with
    | count n =>
      rw [moving_count_cons] at hmov
      have hle : (rest.drop (n + 1)).length ≤ moving as := by
        rw [List.length_drop]
        omega
      obtain ⟨as', heq, hrel', hcost⟩ := ih (rest.drop (n + 1)) (wire ++ rest.take (n + 1))
        hrel.tail hle
      refine ⟨as', ?_, hrel', ?_⟩
      · rw [List.append_assoc, List.take_append_drop] at heq
        exact heq
      · rw [List.length_drop] at hcost
        rw [moving_count_cons]
        omega
    | eintr =>
      rw [moving_eintr_cons] at hmov ⊢
      obtain ⟨as', heq, hrel', hcost⟩ := ih rest (wire ++ []) hrel.tail hmov
      rw [List.append_nil] at heq
      exact ⟨as', by simpa [sendIter] using heq, hrel', hcost⟩
    | error what => exact absurd (hrel _ List.mem_cons_self) nofun
    | zero => exact absurd (hrel _ List.mem_cons_self) nofun

/-! ## Receiving

A receiver reads from a stream with an end, as the other side may close it. The
two notions are about such a stream: `Yields` asks for the bytes to be there,
and `Fails` for them to be missing. -/

/-- One iteration of the loop in `Socket::recv_all`, which asks for `want`
bytes: the bytes the call has delivered and the stream behind them. On a
stream that has ended the kernel's count is zero. -/
def recvIter (want : ℕ) (stream : Bytes) : KernelAnswer → Except String (Bytes × Bytes)
  | .count n =>
    if stream = [] then .error "peer closed connection"
    else .ok (stream.take (min (n + 1) want), stream.drop (min (n + 1) want))
  | .eintr => .ok ([], stream)
  | .error what => .error ("recv: " ++ what)
  | .zero => .error "peer closed connection"

/-- What a receiver leaves behind: how it ended, the stream not yet consumed,
and the answers it has not used. -/
structure Received (α : Type) where
  outcome : Outcome α
  rest : Bytes
  answers : List KernelAnswer
  deriving DecidableEq, Repr

/-- A call that receives from the socket. -/
abbrev Recv (α : Type) := Bytes → List KernelAnswer → Received α

variable {α β : Type}

namespace Recv

/-- A call that receives nothing. -/
def pure (a : α) : Recv α := fun stream answers => ⟨.returned a, stream, answers⟩

/-- A call that throws without receiving. -/
def throw (what : String) : Recv α := fun stream answers => ⟨.threw what, stream, answers⟩

/-- **One call after another.** -/
def bind (f : Recv α) (g : α → Recv β) : Recv β := fun stream answers =>
  match f stream answers with
  | ⟨.returned a, stream', answers'⟩ => g a stream' answers'
  | ⟨.threw what, stream', answers'⟩ => ⟨.threw what, stream', answers'⟩
  | ⟨.waiting, stream', answers'⟩ => ⟨.waiting, stream', answers'⟩

/-- **The call yields `a` from exactly the bytes `w`**: on a reliable stream
that has them in front, and with an answer that moves bytes for each, it
returns `a` and leaves what follows untouched. -/
def Yields (f : Recv α) (w : Bytes) (a : α) : Prop :=
  ∀ (rest : Bytes) (answers : List KernelAnswer), Reliable answers →
    w.length ≤ moving answers →
    ∃ answers', f (w ++ rest) answers = ⟨.returned a, rest, answers'⟩ ∧
      Reliable answers' ∧ moving answers ≤ w.length + moving answers'

/-- **The call fails on a stream that ends after `w`**: it throws, and
returns nothing. -/
def Fails (f : Recv α) (w : Bytes) : Prop :=
  ∀ (answers : List KernelAnswer), Reliable answers → w.length < moving answers →
    ∃ what rest answers', f w answers = ⟨.threw what, rest, answers'⟩

/-- A call that receives nothing yields its value from no bytes. -/
theorem yields_pure (a : α) : (pure a).Yields [] a :=
  fun _ answers hrel _ => ⟨answers, rfl, hrel, Nat.le_add_left _ _⟩

/-- **Sequencing**: the bytes of two calls are consumed one after the
other. -/
theorem Yields.bind {f : Recv α} {g : α → Recv β} {w w' : Bytes} {a : α} {b : β}
    (hf : f.Yields w a) (hg : (g a).Yields w' b) : (f.bind g).Yields (w ++ w') b := by
  intro rest answers hrel hmov
  rw [List.length_append] at hmov ⊢
  obtain ⟨as₁, heq₁, hrel₁, hcost₁⟩ := hf (w' ++ rest) answers hrel (by omega)
  obtain ⟨as₂, heq₂, hrel₂, hcost₂⟩ := hg rest as₁ hrel₁ (by omega)
  refine ⟨as₂, ?_, hrel₂, by omega⟩
  rw [List.append_assoc, Recv.bind, heq₁]
  exact heq₂

/-- A failure of the first call is a failure of the sequence. -/
theorem Fails.bind_left {f : Recv α} {w : Bytes} (hf : f.Fails w) (g : α → Recv β) :
    (f.bind g).Fails w := by
  intro answers hrel hmov
  obtain ⟨what, rest, as', heq⟩ := hf answers hrel hmov
  exact ⟨what, rest, as', by rw [Recv.bind, heq]⟩

/-- A failure of the second call is a failure of the sequence. -/
theorem Yields.bind_fails {f : Recv α} {g : α → Recv β} {w w' : Bytes} {a : α}
    (hf : f.Yields w a) (hg : (g a).Fails w') : (f.bind g).Fails (w ++ w') := by
  intro answers hrel hmov
  rw [List.length_append] at hmov
  obtain ⟨as₁, heq₁, hrel₁, hcost₁⟩ := hf w' answers hrel (by omega)
  obtain ⟨what, rest, as₂, heq₂⟩ := hg as₁ hrel₁ (by omega)
  exact ⟨what, rest, as₂, by rw [Recv.bind, heq₁]; exact heq₂⟩

/-- A call that throws at once fails on every stream. -/
theorem fails_throw (what : String) (w : Bytes) : (throw what : Recv α).Fails w :=
  fun answers _ _ => ⟨what, w, answers, rfl⟩

end Recv

/-- The loop of `Socket::recv_all`, with `got` the bytes already in place. -/
def recvLoop (size : ℕ) (got stream : Bytes) : List KernelAnswer → Received Bytes
  | [] => ⟨if got.length < size then .waiting else .returned got, stream, []⟩
  | a :: as =>
    if got.length < size then
      match recvIter (size - got.length) stream a with
      | .ok (moved, stream') => recvLoop size (got ++ moved) stream' as
      | .error what => ⟨.threw what, stream, as⟩
    else ⟨.returned got, stream, a :: as⟩

/-- `Socket::recv_all`. -/
def recvAll (size : ℕ) : Recv Bytes := fun stream answers => recvLoop size [] stream answers

/-- A full buffer ends the loop without another call. -/
theorem recvLoop_done {size : ℕ} {got : Bytes} (h : size ≤ got.length) (stream : Bytes)
    (answers : List KernelAnswer) :
    recvLoop size got stream answers = ⟨.returned got, stream, answers⟩ := by
  cases answers with
  | nil => rw [recvLoop, if_neg (Nat.not_lt.mpr h)]
  | cons a as => rw [recvLoop, if_neg (Nat.not_lt.mpr h)]

/-- The loop invariant of `recv_all`: the buffer followed by the stream never
changes, so that a stream long enough fills the buffer with its front. -/
theorem recvLoop_yields {size : ℕ} {got w : Bytes} (hsize : got.length + w.length = size)
    (rest : Bytes) {answers : List KernelAnswer} (hrel : Reliable answers)
    (hmov : w.length ≤ moving answers) :
    ∃ answers', recvLoop size got (w ++ rest) answers = ⟨.returned (got ++ w), rest, answers'⟩ ∧
      Reliable answers' ∧ moving answers ≤ w.length + moving answers' := by
  induction answers generalizing got w with
  | nil =>
    have hw : w = [] := List.length_eq_zero_iff.mp (Nat.le_zero.mp hmov)
    subst hw
    rw [recvLoop_done (by rw [← hsize]; exact le_refl _), List.append_nil]
    exact ⟨[], rfl, hrel, Nat.zero_le _⟩
  | cons a as ih =>
    by_cases hw : w = []
    · subst hw
      rw [recvLoop_done (by rw [← hsize]; exact le_refl _), List.append_nil]
      exact ⟨a :: as, rfl, hrel, Nat.le_add_left _ _⟩
    have hpos : 0 < w.length := List.length_pos_of_ne_nil hw
    have hlt : got.length < size := by omega
    rw [recvLoop, if_pos hlt]
    cases a with
    | count n =>
      rw [moving_count_cons] at hmov ⊢
      have hne : w ++ rest ≠ [] := by simp [hw]
      have hk : min (n + 1) (size - got.length) ≤ w.length := by omega
      -- `k` bytes are moved from the stream to the buffer
      generalize hkdef : min (n + 1) (size - got.length) = k at hk
      have hiter : recvIter (size - got.length) (w ++ rest) (.count n)
          = .ok (w.take k, w.drop k ++ rest) := by
        rw [recvIter, if_neg hne, hkdef, List.take_append_of_le_length hk,
          List.drop_append_of_le_length hk]
      have hlen : (got ++ w.take k).length + (w.drop k).length = size := by
        rw [List.length_append, List.length_take, List.length_drop]
        omega
      have hdrop : (w.drop k).length ≤ moving as := by
        rw [List.length_drop]
        omega
      obtain ⟨as', heq, hrel', hcost⟩ := ih hlen hrel.tail hdrop
      refine ⟨as', ?_, hrel', ?_⟩
      · rw [List.append_assoc, List.take_append_drop] at heq
        rw [hiter]
        exact heq
      · rw [List.length_drop] at hcost
        omega
    | eintr =>
      rw [moving_eintr_cons] at hmov ⊢
      obtain ⟨as', heq, hrel', hcost⟩ := ih hsize hrel.tail hmov
      exact ⟨as', by simpa [recvIter] using heq, hrel', hcost⟩
    | error what => exact absurd (hrel _ List.mem_cons_self) nofun
    | zero => exact absurd (hrel _ List.mem_cons_self) nofun

/-- **`recv_all` returns the next `size` bytes of the stream.** -/
theorem yields_recvAll {size : ℕ} {w : Bytes} (h : w.length = size) :
    (recvAll size).Yields w w := by
  intro rest answers hrel hmov
  have hsize : ([] : Bytes).length + w.length = size := by rw [List.length_nil, Nat.zero_add, h]
  exact recvLoop_yields hsize rest hrel hmov

/-- A stream that ends before the buffer is full makes the loop throw. -/
theorem recvLoop_fails {size : ℕ} {got w : Bytes} (hsize : got.length + w.length < size)
    {answers : List KernelAnswer} (hrel : Reliable answers) (hmov : w.length < moving answers) :
    ∃ what rest answers', recvLoop size got w answers = ⟨.threw what, rest, answers'⟩ := by
  induction answers generalizing got w with
  | nil => exact absurd hmov (Nat.not_lt_zero _)
  | cons a as ih =>
    have hlt : got.length < size := by omega
    rw [recvLoop, if_pos hlt]
    cases a with
    | count n =>
      by_cases hw : w = []
      · subst hw
        exact ⟨"peer closed connection", [], as, rfl⟩
      have hpos : 0 < w.length := List.length_pos_of_ne_nil hw
      rw [moving_count_cons] at hmov
      rw [recvIter, if_neg hw]
      refine ih ?_ hrel.tail ?_
      · rw [List.length_append, List.length_take, List.length_drop]
        omega
      · rw [List.length_drop]
        omega
    | eintr =>
      rw [moving_eintr_cons] at hmov
      refine ih ?_ hrel.tail hmov
      rw [List.append_nil]
      exact hsize
    | error what => exact absurd (hrel _ List.mem_cons_self) nofun
    | zero => exact absurd (hrel _ List.mem_cons_self) nofun

/-- **`recv_all` throws on a stream that ends before `size` bytes.** -/
theorem fails_recvAll {size : ℕ} {w : Bytes} (h : w.length < size) :
    (recvAll size).Fails w := by
  intro answers hrel hmov
  have hsize : ([] : Bytes).length + w.length < size := by rwa [List.length_nil, Nat.zero_add]
  exact recvLoop_fails hsize hrel hmov

/-- Whatever the answers, a loop that returns has moved bytes from the stream
to the buffer and nothing else. -/
theorem recvLoop_sound {size : ℕ} {got stream w rest : Bytes}
    {answers answers' : List KernelAnswer} (hgot : got.length ≤ size)
    (h : recvLoop size got stream answers = ⟨.returned w, rest, answers'⟩) :
    got ++ stream = w ++ rest ∧ w.length = size := by
  induction answers generalizing got stream with
  | nil =>
    rw [recvLoop] at h
    split at h
    · exact absurd (congrArg Received.outcome h) nofun
    · cases h
      exact ⟨rfl, by omega⟩
  | cons a as ih =>
    rw [recvLoop] at h
    split at h
    · next hlt =>
      cases a with
      | count n =>
        rw [recvIter] at h
        by_cases hs : stream = []
        · rw [if_pos hs] at h
          exact absurd (congrArg Received.outcome h) nofun
        · rw [if_neg hs] at h
          obtain ⟨heq, hlen⟩ := ih (by rw [List.length_append, List.length_take]; omega) h
          rw [List.append_assoc, List.take_append_drop] at heq
          exact ⟨heq, hlen⟩
      | eintr =>
        obtain ⟨heq, hlen⟩ := ih (by rw [List.append_nil]; exact hgot) h
        rw [List.append_nil] at heq
        exact ⟨heq, hlen⟩
      | error what => exact absurd (congrArg Received.outcome h) nofun
      | zero => exact absurd (congrArg Received.outcome h) nofun
    · cases h
      exact ⟨rfl, by omega⟩

/-- **What `recv_all` returns is the front of the stream**, for any answers of
the kernel. -/
theorem recvAll_sound {size : ℕ} {stream w rest : Bytes} {answers answers' : List KernelAnswer}
    (h : recvAll size stream answers = ⟨.returned w, rest, answers'⟩) :
    stream = w ++ rest ∧ w.length = size :=
  recvLoop_sound (Nat.zero_le _) h

/-- A sequence that returns is one whose calls return. -/
theorem Recv.bind_returned {f : Recv α} {g : α → Recv β} {stream rest : Bytes} {b : β}
    {answers answers' : List KernelAnswer}
    (h : f.bind g stream answers = ⟨.returned b, rest, answers'⟩) :
    ∃ a stream' answers'', f stream answers = ⟨.returned a, stream', answers''⟩ ∧
      g a stream' answers'' = ⟨.returned b, rest, answers'⟩ := by
  unfold Recv.bind at h
  split at h
  · next a stream' answers'' heq => exact ⟨a, stream', answers'', heq, h⟩
  · exact absurd (congrArg Received.outcome h) nofun
  · exact absurd (congrArg Received.outcome h) nofun
