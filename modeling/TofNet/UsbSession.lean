import TofNet.UsbRequests

/-!
# Sessions over USB

An operation of the host is a request, and in most cases its response. The host
gives up where a transfer fails, and nothing tells the gadget of it. So the
gadget is ready for the next operation if no packet of the request has reached
it, or all and none for the response, or all of both; else it is not
(`Op.ready_iff`).

A session in which it stays ready is a run of the server behind it, one step for
each operation that was not lost as a whole (`runAll_iff`). A request whose
size does not fit into a byte is never handled as it was sent
(`uvcExUnitSendRequest_iff`).

The server is a function of a state and a request, and what a session is to be
is a sequence of such calls. What the two links between host and server add is
that an operation may be lost in part. So the result has two halves: as long as
none is, the session is that of the server (`runAll_iff`), and it is exactly
then that the gadget keeps being ready.
-/

namespace Usb

open PacketStream

/-! ## One request

A gadget in front of a server that only writes down what it is given shows how a
request was understood. -/

/-- A gadget that writes down what it is asked to handle. -/
def recorder : Server (List Bytes) := fun handled request => (handled ++ [request], [])

/-- What it has written down are the requests, in their order. -/
theorem recorder_after (handled messages : List Bytes) :
    recorder.after handled messages = handled ++ messages.map cString := by
  induction messages generalizing handled with
  | nil => exact (List.append_nil _).symm
  | cons m messages ih =>
    show recorder.after (handled ++ [cString m]) messages = _
    rw [ih, List.append_assoc]
    rfl

/-- A request that is handled alone and as it was sent. -/
def HandledAsSent (stack : Stack) (request : Bytes) : Prop :=
  ∀ (σ : Type) (serve : Server σ) (g : Gadget σ), g.Ready →
    ∃ g', uvcExUnitSendRequest serve stack request ⟨g, none⟩ = .ok () ⟨g', none⟩
      ∧ g'.Ready ∧ g'.served = serve g.sdk request

/-- **A request is handled as it was sent** if its size is from 1 to 255 and no
byte of it is zero, and only then.

The bounds come from the one byte that has the size in each packet, and the
condition on the bytes from the gadget, which hands a request on as a string
that a zero ends. -/
theorem uvcExUnitSendRequest_iff (stack : Stack) (request : Bytes) :
    HandledAsSent stack request ↔ Sendable request ∧ 0 ∉ request := by
  constructor
  · intro h
    have hready : Gadget.Ready ({ sdk := [] } : Gadget (List Bytes)) :=
      ⟨Nat.le_refl 0, rfl, rfl⟩
    obtain ⟨g', hsend, hready', hserved⟩ := h (List Bytes) recorder { sdk := [] } hready
    obtain ⟨g₁, hrun, -, hreader, hlog, -⟩ :=
      run_packets recorder hready.within (requestPackets stack request)
    have hdoes : Does recorder (uvcExUnitSendRequest recorder stack request) { sdk := [] }
        ((requestPackets stack request).map .request) () := does_requests hready.within _
    obtain rfl : g₁ = g' := by
      have hsame := (hdoes.ok none g₁ hrun (by simp)).symm.trans hsend
      cases hsame
      rfl
    -- one message was read, and the request is what is in front of its first zero
    have hone : ((Reader.idle.run announcedSize
        ((requestPackets stack request).map Packet.bytes)).2).map cString = [request] := by
      have hfirst := congrArg Prod.fst (hserved.symm.trans hlog)
      rw [Server.handle_fst, recorder_after] at hfirst
      exact hfirst.symm
    obtain ⟨m, hmessages, hstring⟩ := List.map_eq_singleton_iff.mp hone
    rw [requestPackets, List.map_cons, Reader.run, Reader.step] at hmessages
    have hsize : m.length = request.length % 256 := by
      rw [← announcedSize_header stack]
      exact Reader.length_of_run (Nat.zero_le _) (congrArg List.head? hmessages)
    have hlength : request.length ≤ m.length := by
      rw [← hstring]
      exact (List.takeWhile_sublist _).length_le
    have hmod := Nat.mod_lt request.length (Nat.succ_pos 255)
    refine ⟨⟨?_, by omega⟩, fun hzero => ?_⟩
    · rintro rfl
      cases hmessages
    · rw [← hstring] at hzero
      simpa using List.mem_takeWhile_imp hzero
  · rintro ⟨hsend, hzero⟩ σ serve g hg
    obtain ⟨g', hrun, -, hready, -, hserved⟩ :=
      run_requestPackets serve hg stack hsend (Nat.le_refl _)
    rw [List.take_length] at hrun
    have hstring : cString request = request :=
      List.takeWhile_eq_self_iff.mpr fun b hb => by
        simpa using fun h : b = 0 => hzero (h ▸ hb)
    refine ⟨g', (does_requests hg.within _).ok none g' hrun (by simp), hready.mpr (.inr rfl), ?_⟩
    rw [hserved rfl, hstring]

/-! ## Operations

An operation does some events, of which a failure lets a front through. Whether
that front is whole is told from its length: it has all packets of the request
and none of the response, or all of both, or none. -/

/-- An operation: a request, whether its response is fetched, and the transfer
that fails, if one does. -/
structure Op where
  /-- The request. -/
  request : Bytes
  /-- The response is fetched. -/
  fetch : Bool
  /-- What is on the host's stack. -/
  stack : Stack
  /-- The transfer that fails. -/
  failure : Option Failure

namespace Op

variable {σ : Type} (serve : Server σ) (kernels : Kernels) (op : Op)

/-- The calls that the host makes. -/
def program : Host σ Bytes := do
  uvcExUnitSendRequest serve op.stack op.request
  if op.fetch then uvcExUnitGetResponse kernels else pure []

/-- What it ends with, and the gadget after it. -/
def run (g : Gadget σ) : Except Exit Bytes × Gadget σ :=
  match op.program serve kernels ⟨g, op.failure⟩ with
  | .ok a b => (.ok a, b.gadget)
  | .error e b => (.error e, b.gadget)

/-- The packets of its request. -/
def requests : List Event := (requestPackets op.stack op.request).map .request

/-- What the server makes of it. -/
def answer (sdk : σ) : σ × Bytes := serve sdk (cString op.request)

/-- The transfers of its response. -/
def responses (sdk : σ) : List Event :=
  if op.fetch then List.replicate (transfers (op.answer serve sdk).2) .getCur else []

/-- All of its transfers. -/
def events (sdk : σ) : List Event := op.requests ++ op.responses serve sdk

/-- The transfer that fails, if it is one of them. -/
def fails (sdk : σ) : Option Failure :=
  op.failure.filter fun f => f.after < (op.events serve sdk).length

/-- **A whole operation or none**: all packets of its request have reached the
gadget or none, and of its response. -/
def Whole (sdk : σ) : Prop :=
  ∀ f ∈ op.fails serve sdk,
    f.delivered = 0 ∨ f.delivered = op.requests.length
      ∨ f.delivered = (op.events serve sdk).length

/-- **One step of the server**, unless no packet has reached the gadget. -/
def atomic (sdk : σ) : Except Exit Bytes × σ :=
  match op.fails serve sdk with
  | some f => (.error (.status .genericError),
      if f.delivered = 0 then sdk else (op.answer serve sdk).1)
  | none => (.ok (if op.fetch then (op.answer serve sdk).2 else []), (op.answer serve sdk).1)

end Op

section Operations

variable {σ : Type} {serve : Server σ} {kernels : Kernels} {op : Op} {g : Gadget σ}

/-- The responses have a size that the gadget's `int` holds. -/
def Server.Fits (serve : Server σ) : Prop := ∀ sdk request, (serve sdk request).2.length < 2 ^ 31

/-- What an operation does, on a gadget that is ready. -/
theorem Op.does_program (hk : kernels.Fills) (hserve : serve.Fits) (hg : g.Ready)
    (hr : Sendable op.request) :
    Does serve (op.program serve kernels) g (op.events serve g.sdk)
      (if op.fetch then (op.answer serve g.sdk).2 else []) := by
  obtain ⟨g₁, hrun, hflag, -, -, hserved⟩ :=
    run_requestPackets serve hg op.stack hr (Nat.le_refl _)
  rw [List.take_length] at hrun
  have hanswer : g₁.outBuf = (op.answer serve g.sdk).2 := congrArg Prod.snd (hserved rfl)
  refine (does_requests hg.within _).bind hrun ?_
  rw [Op.responses, ← hanswer]
  split
  · exact does_getResponse hk hflag (by rw [hanswer]; exact hserve _ _)
  · exact .pure _ _

/-- The gadget after some of the transfers of an operation. -/
theorem Op.run_events (serve : Server σ) (hg : g.Ready) (hr : Sendable op.request) {n : ℕ}
    (hn : n ≤ (op.events serve g.sdk).length) :
    ∃ g', g.run serve ((op.events serve g.sdk).take n) = some g'
      ∧ (g'.Ready ↔ n = 0 ∨ n = op.requests.length ∨ n = (op.events serve g.sdk).length)
      ∧ (n = 0 → g'.sdk = g.sdk)
      ∧ (op.requests.length ≤ n → g'.sdk = (op.answer serve g.sdk).1) := by
  have hcount : op.requests.length = (requestPackets op.stack op.request).length :=
    List.length_map _
  have hlength : (op.events serve g.sdk).length
      = op.requests.length + (op.responses serve g.sdk).length := List.length_append
  by_cases hpart : n ≤ op.requests.length
  · obtain ⟨g', hrun, -, hready, hnone, hall⟩ :=
      run_requestPackets serve hg op.stack hr (hcount ▸ hpart)
    rw [← hcount] at hready hall
    have htake : (op.events serve g.sdk).take n
        = ((requestPackets op.stack op.request).take n).map .request := by
      rw [Op.events, List.take_append_of_le_length hpart, Op.requests, List.map_take]
    refine ⟨g', htake ▸ hrun, hready.trans ?_, fun h => congrArg Gadget.sdk (hnone h), fun h =>
      congrArg Prod.fst (hall (Nat.le_antisymm hpart h))⟩
    omega
  · obtain ⟨g₁, hrun₁, -, hready₁, -, hall⟩ :=
      run_requestPackets serve hg op.stack hr (Nat.le_refl _)
    have hserved := hall rfl
    rw [List.take_length] at hrun₁
    have hanswer : g₁.outBuf = (op.answer serve g.sdk).2 := congrArg Prod.snd hserved
    have hfetch : op.responses serve g.sdk
        = List.replicate (transfers (op.answer serve g.sdk).2) .getCur := by
      rw [Op.responses]
      split
      · rfl
      · next hno =>
        rw [Op.responses, if_neg hno, List.length_nil] at hlength
        omega
    rw [hfetch, List.length_replicate] at hlength
    obtain ⟨g', hrun, hsdk, hready⟩ := run_responses serve (hready₁.mpr (.inr rfl))
      (show 0 < n - op.requests.length by omega) (by rw [hanswer]; omega)
    rw [hanswer] at hready
    have htake : (op.events serve g.sdk).take n
        = op.requests ++ List.replicate (n - op.requests.length) .getCur := by
      rw [Op.events, hfetch, List.take_append, List.take_of_length_le (by omega),
        List.take_replicate, Nat.min_eq_left (by omega)]
    refine ⟨g', ?_, hready.trans (by omega), fun h => by omega, fun _ => ?_⟩
    · rw [htake]
      exact (Gadget.run_append hrun₁).trans hrun
    · exact hsdk.trans (congrArg Prod.fst hserved)

/-- **An operation of which a part has reached the gadget** does not leave it
ready, and any other is a step of the server. -/
theorem Op.ready_iff (hk : kernels.Fills) (hserve : serve.Fits) (hg : g.Ready)
    (hr : Sendable op.request) :
    ((op.run serve kernels g).2.Ready ↔ op.Whole serve g.sdk)
      ∧ (op.Whole serve g.sdk →
        (op.run serve kernels g).1 = (op.atomic serve g.sdk).1
          ∧ (op.run serve kernels g).2.sdk = (op.atomic serve g.sdk).2) := by
  have hdoes := op.does_program hk hserve hg hr
  have hlength : (op.events serve g.sdk).length
      = op.requests.length + (op.responses serve g.sdk).length := List.length_append
  cases hfails : op.fails serve g.sdk with
  | none =>
    have hlate : ∀ f ∈ op.failure, (op.events serve g.sdk).length ≤ f.after := fun f hf => by
      have hfilter := Option.filter_eq_none_iff.mp hfails f hf
      simpa using hfilter
    obtain ⟨g', hrun, hready, -, hsdk⟩ := op.run_events serve hg hr (Nat.le_refl _)
    rw [List.take_length] at hrun
    rw [Op.run, hdoes.ok _ g' hrun hlate, Op.atomic, Op.Whole, hfails]
    refine ⟨iff_of_true (hready.mpr (.inr (.inr rfl))) (fun f hf => by cases hf), fun _ => ?_⟩
    exact ⟨rfl, hsdk (by omega)⟩
  | some f =>
    obtain ⟨hfailure, hearly⟩ := Option.filter_eq_some_iff.mp hfails
    have hbefore : f.after < (op.events serve g.sdk).length := of_decide_eq_true hearly
    have hdelivered : f.delivered ≤ (op.events serve g.sdk).length := by
      have := f.reaches.toNat_le
      unfold Failure.delivered
      omega
    obtain ⟨g', hrun, hready, hnone, hsome⟩ := op.run_events serve hg hr hdelivered
    rw [Op.run, hfailure, hdoes.fails f g' hbefore hrun, Op.atomic, Op.Whole, hfails]
    refine ⟨hready.trans ⟨fun h x hx => ?_, fun h => h f rfl⟩, fun h => ⟨rfl, ?_⟩⟩
    · cases hx
      exact h
    · dsimp only
      split
      · next hzero => exact hnone hzero
      · next hpos =>
        rcases h f rfl with hzero | hall | hall
        · exact absurd hzero hpos
        · exact hsome hall.ge
        · exact hsome (by omega)

end Operations

/-! ## Sessions

The step of the session is the operation, and the induction is on the list of
them. What a gadget that is not ready does with the next operation is left open. -/

section Sessions

variable {σ : Type} (serve : Server σ) (kernels : Kernels)

/-- Operation after operation: how each ends, and the gadget after them. -/
def runAll : List Op → Gadget σ → List (Except Exit Bytes) × Gadget σ
  | [], g => ([], g)
  | op :: ops, g =>
    let next := op.run serve kernels g
    let rest := runAll ops next.2
    (next.1 :: rest.1, rest.2)

/-- The server, operation after operation. -/
def atomicAll : List Op → σ → List (Except Exit Bytes) × σ
  | [], sdk => ([], sdk)
  | op :: ops, sdk =>
    let next := op.atomic serve sdk
    let rest := atomicAll ops next.2
    (next.1 :: rest.1, rest.2)

/-- The gadget is ready after each operation. -/
def ReadyAll : List Op → Gadget σ → Prop
  | [], _ => True
  | op :: ops, g => (op.run serve kernels g).2.Ready ∧ ReadyAll ops (op.run serve kernels g).2

/-- Each operation is a whole one or none. -/
def WholeAll : List Op → σ → Prop
  | [], _ => True
  | op :: ops, sdk => op.Whole serve sdk ∧ WholeAll ops (op.atomic serve sdk).2

variable {serve kernels}

/-- **A session on a gadget that stays ready is a run of the server**, and the
gadget stays ready if each operation is a whole one or none, and only then.

On the left is the pair of state machines with packets between them, on the
right a function that hands each request to the server and each response back.
That the two give the same is refinement in the ordinary sense, with the
operations as its steps; a lossy operation leaves bytes behind on the gadget,
which the next one finds. -/
theorem runAll_iff (hk : kernels.Fills) (hserve : serve.Fits) {g : Gadget σ} (hg : g.Ready)
    (ops : List Op) (hops : ∀ op ∈ ops, Sendable op.request) :
    (ReadyAll serve kernels ops g ↔ WholeAll serve ops g.sdk)
      ∧ (WholeAll serve ops g.sdk →
        (runAll serve kernels ops g).1 = (atomicAll serve ops g.sdk).1
          ∧ (runAll serve kernels ops g).2.sdk = (atomicAll serve ops g.sdk).2) := by
  induction ops generalizing g with
  | nil => exact ⟨Iff.rfl, fun _ => ⟨rfl, rfl⟩⟩
  | cons op ops ih =>
    obtain ⟨hop, hops⟩ := List.forall_mem_cons.mp hops
    obtain ⟨hready, hatomic⟩ := op.ready_iff hk hserve hg hop
    -- where the first operation is a whole one or none, the others go on from its step
    have hrest : op.Whole serve g.sdk → _ := fun hwhole => by
      have hrest := ih (hready.mpr hwhole) hops
      rw [(hatomic hwhole).2] at hrest
      exact hrest
    constructor
    · rw [ReadyAll, WholeAll, hready]
      exact and_congr_right fun hwhole => (hrest hwhole).1
    · rintro ⟨hwhole, hall⟩
      obtain ⟨hresults, hsdk⟩ := (hrest hwhole).2 hall
      rw [runAll, atomicAll]
      exact ⟨congr (congrArg _ (hatomic hwhole).1) hresults, hsdk⟩

end Sessions

/-- Kernels that fill a response with zeros, and have none for one of no
bytes. -/
def filling : Kernels where
  get data n := if n = 0 then none else some (Packet.zeros.overwrite (data.bytes.take n))

/-- A server that counts, and answers with the first byte. -/
def counter : Server ℕ := fun count request => (count + 1, request.take 1)

/-- A request of which the first packet does not reach the gadget, and one whose
response is lost with its last. -/
def lossy : List Op :=
  [{ request := [5], fetch := true, stack := ⟨.zeros, .zeros⟩, failure := some ⟨0, false⟩ },
    { request := [6], fetch := true, stack := ⟨.zeros, .zeros⟩, failure := some ⟨3, true⟩ }]

/-- The server has handled the second of them. -/
theorem runAll_lossy : (runAll counter filling lossy { sdk := 0 }).2.sdk = 1 := by
  have hfills : filling.Fills := fun data n hn => if_neg hn.ne'
  have hfits : counter.Fits := fun _ request =>
    (List.length_take_le 1 request).trans_lt (by decide)
  have hwhole : WholeAll counter lossy 0 := by
    refine ⟨fun f hf => .inl ?_, fun f hf => .inr (.inr ?_), True.intro⟩
    · cases Option.some.inj hf
      rfl
    · cases Option.some.inj hf
      rfl
  have hready : Gadget.Ready ({ sdk := 0 } : Gadget ℕ) := ⟨Nat.le_refl 0, rfl, rfl⟩
  have hsend : ∀ op ∈ lossy, Sendable op.request := by
    rintro op (_ | ⟨_, _ | ⟨_, ⟨⟩⟩⟩) <;> exact ⟨by simp, by decide⟩
  rw [((runAll_iff hfills hfits hready lossy hsend).2 hwhole).2]
  rfl

end Usb
