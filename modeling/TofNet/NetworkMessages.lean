import TofNet.Fragments
import TofNet.Protocol

/-!
# Messages of the network connection

The SDK talks to the server of the camera over a WebSocket. Both sides have a
`callback_function` that the library calls with what has come of a message, and
that keeps the pieces in the `clientData` of the connection until the last one
is there.

The two callbacks are the same but for one thing: the server clears `clientData`
behind each message, and the client never does. So the server handles each
request as it was sent, in whatever pieces it comes (`serverHandled_eq`), and
the client each answer only up to the first one in several pieces
(`clientHandled_iff`).

The two equations are cases of `Fragments`, which knows of a callback only
whether it forgets. What is particular to the network is how a callback tells
the last piece of a message: nothing is missing in the frame of the library, and
it is the last frame of the message.
-/

namespace Network

open Fragments

/-- What the callback is given: bytes, how many are still missing in the frame
(`lws_remaining_packet_payload`), and whether that is the last frame of its
message (`lws_is_final_fragment`). -/
structure Received where
  /-- The bytes. -/
  bytes : Bytes
  /-- How many are missing in the frame. -/
  remaining : ℕ
  /-- It is the last frame of the message. -/
  isFinal : Bool
  deriving DecidableEq

/-- Nothing of the message is missing. -/
def Received.isLast (r : Received) : Bool := r.remaining == 0 && r.isFinal

/-- `clientData`. -/
abbrev ClientData := Collector UInt8

/-- **`callback_function` of the server**, for `LWS_CALLBACK_RECEIVE`: the
`clientData` behind it, and the message that it handles. -/
def serverReceive (d : ClientData) (r : Received) : ClientData × Option Bytes :=
  if r.remaining == 0 && r.isFinal then
    let message := if d.hasFragments then d.data ++ r.bytes else r.bytes
    ({ hasFragments := false, data := [] }, some message)
  else ({ hasFragments := true, data := d.data ++ r.bytes }, none)

/-- **`callback_function` of the client**, for `LWS_CALLBACK_CLIENT_RECEIVE`. -/
def clientReceive (d : ClientData) (r : Received) : ClientData × Option Bytes :=
  if r.remaining == 0 && r.isFinal then
    if d.hasFragments then ({ d with data := d.data ++ r.bytes }, some (d.data ++ r.bytes))
    else (d, some r.bytes)
  else ({ hasFragments := true, data := d.data ++ r.bytes }, none)

/-- The messages that a callback handles, piece after piece. -/
def handled (receive : ClientData → Received → ClientData × Option Bytes) :
    ClientData → List Received → List Bytes
  | _, [] => []
  | d, r :: rs => (receive d r).2.toList ++ handled receive (receive d r).1 rs

/-- **A message in the pieces that come of it**: of the last one nothing is
missing, and of the others something is. -/
structure Delivery where
  /-- The pieces before the last. -/
  front : List Received
  /-- The last piece. -/
  back : Received
  /-- None of the first is taken for the last, … -/
  front_isLast : ∀ r ∈ front, r.isLast = false
  /-- … and the last is. -/
  back_isLast : back.isLast = true

namespace Delivery

/-- The pieces. -/
def pieces (d : Delivery) : List Received := d.front ++ [d.back]

/-- The message. -/
def message (d : Delivery) : Bytes := d.pieces.flatMap Received.bytes

/-- It came in one piece. -/
def isWhole (d : Delivery) : Bool := d.front.isEmpty

/-- The delivery, for a collector. -/
def cut (d : Delivery) : Cut UInt8 := ⟨d.front.map Received.bytes, d.back.bytes⟩

theorem message_cut (d : Delivery) : d.cut.message = d.message := by
  rw [Cut.message, message, pieces, List.flatMap_append, List.flatMap_singleton,
    List.flatMap_def]
  rfl

theorem isWhole_cut (d : Delivery) : d.cut.isWhole = d.isWhole := List.isEmpty_map

/-- A piece, for a collector. -/
def chunk (r : Received) : Chunk UInt8 := ⟨r.bytes, r.isLast⟩

theorem chunks_cut (d : Delivery) : d.cut.chunks = d.pieces.map chunk := by
  rw [Cut.chunks, pieces, List.map_append, List.map_singleton, chunk, d.back_isLast, cut,
    List.map_map]
  congr 1
  refine List.map_congr_left fun r hr => ?_
  rw [Function.comp_apply, chunk, d.front_isLast r hr]

end Delivery

/-- A callback is a collector. -/
theorem handled_eq {receive : ClientData → Received → ClientData × Option Bytes} {forgets : Bool}
    (h : ∀ d r, receive d r = Collector.receive forgets d (Delivery.chunk r)) (d : ClientData)
    (rs : List Received) :
    handled receive d rs = (d.run forgets (rs.map Delivery.chunk)).2 := by
  induction rs generalizing d with
  | nil => rfl
  | cons r rs ih =>
    rw [handled, ih, h]
    rfl

/-- The server forgets. -/
theorem serverReceive_eq (d : ClientData) (r : Received) :
    serverReceive d r = d.receive true (Delivery.chunk r) := by
  rw [serverReceive, Collector.receive, Delivery.chunk, Received.isLast]
  cases d.hasFragments <;> rfl

/-- The client does not. -/
theorem clientReceive_eq (d : ClientData) (r : Received) :
    clientReceive d r = d.receive false (Delivery.chunk r) := rfl

/-- The pieces of several messages. -/
theorem map_pieces (ds : List Delivery) :
    (ds.flatMap Delivery.pieces).map Delivery.chunk = (ds.map Delivery.cut).flatMap Cut.chunks := by
  rw [List.map_flatMap, List.flatMap_map]
  exact List.flatMap_congr fun d _ => (Delivery.chunks_cut d).symm

theorem map_message (ds : List Delivery) :
    (ds.map Delivery.cut).map Cut.message = ds.map Delivery.message := by
  rw [List.map_map]
  exact List.map_congr_left fun d _ => Delivery.message_cut d

/-- **The server handles the messages as they were sent**, each of them, in
whatever pieces they come.

A piece comes with what the library says of it: how much of the message is still
to come, and whether the piece is final. The server gathers the pieces until
both say that the message is complete, and then clears what it has gathered; so
a message finds nothing of the one before. -/
theorem serverHandled_eq (ds : List Delivery) :
    handled serverReceive {} (ds.flatMap Delivery.pieces) = ds.map Delivery.message := by
  rw [handled_eq serverReceive_eq, map_pieces, Collector.run_forgetting, map_message]

/-- A message of the server: it begins with a tag. -/
structure Answer extends Delivery where
  tagged : toDelivery.message ≠ []

/-- **The client handles the messages of the server as they were sent** if none
but the last comes in several pieces, and only then.

It gathers pieces as the server does, but never clears them. Behind the first
message in several pieces there is something left over, and every message from
there on is handled with it in front. -/
theorem clientHandled_iff (answers : List Answer) :
    handled clientReceive {} (answers.flatMap fun a => a.pieces)
        = answers.map (fun a => a.message)
      ↔ ∀ a ∈ answers.dropLast, a.isWhole = true := by
  have hpieces : answers.flatMap (fun a => a.pieces)
      = (answers.map Answer.toDelivery).flatMap Delivery.pieces :=
    (List.flatMap_map ..).symm
  have hmessages : answers.map (fun a => a.message)
      = (answers.map fun a => a.cut).map Cut.message := by
    rw [List.map_map]
    exact List.map_congr_left fun a _ => a.message_cut.symm
  have htagged : ∀ c ∈ answers.map (fun a => a.cut), c.message ≠ [] := by
    intro c hc
    obtain ⟨a, -, rfl⟩ := List.mem_map.mp hc
    rw [a.message_cut]
    exact a.tagged
  have hcuts : (answers.map Answer.toDelivery).map Delivery.cut = answers.map fun a => a.cut := by
    rw [List.map_map]
    rfl
  rw [hpieces, handled_eq clientReceive_eq, map_pieces, hcuts, hmessages,
    Collector.run_keeping_iff htagged, ← List.map_dropLast, List.forall_mem_map]
  exact forall₂_congr fun a _ => by rw [a.isWhole_cut]

end Network
