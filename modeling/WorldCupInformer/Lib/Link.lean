import WorldCupInformer.Lib.Machine

/-!
# A server behind two FIFO channels

The server of a `Link` takes its messages out of one queue and puts its replies into another.
`settled` is the server after all messages on their way to it; `coming` are the replies on their
way to the client and those still to be made.

* `settled_serve`, `coming_serve`: letting the server work off a message changes neither, so for
  both it may be thought to answer at once;
* `settled_send`, `coming_send`: a new message meets the settled server;
* `coming_receive`: the client takes the first of the coming replies.
-/

/-- A server in state `server`, with the messages on their way to it and the replies on their way
to the client, oldest first. -/
structure Link (σ μ ρ : Type*) where
  server : σ
  toServer : List μ := []
  toClient : List ρ := []

namespace Link

variable {σ μ ρ : Type*} (step : σ → μ → σ) (reply : σ → μ → List ρ)

/-- The replies to the messages `ms`. -/
def replies : σ → List μ → List ρ
  | _, [] => []
  | s, m :: ms => reply s m ++ replies (step s m) ms

/-- The server works off its oldest message. -/
def serve (l : Link σ μ ρ) : Link σ μ ρ :=
  match l.toServer with
  | [] => l
  | m :: ms => ⟨step l.server m, ms, l.toClient ++ reply l.server m⟩

/-- The client sends the messages `ms`. -/
def send (l : Link σ μ ρ) (ms : List μ) : Link σ μ ρ := { l with toServer := l.toServer ++ ms }

/-- The client takes its oldest reply. -/
def receive (l : Link σ μ ρ) : Link σ μ ρ := { l with toClient := l.toClient.tail }

/-- The server after all messages on their way to it. -/
def settled (l : Link σ μ ρ) : σ := Machine.run step l.server l.toServer

/-- All replies the client has not taken, if it sends nothing more. -/
def coming (l : Link σ μ ρ) : List ρ := l.toClient ++ replies step reply l.server l.toServer

theorem replies_append (s : σ) (ms ns : List μ) : replies step reply s (ms ++ ns) =
    replies step reply s ms ++ replies step reply (Machine.run step s ms) ns := by
  induction ms generalizing s with
  | nil => rfl
  | cons m ms ih => simp [replies, ih]

variable (l : Link σ μ ρ)

@[simp] theorem settled_serve : (l.serve step reply).settled step = l.settled step := by
  unfold serve settled
  split <;> simp_all

@[simp] theorem coming_serve : (l.serve step reply).coming step reply = l.coming step reply := by
  unfold serve coming
  split
  · rfl
  · rename_i m ms hms
    simp [hms, replies]

@[simp] theorem settled_send (ms : List μ) :
    (l.send ms).settled step = Machine.run step (l.settled step) ms :=
  Machine.run_append _ _ _

@[simp] theorem coming_send (ms : List μ) : (l.send ms).coming step reply =
    l.coming step reply ++ replies step reply (l.settled step) ms := by
  simp [coming, send, replies_append, settled]

@[simp] theorem settled_receive : l.receive.settled step = l.settled step := rfl

theorem coming_receive {r : ρ} {rs : List ρ} (h : l.toClient = r :: rs) :
    l.coming step reply = r :: l.receive.coming step reply := by
  simp [coming, receive, h]

/-- A quiet link has its settled server, and nothing is coming. -/
theorem settled_of_quiet (h : l.toServer = []) : l.settled step = l.server := by
  simp [settled, h]

theorem coming_of_quiet (hs : l.toServer = []) (hc : l.toClient = []) :
    l.coming step reply = [] := by
  simp [coming, hs, hc, replies]

end Link
