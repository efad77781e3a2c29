import BridgeOS.Node.Connection
import BridgeOS.Session.World
import BridgeOS.Transport.Framed
import Mathlib.Logic.Relation

/-! # A command and a node on one connection

`run_pair` against `handle_connection`, over a stream that delivers every frame
once and in order. The two tasks take turns in any way. Nobody else has anything
to send, and both users say yes.
-/

namespace BridgeOS.Node

open BridgeOS.Session hiding recvFrame
open BridgeOS.Transfer BridgeOS.Transport Proc

variable [Crypto] {σ : Type}

/-- What one end sees: its own world, the frames on their way to it and the frames
    it has sent. -/
structure Place (σ : Type) where
  world : World σ
  inbox : List Frame
  outbox : List Frame

/-- What a receive returns: the next frame, or the end once the other end is gone. -/
inductive Arrives (gone : Prop) :
    List Frame → Except BridgeError (Option Frame) → List Frame → Prop where
  | frame {frame rest} : Arrives gone (frame :: rest) (.ok (some frame)) rest
  | ended (finished : gone) : Arrives gone [] (.ok none) []

/-- A question that touches neither the stream nor the user. -/
def Works (machine : Machine σ) (w : World σ) : NodeEvent → World σ → Prop
  | ⟨.session c, answer⟩, w' => machine.Handles w ⟨c, answer⟩ w'
  | ⟨.receiveChunk receiver chunk, answer⟩, w' =>
      match receiver.receiveChunk machine.blake3 w.disk chunk with
      | .ok (receiver', disk) => answer = .ok receiver' ∧ w' = { w with disk }
      | .error (.error e) => answer = .error e ∧ w' = w
      | .error .panic => False
  | ⟨.finalizeFile receiver, answer⟩, w' =>
      match receiver.finalizeFile machine.blake3 w.disk with
      | .ok (path, disk) => answer = .ok path ∧ w' = { w with disk }
      | .error e => answer = .error e ∧ w' = w
  | _, w' => w' = w

/-- What the node asks for itself changes nothing but the disk. -/
theorem Works.session_or_disk {machine : Machine σ} {w w' : World σ} {event : NodeEvent}
    (works : Works machine w event w') :
    (∃ c answer, event = ⟨.session c, answer⟩ ∧ machine.Handles w ⟨c, answer⟩ w') ∨
      ∃ disk, w' = { w with disk } := by
  obtain ⟨c, answer⟩ := event
  cases c with
  | session c => exact .inl ⟨c, answer, rfl, works⟩
  | receiveChunk receiver chunk =>
      simp only [Works] at works
      split at works
      · exact .inr ⟨_, works.2⟩
      · exact .inr ⟨_, works.2⟩
      · exact works.elim
  | finalizeFile receiver =>
      simp only [Works] at works
      split at works
      · exact .inr ⟨_, works.2⟩
      · exact .inr ⟨_, works.2⟩
  | select => exact .inr ⟨_, works⟩
  | register nodeId => exact .inr ⟨_, works⟩
  | unregister nodeId => exact .inr ⟨_, works⟩

theorem Works.state {machine : Machine σ} {w w' : World σ} {event : NodeEvent}
    (works : Works machine w event w') (kept : ∀ state, event.call ≠ .session (.setState state)) :
    w'.state = w.state := by
  rcases works.session_or_disk with ⟨c, answer, rfl, handled⟩ | ⟨disk, rfl⟩
  · exact handled.state fun state same => kept state (congrArg NodeCall.session same)
  · rfl

theorem Works.untrusted {machine : Machine σ} {w w' : World σ} {event : NodeEvent}
    (works : Works machine w event w') (kept : event.call ≠ .session (.setState .trusted))
    (untrusted : w.state ≠ .trusted) : w'.state ≠ .trusted := by
  by_cases sets : ∃ state, event.call = .session (.setState state)
  · obtain ⟨c, answer⟩ := event
    obtain ⟨state, rfl⟩ := sets
    cases works
    rintro rfl
    exact kept rfl
  · rw [works.state fun state same => sets ⟨state, same⟩]
    exact untrusted

def sessionEvent (event : SessionEvent) : NodeEvent := ⟨.session event.call, event.answer⟩

theorem runs_lift_session {ε α : Type} (convert : ε → NodeError) {p q : Proc Call Call.Answer ε α}
    {events : List SessionEvent} (run : Runs p events q) :
    Runs (p.lift NodeCall.session (fun _ answer => answer) convert) (events.map sessionEvent)
      (q.lift NodeCall.session (fun _ answer => answer) convert) := by
  induction run with
  | stop => exact .stop _
  | ask _ ih => exact .ask ih

theorem runs_onSession {α : Type} (text : String) {p q : SessionProc α} {events : List SessionEvent}
    (run : Runs p events q) : Runs (onSession text p) (events.map sessionEvent) (onSession text q) :=
  runs_lift_session _ run

theorem along_works {machine : Machine σ} {w w' : World σ} {events : List SessionEvent}
    (effect : machine.Effect w events w') : Along (Works machine) w (events.map sessionEvent) w' := by
  induction events generalizing w with
  | nil => exact effect
  | cons event rest ih =>
      obtain ⟨middle, handled, later⟩ := effect
      exact ⟨middle, handled, ih later⟩

/-- One question with its answer. A receive or a `select!` waits for a frame that
    gives it an answer; what `send_frame` cannot encode is not sent. -/
def Carries (machine : Machine σ) (gone : Prop) (p : Place σ) : NodeEvent → Place σ → Prop
  | ⟨.session (.send frame), answer⟩, p' =>
      match encodeFrame frame with
      | .ok _ => answer = .ok () ∧ p' = { p with outbox := p.outbox ++ [frame] }
      | .error e => answer = .error e ∧ p' = p
  | ⟨.session (.confirm _ _), answer⟩, p' => answer = true ∧ p' = p
  | ⟨c, answer⟩, p' =>
      (c.Receives ∧ ∃ result rest, Arrives gone p.inbox result rest ∧ c.take result = some answer ∧
        p' = { p with inbox := rest }) ∨
      (¬ c.Receives ∧ ∃ world, Works machine p.world ⟨c, answer⟩ world ∧ p' = { p with world })

/-- One end takes a step: a question is answered, or `recv_data_frame` receives a
    frame it does not return. -/
inductive SideStep (machine : Machine σ) (gone : Prop) : Task × Place σ → Task × Place σ → Prop where
  | answer {c next answer p p'} (carried : Carries machine gone p ⟨c, answer⟩ p') :
      SideStep machine gone (.ask c next, p) ((next answer).resume connectionRound, p')
  | pong {channel next p result rest nonce} (arrives : Arrives gone p.inbox result rest)
      (pinged : recvDataRound channel result = .pong nonce) :
      SideStep machine gone (.ask (.session (.recvData channel)) next, p)
        (.ask (.session (.recvData channel)) next,
          { p with inbox := rest, outbox := p.outbox ++ [.control (.pong nonce)] })
  | skip {channel next p result rest} (arrives : Arrives gone p.inbox result rest)
      (skipped : recvDataRound channel result = .skip) :
      SideStep machine gone (.ask (.session (.recvData channel)) next, p)
        (.ask (.session (.recvData channel)) next, { p with inbox := rest })

structure Link (σ : Type) where
  initiator : Task
  node : Task
  initiatorWorld : World σ
  nodeWorld : World σ
  toNode : List Frame
  toInitiator : List Frame

/-- Two endpoints, each on its own machine. -/
structure Setup (σ : Type) where
  blake3 : Bytes → FixedBytes 32
  backend : Clipboard.ClipboardBackend σ
  initiator : Endpoint
  node : Endpoint
  initiatorWorld : World σ
  nodeWorld : World σ

namespace Setup

variable (setup : Setup σ)

def machine (endpoint : Endpoint) : Machine σ :=
  ⟨setup.blake3, setup.backend, endpoint.localIdentity, endpoint.receiveDir⟩

inductive Step : Link σ → Link σ → Prop where
  | initiator {l : Link σ} {task p} (step : SideStep (setup.machine setup.initiator) (Finished l.node)
      (l.initiator, ⟨l.initiatorWorld, l.toInitiator, l.toNode⟩) (task, p)) :
      Step l ⟨task, l.node, p.world, l.nodeWorld, p.outbox, p.inbox⟩
  | node {l : Link σ} {task p} (step : SideStep (setup.machine setup.node) (Finished l.initiator)
      (l.node, ⟨l.nodeWorld, l.toNode, l.toInitiator⟩) (task, p)) :
      Step l ⟨l.initiator, task, l.initiatorWorld, p.world, p.inbox, p.outbox⟩

def start : Link σ :=
  ⟨runPair setup.initiator, handleConnection setup.node, setup.initiatorWorld, setup.nodeWorld, [], []⟩

abbrev Steps : Link σ → Link σ → Prop := Relation.ReflTransGen setup.Step

def Reachable (l : Link σ) : Prop := Relation.ReflTransGen setup.Step setup.start l

/-- Neither side has finished and neither can go on. -/
def Deadlocked (l : Link σ) : Prop :=
  ¬ Finished l.initiator ∧ ¬ Finished l.node ∧ ∀ l', ¬ setup.Step l l'

variable {setup} {p q : Task} {other : Task} {events : List NodeEvent} {w w' : World σ}
  {toNode toInitiator : List Frame} {b : Place σ}

/-- A run of a task in a place is a run of steps. -/
theorem side_run {machine : Machine σ} {gone : Prop} {a : Place σ} (run : Runs p events q)
    (carried : Along (Carries machine gone) a events b) :
    Relation.ReflTransGen (SideStep machine gone) (p.resume connectionRound, a)
      (q.resume connectionRound, b) := by
  induction run generalizing a with
  | stop =>
      cases carried
      exact .refl
  | ask _ ih =>
      obtain ⟨_, first, later⟩ := carried
      exact .head (.answer first) (ih later)

theorem initiator_runs (run : Runs p events q)
    (carried : Along (Carries (setup.machine setup.initiator) (Finished other))
      ⟨w, toInitiator, toNode⟩ events b) :
    setup.Steps ⟨p.resume connectionRound, other, w, w', toNode, toInitiator⟩
      ⟨q.resume connectionRound, other, b.world, w', b.outbox, b.inbox⟩ :=
  (side_run run carried).lift
    (fun s : Task × Place σ => (⟨s.1, other, s.2.world, w', s.2.outbox, s.2.inbox⟩ : Link σ))
    fun _ _ step => .initiator step

theorem node_runs (run : Runs p events q)
    (carried : Along (Carries (setup.machine setup.node) (Finished other))
      ⟨w', toNode, toInitiator⟩ events b) :
    setup.Steps ⟨other, p.resume connectionRound, w, w', toNode, toInitiator⟩
      ⟨other, q.resume connectionRound, w, b.world, b.inbox, b.outbox⟩ :=
  (side_run run carried).lift
    (fun s : Task × Place σ => (⟨other, s.1, w, s.2.world, s.2.inbox, s.2.outbox⟩ : Link σ))
    fun _ _ step => .node step

/-- Who waits for a data frame that nobody has sent or can send does nothing else. -/
theorem not_sideStep_of_waiting {machine : Machine σ} {gone : Prop} {channel : UInt16}
    {next : Except SessionError DataFrame → Task} {outbox : List Frame} {s : Task × Place σ}
    (present : ¬ gone) :
    ¬ SideStep machine gone (.ask (.session (.recvData channel)) next, ⟨w, [], outbox⟩) s := by
  have nothing : ∀ {result rest}, ¬ Arrives gone [] result rest := by
    rintro _ _ ⟨⟩
    contradiction
  intro step
  cases step with
  | answer carried =>
      rcases carried with ⟨-, _, _, arrives, -⟩ | ⟨elsewhere, -⟩
      · exact nothing arrives
      · exact elsewhere trivial
  | pong arrives _ => exact nothing arrives
  | skip arrives _ => exact nothing arrives

/-- Two tasks that both wait for a data frame, with none under way, are stuck. -/
theorem deadlocked_of_waiting {channel channel' : UInt16}
    {next next' : Except SessionError DataFrame → Task} :
    setup.Deadlocked ⟨.ask (.session (.recvData channel)) next,
      .ask (.session (.recvData channel')) next', w, w', [], []⟩ := by
  refine ⟨id, id, ?_⟩
  intro l' step
  cases step with
  | initiator step => exact not_sideStep_of_waiting id step
  | node step => exact not_sideStep_of_waiting id step

end Setup

section Events

variable {machine : Machine σ} {gone : Prop} {p : Place σ}

theorem carries_sent {frame : Frame} {bytes : Bytes} (encoded : encodeFrame frame = .ok bytes) :
    Carries machine gone p ⟨.session (.send frame), .ok ()⟩ { p with outbox := p.outbox ++ [frame] } := by
  simp [Carries, encoded]

theorem carries_recv {frame : Frame} {rest : List Frame} (arrived : p.inbox = frame :: rest) :
    Carries machine gone p ⟨.session .recv, .ok (some frame)⟩ { p with inbox := rest } :=
  .inl ⟨trivial, _, rest, arrived ▸ .frame, rfl, rfl⟩

theorem carries_select {frame : Frame} {rest : List Frame} (arrived : p.inbox = frame :: rest) :
    Carries machine gone p ⟨.select, .inbound (.ok (some frame))⟩ { p with inbox := rest } :=
  .inl ⟨trivial, _, rest, arrived ▸ .frame, rfl, rfl⟩

theorem carries_host {c : HostCall} {answer : c.Answer} (honest : c.Honest machine.localIdentity answer) :
    Carries machine gone p ⟨.session (.host c), answer⟩ p :=
  .inr ⟨id, p.world, ⟨honest, rfl⟩, rfl⟩

theorem carries_setState (state : SessionState) :
    Carries machine gone p ⟨.session (.setState state), ()⟩
      { p with world := { p.world with state } } :=
  .inr ⟨id, _, rfl, rfl⟩

theorem carries_isTrusted {nodeId : NodeId} {key : PublicKey} {answer : Except IdentityError Bool}
    (found : p.world.store.isTrusted nodeId key = answer) :
    Carries machine gone p ⟨.session (.isTrusted nodeId key), answer⟩ p :=
  .inr ⟨id, p.world, ⟨.inl found.symm, rfl⟩, rfl⟩

end Events

end BridgeOS.Node
