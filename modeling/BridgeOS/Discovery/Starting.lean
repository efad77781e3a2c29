import Mathlib.Data.List.Induction

/-! # Starting discovery, and starting it again

A channel runs while it holds the sender of its shutdown signal, and refuses to be
started then. The unified engine starts mDNS first and UDP second, and takes note of
a start that went all the way. If UDP cannot be started mDNS goes on browsing: no later
start gets past its refusal, until someone shuts down what was never reported as running.

What the mDNS daemon and the operating system answer is given with each call, whether or
not the daemon was shut down before.
-/

namespace BridgeOS.Discovery

/-- The errors that starting can give. -/
inductive StartError where
  | mdns (text : String)
  | internal (text : String)
  | alreadyRunning
  deriving DecidableEq

inductive UnifiedDiscoveryMode where
  | both
  | mdnsOnly
  | udpOnly
  deriving DecidableEq

/-- `Ok`, or the text of an error. -/
abbrev Answer := Except String Unit

/-- How the calls that a start makes are answered. -/
structure Answers where
  browse : Answer
  socket : Answer
  setReuseAddress : Answer
  setReusePort : Answer
  setBroadcast : Answer
  setNonblocking : Answer
  bind : Answer
  fromStd : Answer

namespace Answers

def browsing (answers : Answers) : Except StartError Unit :=
  answers.browse.mapError fun e => .mdns s!"failed to start browsing: {e}"

/-- The port may be reused if the system allows it, and need not be. -/
def createUdpSocket (answers : Answers) (bindAddr : String) : Except StartError Unit := do
  answers.socket.mapError fun e => .internal s!"failed to create UDP socket: {e}"
  answers.setReuseAddress.mapError fun e => .internal s!"failed to set SO_REUSEADDR: {e}"
  answers.setBroadcast.mapError fun e => .internal s!"failed to enable broadcast: {e}"
  answers.setNonblocking.mapError fun e => .internal s!"failed to set nonblocking: {e}"
  answers.bind.mapError fun e => .internal s!"failed to bind UDP socket to {bindAddr}: {e}"
  answers.fromStd.mapError fun e => .internal s!"failed to convert into Tokio UdpSocket: {e}"

/-- Whatever kept a start from succeeding is gone. -/
structure Favourable (answers : Answers) : Prop where
  browse : answers.browse = .ok ()
  socket : answers.socket = .ok ()
  setReuseAddress : answers.setReuseAddress = .ok ()
  setBroadcast : answers.setBroadcast = .ok ()
  setNonblocking : answers.setNonblocking = .ok ()
  bind : answers.bind = .ok ()
  fromStd : answers.fromStd = .ok ()

/-- Every call succeeds. -/
def granted : Answers := ⟨.ok (), .ok (), .ok (), .ok (), .ok (), .ok (), .ok (), .ok ()⟩

theorem favourable_granted : granted.Favourable := ⟨rfl, rfl, rfl, rfl, rfl, rfl, rfl⟩

variable {answers : Answers}

theorem browsing_eq_ok : answers.browsing = .ok () ↔ answers.browse = .ok () := by
  unfold browsing
  cases answers.browse <;> simp [Except.mapError]

theorem Favourable.createUdpSocket (favourable : answers.Favourable) (bindAddr : String) :
    answers.createUdpSocket bindAddr = .ok () := by
  rw [Answers.createUdpSocket, favourable.socket, favourable.setReuseAddress, favourable.setBroadcast,
    favourable.setNonblocking, favourable.bind, favourable.fromStd]
  rfl

end Answers

/-- Either daemon: whether it holds the sender of its shutdown signal, and how many workers
    it has to wait for. -/
structure Channel where
  running : Bool
  tasks : Nat
  deriving DecidableEq

namespace Channel

def new : Channel := ⟨false, 0⟩

/-- What has to be opened before the worker is spawned is `mdns.browse` or the UDP socket. -/
def start (opened : Except StartError Unit) (channel : Channel) : Except StartError Unit × Channel :=
  if channel.running then (.error .alreadyRunning, channel)
  else match opened with
    | .error e => (.error e, channel)
    | .ok _ => (.ok (), ⟨true, channel.tasks + 1⟩)

/-- The worker is told to stop and waited for. -/
def shutdown (_ : Channel) : Channel := ⟨false, 0⟩

/-- A channel that is not configured has nothing to start. -/
def startAny (opened : Except StartError Unit) : Option Channel → Except StartError Unit × Option Channel
  | none => (.ok (), none)
  | some channel => ((channel.start opened).1, some (channel.start opened).2)

end Channel

structure UnifiedDiscovery where
  mode : UnifiedDiscoveryMode
  bindAddr : String
  mdns : Option Channel
  udp : Option Channel
  isRunning : Bool
  deriving DecidableEq

namespace UnifiedDiscovery

/-- The answer is that to the creation of the mDNS daemon. -/
def new (mode : UnifiedDiscoveryMode) (bindAddr : String) (daemon : Answer) :
    Except StartError UnifiedDiscovery := do
  let mdns ← match mode with
    | .both | .mdnsOnly =>
        (daemon.mapError fun e => StartError.mdns s!"failed to create ServiceDaemon: {e}").map fun _ =>
          some Channel.new
    | .udpOnly => .ok none
  let udp := match mode with
    | .both | .udpOnly => some Channel.new
    | .mdnsOnly => none
  .ok { mode, bindAddr, mdns, udp, isRunning := false }

def startDiscovery (unified : UnifiedDiscovery) (answers : Answers) :
    Except StartError Unit × UnifiedDiscovery :=
  if unified.isRunning then (.error .alreadyRunning, unified)
  else match Channel.startAny answers.browsing unified.mdns with
    | (.error e, mdns) => (.error e, { unified with mdns })
    | (.ok _, mdns) =>
        match Channel.startAny (answers.createUdpSocket unified.bindAddr) unified.udp with
        | (.error e, udp) => (.error e, { unified with mdns, udp })
        | (.ok _, udp) => (.ok (), { unified with mdns, udp, isRunning := true })

def shutdown (unified : UnifiedDiscovery) : UnifiedDiscovery :=
  { unified with
    mdns := unified.mdns.map Channel.shutdown
    udp := unified.udp.map Channel.shutdown
    isRunning := false }

def mdnsRunning (unified : UnifiedDiscovery) : Bool := unified.mdns.any Channel.running

def udpRunning (unified : UnifiedDiscovery) : Bool := unified.udp.any Channel.running

/-- What keeps a running engine from being started is that it runs, and that is over once it
    has been shut down. Otherwise the cause is among the answers. -/
def causeGone (unified : UnifiedDiscovery) : UnifiedDiscovery :=
  if unified.isRunning then unified.shutdown else unified

inductive Call where
  | startDiscovery (answers : Answers)
  | shutdown

def perform (unified : UnifiedDiscovery) : Call → UnifiedDiscovery
  | .startDiscovery answers => (unified.startDiscovery answers).2
  | .shutdown => unified.shutdown

def performAll (unified : UnifiedDiscovery) (calls : List Call) : UnifiedDiscovery :=
  calls.foldl perform unified

theorem performAll_snoc (unified : UnifiedDiscovery) (calls : List Call) (call : Call) :
    unified.performAll (calls ++ [call]) = (unified.performAll calls).perform call := by
  simp [performAll]

end UnifiedDiscovery

/-- What a unified engine may be doing. `browsing` is what is left of a start that failed
    half-way. -/
inductive Phase where
  | stopped
  | browsing
  | started
  deriving DecidableEq

namespace Phase

/-- Only with both channels can a start fail half-way. -/
def Allowed (mode : UnifiedDiscoveryMode) (phase : Phase) : Prop := phase = .browsing → mode = .both

def start (mode : UnifiedDiscoveryMode) (browsing socket : Except StartError Unit) :
    Phase → Except StartError Unit × Phase
  | .started => (.error .alreadyRunning, .started)
  | .browsing => (.error .alreadyRunning, .browsing)
  | .stopped =>
      match mode, browsing, socket with
      | .mdnsOnly, .error e, _ => (.error e, .stopped)
      | .mdnsOnly, .ok _, _ => (.ok (), .started)
      | .udpOnly, _, .error e => (.error e, .stopped)
      | .udpOnly, _, .ok _ => (.ok (), .started)
      | .both, .error e, _ => (.error e, .stopped)
      | .both, .ok _, .error e => (.error e, .browsing)
      | .both, .ok _, .ok _ => (.ok (), .started)

theorem allowed_stopped (mode : UnifiedDiscoveryMode) : Allowed mode .stopped := by
  intro impossible
  cases impossible

theorem Allowed.start {mode : UnifiedDiscoveryMode} {phase : Phase} (allowed : phase.Allowed mode)
    (browsing socket : Except StartError Unit) : (phase.start mode browsing socket).2.Allowed mode := by
  cases phase with
  | started | browsing => exact allowed
  | stopped =>
      cases mode with
      | both => exact fun _ => rfl
      | mdnsOnly => cases browsing <;> simp [Phase.start, Allowed]
      | udpOnly => cases socket <;> simp [Phase.start, Allowed]

/-- A running channel has one worker. -/
def channel (running : Bool) : Channel := if running then ⟨true, 1⟩ else .new

def realize (mode : UnifiedDiscoveryMode) (bindAddr : String) (phase : Phase) : UnifiedDiscovery where
  mode := mode
  bindAddr := bindAddr
  mdns := match mode with
    | .both | .mdnsOnly => some (channel (phase ≠ .stopped))
    | .udpOnly => none
  udp := match mode with
    | .both | .udpOnly => some (channel (phase = .started))
    | .mdnsOnly => none
  isRunning := phase = .started

variable {mode : UnifiedDiscoveryMode} {bindAddr : String} {phase : Phase}

theorem isRunning_realize : (realize mode bindAddr phase).isRunning = decide (phase = .started) := rfl

theorem mdnsRunning_realize :
    (realize mode bindAddr phase).mdnsRunning = decide (mode ≠ .udpOnly ∧ phase ≠ .stopped) := by
  cases mode <;> cases phase <;> rfl

theorem udpRunning_realize :
    (realize mode bindAddr phase).udpRunning = decide (mode ≠ .mdnsOnly ∧ phase = .started) := by
  cases mode <;> cases phase <;> rfl

theorem eq_of_new {daemon : Answer} {unified : UnifiedDiscovery}
    (created : UnifiedDiscovery.new mode bindAddr daemon = .ok unified) :
    unified = realize mode bindAddr .stopped := by
  unfold UnifiedDiscovery.new at created
  cases mode with
  | udpOnly =>
      cases created
      rfl
  | both | mdnsOnly =>
      cases daemon with
      | error e => cases created
      | ok =>
          cases created
          rfl

theorem shutdown_realize : (realize mode bindAddr phase).shutdown = realize mode bindAddr .stopped := by
  cases mode <;> rfl

/-- The engine starts as its phase says. -/
theorem startDiscovery_realize (allowed : phase.Allowed mode) (answers : Answers) :
    (realize mode bindAddr phase).startDiscovery answers =
      ((phase.start mode answers.browsing (answers.createUdpSocket bindAddr)).1,
        realize mode bindAddr
          (phase.start mode answers.browsing (answers.createUdpSocket bindAddr)).2) := by
  cases phase with
  | started => rfl
  | browsing =>
      obtain rfl := allowed rfl
      rfl
  | stopped =>
      unfold UnifiedDiscovery.startDiscovery
      cases mode with
      | both =>
          cases browse : answers.browsing with
          | error e => simp [realize, channel, Channel.startAny, Channel.start, start, Channel.new]
          | ok =>
              cases socket : answers.createUdpSocket bindAddr <;>
                simp [realize, channel, Channel.startAny, Channel.start, start, Channel.new, socket]
      | mdnsOnly =>
          cases browse : answers.browsing <;>
            simp [realize, channel, Channel.startAny, Channel.start, start, Channel.new]
      | udpOnly =>
          cases socket : answers.createUdpSocket bindAddr <;>
            simp [realize, channel, Channel.startAny, Channel.start, start, Channel.new, socket]

variable (mode bindAddr) in
/-- Whatever is called, the engine is in one of its phases. -/
theorem performAll_realize (calls : List UnifiedDiscovery.Call) :
    ∃ phase : Phase, phase.Allowed mode ∧
      (realize mode bindAddr .stopped).performAll calls = realize mode bindAddr phase := by
  induction calls using List.reverseRecOn with
  | nil => exact ⟨.stopped, allowed_stopped mode, rfl⟩
  | append_singleton calls call ih =>
      obtain ⟨phase, allowed, reached⟩ := ih
      rw [UnifiedDiscovery.performAll_snoc, reached]
      cases call with
      | startDiscovery answers =>
          rw [UnifiedDiscovery.perform, startDiscovery_realize allowed]
          exact ⟨_, allowed.start _ _, rfl⟩
      | shutdown => exact ⟨.stopped, allowed_stopped mode, shutdown_realize⟩

/-- How a start can fail: nothing has changed, or mDNS was the first of two and has begun. -/
theorem start_error {browsing socket : Except StartError Unit} {e : StartError}
    (error : (phase.start mode browsing socket).1 = .error e) :
    (phase.start mode browsing socket).2 = phase ∧
        (phase = .stopped → mode = .both → browsing ≠ .ok ()) ∨
      mode = .both ∧ phase = .stopped ∧ browsing = .ok () ∧
        (phase.start mode browsing socket).2 = .browsing := by
  cases phase with
  | started | browsing => simp [start]
  | stopped =>
      cases mode with
      | both =>
          cases browsing with
          | error => simp [start]
          | ok =>
              cases socket with
              | error => simp [start]
              | ok => cases error
      | mdnsOnly => cases browsing <;> simp_all [start]
      | udpOnly => cases socket <;> simp_all [start]

theorem start_stopped : Phase.stopped.start mode (.ok ()) (.ok ()) = (.ok (), .started) := by
  cases mode <;> rfl

theorem startDiscovery_stopped {answers : Answers} (favourable : answers.Favourable) :
    ((realize mode bindAddr .stopped).startDiscovery answers).1 = .ok () := by
  rw [startDiscovery_realize (allowed_stopped mode), Answers.browsing_eq_ok.mpr favourable.browse,
    favourable.createUdpSocket, start_stopped]

theorem startDiscovery_browsing (answers : Answers) :
    (realize .both bindAddr .browsing).startDiscovery answers =
      (.error .alreadyRunning, realize .both bindAddr .browsing) := rfl

/-- Once mDNS browses on its own, no number of attempts starts the engine. -/
theorem performAll_browsing (attempts : List Answers) :
    (realize .both bindAddr .browsing).performAll (attempts.map .startDiscovery) =
      realize .both bindAddr .browsing := by
  induction attempts with
  | nil => rfl
  | cons answers attempts ih => exact ih

theorem causeGone_started : (realize mode bindAddr .started).causeGone = realize mode bindAddr .stopped := by
  cases mode <;> rfl

theorem retryable_iff (allowed : phase.Allowed mode) :
    (∀ later : Answers, later.Favourable →
        ((realize mode bindAddr phase).causeGone.startDiscovery later).1 = .ok ()) ↔
      phase ≠ .browsing := by
  cases phase with
  | started =>
      rw [causeGone_started]
      exact iff_of_true (fun later favourable => startDiscovery_stopped favourable) (by simp)
  | stopped => exact iff_of_true (fun later favourable => startDiscovery_stopped favourable) (by simp)
  | browsing =>
      obtain rfl := allowed rfl
      refine iff_of_false (fun retryable => ?_) (by simp)
      cases retryable .granted Answers.favourable_granted

end Phase

namespace UnifiedDiscovery

open Phase (realize)

/-- For every engine, whatever was called on it before. A start that fails leaves `is_running`
    and the UDP channel as they were. It leaves mDNS as it was, and can be tried again, unless
    there are both channels and browsing began, in this attempt or in one that failed before. -/
theorem failed_start_retryable_iff (mode : UnifiedDiscoveryMode) (bindAddr : String) (daemon : Answer)
    (first : UnifiedDiscovery) (created : new mode bindAddr daemon = .ok first) (calls : List Call)
    (answers : Answers) (e : StartError) (failed : UnifiedDiscovery)
    (refused : (first.performAll calls).startDiscovery answers = (.error e, failed)) :
    failed.isRunning = (first.performAll calls).isRunning ∧
      failed.udpRunning = (first.performAll calls).udpRunning ∧
      (failed.mdnsRunning = (first.performAll calls).mdnsRunning ∧
          (∀ later : Answers, later.Favourable → (failed.causeGone.startDiscovery later).1 = .ok ()) ↔
        ¬ (mode = .both ∧ (first.performAll calls).isRunning = false ∧
          ((first.performAll calls).mdnsRunning = true ∨ answers.browse = .ok ()))) := by
  obtain rfl := Phase.eq_of_new created
  obtain ⟨phase, allowed, reached⟩ := Phase.performAll_realize mode bindAddr calls
  rw [reached, Phase.startDiscovery_realize allowed] at refused
  rw [reached, ← Answers.browsing_eq_ok]
  obtain ⟨error, rfl⟩ := Prod.mk.inj refused
  have next := allowed.start answers.browsing (answers.createUdpSocket bindAddr)
  rw [Phase.retryable_iff next]
  simp only [Phase.isRunning_realize, Phase.mdnsRunning_realize, Phase.udpRunning_realize]
  rcases Phase.start_error error with ⟨same, unbegun⟩ | ⟨rfl, rfl, begun, half⟩
  · rw [same]
    cases phase with
    | started => simp
    | stopped => simpa using unbegun
    | browsing => simp [allowed rfl]
  · rw [half]
    simp [begun]

/-- The port of the UDP channel is taken. -/
def portTaken : Answers := { Answers.granted with bind := .error "Address already in use (os error 98)" }

/-- Without mDNS the error leaves nothing behind. -/
theorem failed_start_retryable_of_udp :
    ∃ failed e, (realize .udpOnly "0.0.0.0:42424" .stopped).startDiscovery portTaken = (.error e, failed) ∧
      (failed.causeGone.startDiscovery .granted).1 = .ok () := by
  refine ⟨_, _, rfl, ?_⟩
  have retryable := (failed_start_retryable_iff .udpOnly "0.0.0.0:42424" (.ok ()) _ rfl [] portTaken _ _
    rfl).2.2.mpr (by simp)
  exact retryable.2 .granted Answers.favourable_granted

/-- With both channels mDNS is running after the error as it was not before, and every later
    start is refused for it, whatever the system answers. -/
theorem failed_start_blocks_retry :
    ∃ first failed, new .both "0.0.0.0:42424" (.ok ()) = .ok first ∧
      first.startDiscovery portTaken =
        (.error (.internal
          "failed to bind UDP socket to 0.0.0.0:42424: Address already in use (os error 98)"), failed) ∧
      first.mdnsRunning = false ∧ failed.mdnsRunning = true ∧ failed.isRunning = false ∧
      ∀ (attempts : List Answers) (later : Answers),
        ((failed.performAll (attempts.map .startDiscovery)).startDiscovery later).1 =
          .error .alreadyRunning := by
  refine ⟨_, realize .both "0.0.0.0:42424" .browsing, rfl, rfl, rfl, rfl, rfl, fun attempts later => ?_⟩
  rw [Phase.performAll_browsing, Phase.startDiscovery_browsing]

end UnifiedDiscovery

end BridgeOS.Discovery
