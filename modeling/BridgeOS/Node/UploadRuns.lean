import BridgeOS.Node.UploadSides

/-! # What holds throughout an upload

The two contracts joined over the stream: the offer goes over once, a `Complete`
that is under way or has arrived was sent by a node that has the file, and
nothing the node does afterwards touches the file again.
-/

namespace BridgeOS.Node

open BridgeOS.Session hiding recvFrame
open BridgeOS.Transfer BridgeOS.Transport BridgeOS.Cli Proc
open FileReceiver

variable [Crypto] {σ : Type}

/-- What a question with its answer does to one end of the stream. With other frames
    behind those it takes and before those it sends, it would do the same. -/
structure Moves (machine : Machine σ) (gone : Prop) (p : Place σ) (event : NodeEvent) (p' : Place σ) : Prop where
  works : Works machine p.world event p'.world
  taken : p.inbox = (received? event).toList ++ p'.inbox
  sent : p'.outbox = p.outbox ++ (sent? event).toList
  sendable : ∀ frame, sent? event = some frame → Sendable frame
  inbound : ∀ frame, event ≠ ⟨.select, .outbound frame⟩
  elsewhere : ∀ {gone' : Prop} {inbox inbox' outbox : List Frame}, (gone → gone') →
    inbox = (received? event).toList ++ inbox' → (p.inbox = [] → inbox = []) →
      Carries machine gone' ⟨p.world, inbox, outbox⟩ event
        ⟨p'.world, inbox', outbox ++ (sent? event).toList⟩

section Moves

variable {machine : Machine σ} {gone : Prop} {p p' : Place σ} {event : NodeEvent} {frame : Frame}
  {c : NodeCall} {answer : c.Answer}

theorem Moves.mem_of_received (moves : Moves machine gone p event p') (received : received? event = some frame) :
    frame ∈ p.inbox := by
  rw [moves.taken, received]
  exact List.mem_cons_self

theorem Moves.mem_of_mem (moves : Moves machine gone p event p') (mem : frame ∈ p'.inbox) :
    frame ∈ p.inbox := by
  rw [moves.taken]
  exact List.mem_append_right _ mem

/-- A question that touches neither direction of the stream. -/
theorem moves_of_works {world : World σ} (works : Works machine p.world ⟨c, answer⟩ world)
    (received : received? ⟨c, answer⟩ = none) (sent : sent? ⟨c, answer⟩ = none) (other : c ≠ .select)
    (carried : ∀ {gone' : Prop} {inbox outbox : List Frame},
      Carries machine gone' ⟨p.world, inbox, outbox⟩ ⟨c, answer⟩ ⟨world, inbox, outbox⟩) :
    Moves machine gone p ⟨c, answer⟩ { p with world } where
  works := works
  taken := by rw [received]; rfl
  sent := by rw [sent]; exact (List.append_nil _).symm
  sendable := by
    intro frame impossible
    cases sent.symm.trans impossible
  inbound := by
    intro frame same
    exact other (congrArg Event.call same)
  elsewhere := by
    intro gone' inbox inbox' outbox _ taken _
    rw [taken, received, sent, Option.toList_none, List.append_nil]
    exact carried

/-- A question that takes the next frame, or the end. -/
theorem moves_of_arrives {result : Except BridgeError (Option Frame)} {rest : List Frame}
    (arrives : Arrives gone p.inbox result rest) (works : Works machine p.world ⟨c, answer⟩ p.world)
    (taken : p.inbox = (received? ⟨c, answer⟩).toList ++ rest) (sent : sent? ⟨c, answer⟩ = none)
    (inbound : ∀ frame, (⟨c, answer⟩ : NodeEvent) ≠ ⟨.select, .outbound frame⟩)
    (carried : ∀ {gone' : Prop} {inbox rest outbox : List Frame}, Arrives gone' inbox result rest →
      Carries machine gone' ⟨p.world, inbox, outbox⟩ ⟨c, answer⟩ ⟨p.world, rest, outbox⟩) :
    Moves machine gone p ⟨c, answer⟩ { p with inbox := rest } where
  works := works
  taken := taken
  sent := by rw [sent]; exact (List.append_nil _).symm
  sendable := by
    intro frame impossible
    cases sent.symm.trans impossible
  inbound := inbound
  elsewhere := by
    intro gone' inbox inbox' outbox still taken' empty
    rw [sent, Option.toList_none, List.append_nil]
    generalize p.inbox = frames at arrives taken empty
    cases arrives with
    | frame =>
        have front : [_] = _ := List.append_cancel_right taken
        rw [taken', ← front]
        exact carried .frame
    | ended finished =>
        obtain ⟨-, rfl⟩ := List.append_eq_nil_iff.mp (taken'.symm.trans (empty rfl))
        rw [empty rfl]
        exact carried (.ended (still finished))

theorem Carries.moves (carried : Carries machine gone p ⟨c, answer⟩ p')
    (other : ∀ channel, c ≠ .session (.recvData channel)) : Moves machine gone p ⟨c, answer⟩ p' := by
  obtain ⟨world, inbox, outbox⟩ := p
  cases c with
  | session c =>
      cases c with
      | send frame =>
          simp only [Carries] at carried
          split at carried
          · rename_i bytes encoded
            obtain ⟨rfl, rfl⟩ := carried
            refine ⟨rfl, rfl, rfl, ?_, by simp, ?_⟩
            · rintro _ ⟨⟩
              exact ⟨bytes, encoded⟩
            · rintro _ _ _ _ - rfl -
              exact carries_sent encoded
          · rename_i e failed
            obtain ⟨rfl, rfl⟩ := carried
            exact moves_of_works rfl rfl rfl (by simp) (by simp [Carries, failed])
      | confirm sas name =>
          obtain ⟨rfl, rfl⟩ := carried
          exact moves_of_works rfl rfl rfl (by simp) ⟨rfl, rfl⟩
      | recv =>
          rcases carried with ⟨-, result, rest, arrives, took, rfl⟩ | ⟨elsewhere, -⟩
          · cases took
            exact moves_of_arrives arrives rfl (by cases arrives <;> rfl) rfl (by simp)
              fun arrives => .inl ⟨trivial, _, _, arrives, rfl, rfl⟩
          · exact absurd trivial elsewhere
      | recvData channel => exact absurd rfl (other channel)
      | _ =>
          rcases carried with ⟨receives, -⟩ | ⟨-, world, works, rfl⟩
          · exact receives.elim
          · exact moves_of_works works rfl rfl (by simp) (.inr ⟨id, world, works, rfl⟩)
  | select =>
      rcases carried with ⟨-, result, rest, arrives, took, rfl⟩ | ⟨elsewhere, -⟩
      · cases took
        exact moves_of_arrives arrives rfl (by cases arrives <;> rfl) rfl (by simp)
          fun arrives => .inl ⟨trivial, _, _, arrives, rfl, rfl⟩
      · exact absurd trivial elsewhere
  | _ =>
      rcases carried with ⟨receives, -⟩ | ⟨-, world, works, rfl⟩
      · exact receives.elim
      · exact moves_of_works works rfl rfl (by simp) (.inr ⟨id, world, works, rfl⟩)

end Moves

theorem call_of_sent {c : NodeCall} {answer : c.Answer} {frame : Frame}
    (sent : sent? ⟨c, answer⟩ = some frame) : c = .session (.send frame) := by
  unfold sent? at sent
  split at sent
  · rename_i same
    cases same
    cases sent
    rfl
  · cases sent

namespace Upload

variable (upload : Upload σ)

/-- One for an offer that has been taken. -/
def Stage.taken : Stage → Nat
  | .fresh => 0
  | _ => 1

/-- The command, the node and the frames between them. -/
structure Sound (l : Link σ) (progress : Progress) (stage : Stage) : Prop where
  sender : l.initiator.Keeps upload.senderContract Confirmed progress
  node : l.node.Keeps upload.nodeContract upload.FitsTask ⟨l.nodeWorld, stage⟩
  toNode : ∀ frame ∈ l.toNode,
    OfUpload frame ∧ Sendable frame ∧ (offers frame = true → frame = upload.offer)
  balance : l.toNode.countP offers + Stage.taken stage ≤ progress.offered.toNat
  completed : ∀ frame ∈ l.toInitiator, completes frame = true → stage = .closed
  confirmed : progress.confirmed = true → stage = .closed
  closed : stage = .closed → upload.Done l.nodeWorld.disk

variable {upload} {l l' : Link σ} {progress : Progress} {stage : Stage}

theorem sound_start : upload.Sound upload.start ⟨false, false⟩ .fresh where
  sender := keeps_runSendFile _ _
  node := keeps_handleConnection rfl
  toNode := by simp [start]
  balance := Nat.le_refl 0
  completed := by simp [start]
  confirmed := nofun
  closed := nofun

section Sender

theorem keeps_resume_confirmed {p : Task} (kept : p.Keeps upload.senderContract Confirmed progress) :
    (p.resume connectionRound).Keeps upload.senderContract Confirmed progress := by
  rcases p with (_ | _) | _ | _
  · cases kept.2
  · exact kept
  · exact kept
  · exact kept

/-- The command's next question and what becomes of it. -/
theorem Sound.sender_moves (sound : upload.Sound l progress stage) {gone : Prop} {task : Task} {p : Place σ}
    (step : SideStep (upload.setup.machine upload.setup.initiator) gone
      (l.initiator, ⟨l.initiatorWorld, l.toInitiator, l.toNode⟩) (task, p)) :
    ∃ c next answer, l.initiator = .ask c next ∧ task = (next answer).resume connectionRound ∧
      upload.senderContract.may progress c ∧
      Moves (upload.setup.machine upload.setup.initiator) gone ⟨l.initiatorWorld, l.toInitiator, l.toNode⟩
        ⟨c, answer⟩ p ∧
      upload.Sound ⟨task, l.node, p.world, l.nodeWorld, p.outbox, p.inbox⟩
        (progress.after ⟨c, answer⟩) stage := by
  obtain ⟨initiator, node, initiatorWorld, nodeWorld, toNode, toInitiator⟩ := l
  cases step with
  | pong arrives pinged => exact sound.sender.1.elim
  | skip arrives skipped => exact sound.sender.1.elim
  | @answer c next answer _ _ carried =>
      obtain ⟨may, rest⟩ := sound.sender
      have moves := carried.moves (by
        rintro channel rfl
        exact may)
      refine ⟨c, next, answer, rfl, rfl, may, moves, ?_⟩
      constructor
      · exact keeps_resume_confirmed (rest answer _ rfl)
      · exact sound.node
      · intro frame mem
        rw [moves.sent] at mem
        rcases List.mem_append.mp mem with old | new
        · exact sound.toNode frame old
        · have sent := Option.mem_toList.mp new
          obtain rfl := call_of_sent sent
          exact ⟨may.1, moves.sendable frame sent, fun offering => (may.2 (moves.sendable frame sent) offering).2⟩
      · have balance := sound.balance
        simp only [moves.sent, List.countP_append, Progress.after]
        cases sent : sent? ⟨c, answer⟩ with
        | none => simpa using balance
        | some frame =>
            cases offering : offers frame with
            | false => simpa [offering] using balance
            | true =>
                obtain rfl := call_of_sent sent
                rw [(may.2 (moves.sendable frame sent) offering).1] at balance ⊢
                simp only [Option.toList_some, List.countP_singleton, offering, if_true, Option.any_some,
                  Bool.or_true, Bool.toNat_true, Bool.toNat_false] at balance ⊢
                omega
      · exact fun frame mem => sound.completed frame (moves.mem_of_mem mem)
      · intro confirmed
        rcases (Bool.or_eq_true _ _).mp confirmed with before | now
        · exact sound.confirmed before
        · cases received : received? ⟨c, answer⟩ with
          | none =>
              rw [received] at now
              cases now
          | some frame =>
              rw [received] at now
              exact sound.completed frame (moves.mem_of_received received) now
      · exact sound.closed

end Sender

section Node

variable {world : World σ} {toNode : List Frame} {c : NodeCall} {answer : c.Answer}

/-- Nothing but an open receiver writes to the disk. -/
theorem disk_of_works {machine : Machine σ} {w w' : World σ}
    (works : Works machine w ⟨c, answer⟩ w') (session : ∀ manifest, c ≠ .session (.openReceiver manifest))
    (stores : ∀ receiver chunk, c ≠ .receiveChunk receiver chunk)
    (finalizes : ∀ receiver, c ≠ .finalizeFile receiver) : w'.disk = w.disk := by
  cases c with
  | session c =>
      cases c with
      | openReceiver manifest => exact absurd rfl (session manifest)
      | host c => rw [works.2]
      | isTrusted nodeId key => rw [works.2]
      | readState => rw [works.2]
      | clipboardFrame frame => rw [works.2]
      | updateLastSeen nodeId timestamp => cases answer <;> cases works <;> rfl
      | savePeer peer => cases answer <;> cases works <;> rfl
      | _ =>
          cases works
          rfl
  | receiveChunk receiver chunk => exact absurd rfl (stores receiver chunk)
  | finalizeFile receiver => exact absurd rfl (finalizes receiver)
  | _ =>
      cases works
      rfl

theorem keeps_resume_fits {s : Watch σ} {p : Task} (kept : p.Keeps upload.nodeContract upload.FitsTask s) :
    (p.resume connectionRound).Keeps upload.nodeContract upload.FitsTask s := by
  rcases p with (⟨self, phase⟩ | _) | _ | _
  · exact keeps_connectionRound kept
  · exact kept
  · exact kept
  · exact kept

/-- An event takes an offer, sends a `Complete`, or leaves the stage as it is. -/
theorem Stage.after_cases (stage : Stage) (event : NodeEvent) :
    (∃ frame, received? event = some frame ∧ offers frame = true ∧ stage.after event = .offered) ∨
      ((received? event).any offers = false ∧
        ((∃ frame, sent? event = some frame ∧ completes frame = true ∧ stage.after event = .closed) ∨
          (sent? event).any completes = false ∧ stage.after event = stage)) := by
  unfold Stage.after
  cases received : received? event with
  | some frame =>
      cases offering : offers frame with
      | true => simp [offering]
      | false =>
          cases sent : sent? event with
          | none => simp [offering]
          | some frame' => cases completing : completes frame' <;> simp [offering, completing]
  | none =>
      cases sent : sent? event with
      | none => simp
      | some frame => cases completing : completes frame <;> simp [completing]

variable (sound : upload.Sound l progress stage)

include sound

/-- What the node takes off the stream is what its contract allows for. -/
theorem Sound.admits (taken : l.toNode = (received? ⟨c, answer⟩).toList ++ toNode)
    (queued : ∀ frame, (⟨c, answer⟩ : NodeEvent) = ⟨.select, .outbound frame⟩ →
      frame.channel = DataFrame.channelClipboard)
    (sendable : ∀ frame, sent? ⟨c, answer⟩ = some frame → Sendable frame) :
    upload.Admits stage ⟨c, answer⟩ := by
  have arrived : ∀ frame, received? ⟨c, answer⟩ = some frame → frame ∈ l.toNode := by
    intro frame received
    rw [taken, received]
    exact List.mem_cons_self
  refine ⟨fun frame received => (sound.toNode frame (arrived frame received)).1, ?_, queued, sendable⟩
  intro frame received offering
  obtain ⟨-, fits, same⟩ := sound.toNode frame (arrived frame received)
  constructor
  · have balance := sound.balance
    have bound := progress.offered.toNat_le
    rw [taken, received, List.countP_append, Option.toList_some, List.countP_singleton,
      if_pos offering] at balance
    cases stage with
    | fresh => rfl
    | _ =>
        simp only [Stage.taken] at balance
        omega
  · obtain rfl := same offering
    exact message?_of_sendable fits

/-- A `Complete` is sent by a node that has the file. -/
theorem Sound.completing {next : c.Answer → Task}
    (asks : l.node = .ask c next) (admits : upload.Admits stage ⟨c, answer⟩) {frame : Frame}
    (sent : sent? ⟨c, answer⟩ = some frame) (completes : completes frame = true) :
    stage = .offered ∧ upload.Done l.nodeWorld.disk := by
  have kept := sound.node
  rw [asks] at kept
  obtain rfl := call_of_sent sent
  exact kept.1.1 (admits.sent frame sent) completes

/-- The stage is left by taking the offer and by nothing else. -/
theorem Sound.after_ne_fresh {next : c.Answer → Task}
    (asks : l.node = .ask c next) (taken : l.toNode = (received? ⟨c, answer⟩).toList ++ toNode)
    (admits : upload.Admits stage ⟨c, answer⟩) :
    stage.after ⟨c, answer⟩ ≠ .fresh ↔ stage ≠ .fresh ∨ received? ⟨c, answer⟩ = some upload.offer := by
  have arrived : ∀ frame, received? ⟨c, answer⟩ = some frame → frame ∈ l.toNode := by
    intro frame received
    rw [taken, received]
    exact List.mem_cons_self
  rcases Stage.after_cases stage ⟨c, answer⟩ with ⟨frame, received, offering, after⟩ | ⟨other, rest⟩
  · have same := (sound.toNode frame (arrived frame received)).2.2 offering
    rw [after, received, same]
    simp
  · have unoffered : received? ⟨c, answer⟩ ≠ some upload.offer := by
      intro received
      have fits := (sound.toNode _ (arrived _ received)).2.1
      rw [received, Option.any_some, offer, offers, message?_of_sendable fits] at other
      cases other
    rcases rest with ⟨frame, sent, completes, after⟩ | ⟨-, after⟩
    · rw [after, (sound.completing asks admits sent completes).1]
      simp
    · rw [after]
      exact (or_iff_left unoffered).symm

/-- The node's next question and what becomes of it. -/
theorem Sound.node_after {next : c.Answer → Task} (asks : l.node = .ask c next)
    (works : Works (upload.setup.machine upload.setup.node) l.nodeWorld ⟨c, answer⟩ world)
    (taken : l.toNode = (received? ⟨c, answer⟩).toList ++ toNode)
    (admits : upload.Admits stage ⟨c, answer⟩) :
    upload.Sound ⟨l.initiator, (next answer).resume connectionRound, l.initiatorWorld, world, toNode,
      l.toInitiator ++ (sent? ⟨c, answer⟩).toList⟩ progress (stage.after ⟨c, answer⟩) := by
  have kept := sound.node
  rw [asks] at kept
  obtain ⟨may, rest⟩ := kept
  have stays : stage = .closed → stage.after ⟨c, answer⟩ = .closed := by
    intro closed
    rcases Stage.after_cases stage ⟨c, answer⟩ with ⟨frame, received, offering, -⟩ | ⟨-, rest⟩
    · cases closed.symm.trans (admits.offer frame received offering).1
    · rcases rest with ⟨-, -, -, after⟩ | ⟨-, after⟩
      · exact after
      · exact after.trans closed
  have closes : ∀ frame, sent? ⟨c, answer⟩ = some frame → completes frame = true →
      stage.after ⟨c, answer⟩ = .closed := by
    intro frame sent completes
    obtain rfl := call_of_sent sent
    rw [Stage.after, sent, Option.any_some, completes]
    rfl
  constructor
  · exact sound.sender
  · exact keeps_resume_fits (rest answer ⟨world, _⟩ ⟨admits, rfl, l.nodeWorld, .refl _, works⟩)
  · intro frame mem
    refine sound.toNode frame ?_
    rw [taken]
    exact List.mem_append_right _ mem
  · have balance := sound.balance
    rw [taken, List.countP_append] at balance
    rcases Stage.after_cases stage ⟨c, answer⟩ with ⟨frame, received, offering, after⟩ | ⟨other, rest⟩
    · rw [received, (admits.offer frame received offering).1, Option.toList_some, List.countP_singleton,
        if_pos offering] at balance
      rw [after]
      simp only [Stage.taken] at balance ⊢
      omega
    · rcases rest with ⟨frame, sent, completes, after⟩ | ⟨-, after⟩
      · rw [(sound.completing asks admits sent completes).1] at balance
        rw [after]
        exact le_trans (Nat.add_le_add_right (Nat.le_add_left _ _) _) balance
      · rw [after]
        exact le_trans (Nat.add_le_add_right (Nat.le_add_left _ _) _) balance
  · intro frame mem completes
    rcases List.mem_append.mp mem with old | new
    · exact stays (sound.completed frame old completes)
    · exact closes frame (Option.mem_toList.mp new) completes
  · exact fun confirmed => stays (sound.confirmed confirmed)
  · intro closed
    rcases Stage.after_cases stage ⟨c, answer⟩ with ⟨frame, -, -, after⟩ | ⟨-, rest⟩
    · cases after.symm.trans closed
    · rcases rest with ⟨frame, sent, completes, -⟩ | ⟨-, after⟩
      · obtain ⟨-, done⟩ := sound.completing asks admits sent completes
        obtain rfl := call_of_sent sent
        cases works
        exact done
      · have before : stage = .closed := after.symm.trans closed
        have shut : stage ≠ .offered := by
          rw [before]
          simp
        rw [disk_of_works works (by rintro manifest rfl; exact shut may.1)
          (by rintro receiver chunk rfl; exact shut may.1) (by rintro receiver rfl; exact shut may.1)]
        exact sound.closed before

theorem Sound.node_moves {gone : Prop} {task : Task} {p : Place σ}
    (step : SideStep (upload.setup.machine upload.setup.node) gone
      (l.node, ⟨l.nodeWorld, l.toNode, l.toInitiator⟩) (task, p)) :
    ∃ c next answer, l.node = .ask c next ∧ task = (next answer).resume connectionRound ∧
      Moves (upload.setup.machine upload.setup.node) gone ⟨l.nodeWorld, l.toNode, l.toInitiator⟩
        ⟨c, answer⟩ p ∧
      (stage.after ⟨c, answer⟩ ≠ .fresh ↔ stage ≠ .fresh ∨ received? ⟨c, answer⟩ = some upload.offer) ∧
      upload.Sound ⟨l.initiator, task, l.initiatorWorld, p.world, p.inbox, p.outbox⟩ progress
        (stage.after ⟨c, answer⟩) := by
  obtain ⟨initiator, node, initiatorWorld, nodeWorld, toNode, toInitiator⟩ := l
  cases step with
  | pong arrives pinged => exact sound.node.1.elim
  | skip arrives skipped => exact sound.node.1.elim
  | @answer c next answer _ _ carried =>
      have moves := carried.moves (by
        rintro channel rfl
        exact sound.node.1)
      have admits := sound.admits moves.taken (fun frame same => absurd same (moves.inbound frame))
        moves.sendable
      refine ⟨c, next, answer, rfl, rfl, moves, sound.after_ne_fresh rfl moves.taken admits, ?_⟩
      rw [moves.sent]
      exact sound.node_after rfl moves.works moves.taken admits

theorem Sound.outbound {next : Selected → Task} {frame : DataFrame}
    (waits : l.node = .ask .select next) (queued : frame.channel = DataFrame.channelClipboard) :
    upload.Sound { l with node := (next (.outbound frame)).resume connectionRound } progress stage := by
  have nothing : received? ⟨.select, .outbound frame⟩ = none := rfl
  have taken : l.toNode = (received? ⟨.select, .outbound frame⟩).toList ++ l.toNode := by
    rw [nothing, Option.toList_none, List.nil_append]
  have admits : upload.Admits stage ⟨.select, .outbound frame⟩ := by
    apply sound.admits taken
    · rintro _ ⟨⟩
      exact queued
    · nofun
  have after := sound.node_after waits rfl taken admits
  rwa [show (sent? ⟨.select, .outbound frame⟩).toList = [] from rfl, List.append_nil] at after

theorem Sound.elsewhere (others : upload.Elsewhere l.nodeWorld world) :
    upload.Sound { l with nodeWorld := world } progress stage where
  sender := sound.sender
  node := by
    refine sound.node.transfer ?_ ?_ ?_
    · intro c may
      cases c with
      | session c =>
          cases c with
          | send frame =>
              exact ⟨fun fits completing => (may.1 fits completing).imp_right others.done, may.2⟩
          | _ => exact may
      | receiveChunk receiver chunk => exact may.imp_right others.opened
      | finalizeFile receiver => exact may.imp_right others.opened
      | _ => exact may
    · rintro event s ⟨admits, after, between, others', works⟩
      exact ⟨admits, after, between, others.trans others', works⟩
    · rintro (⟨self, phase⟩ | _) fits
      · exact others.fits fits
      · trivial
  toNode := sound.toNode
  balance := sound.balance
  completed := sound.completed
  confirmed := sound.confirmed
  closed := fun closed => others.done (sound.closed closed)

end Node

variable (upload) in
/-- The node has taken the offer off the stream. -/
def OfferTaken (history : List Happening) : Prop :=
  ∃ taken sent, .node taken sent ∈ history ∧ upload.offer ∈ taken

omit [Crypto] in
theorem offerTaken_append {history : List Happening} {what : Happening} :
    upload.OfferTaken (history ++ [what]) ↔ upload.OfferTaken history ∨ upload.OfferTaken [what] := by
  simp only [OfferTaken, List.mem_append, or_and_right, exists_or]

omit [Crypto] in
theorem offerTaken_node {taken sent : List Frame} :
    upload.OfferTaken [.node taken sent] ↔ upload.offer ∈ taken := by
  simp [OfferTaken]

theorem exists_sound {history : List Happening} (run : upload.Run history l) :
    ∃ progress stage, upload.Sound l progress stage ∧ (upload.OfferTaken history ↔ stage ≠ .fresh) := by
  induction run with
  | start => exact ⟨_, _, sound_start, by simp [OfferTaken]⟩
  | step before step ih =>
      obtain ⟨progress, stage, sound, took⟩ := ih
      cases step with
      | sender step =>
          obtain ⟨c, next, answer, -, -, -, -, sound'⟩ := sound.sender_moves step
          refine ⟨_, _, sound', ?_⟩
          rw [offerTaken_append, took]
          simp [OfferTaken]
      | node step takes sends =>
          obtain ⟨c, next, answer, -, -, moves, left, sound'⟩ := sound.node_moves step
          refine ⟨_, _, sound', ?_⟩
          rw [left, offerTaken_append, took, offerTaken_node,
            List.append_cancel_right (takes.symm.trans moves.taken), Option.mem_toList]
      | outbound waits queued =>
          refine ⟨_, _, sound.outbound waits queued, ?_⟩
          rw [offerTaken_append, took]
          simp [OfferTaken]
      | elsewhere others =>
          refine ⟨_, _, sound.elsewhere others, ?_⟩
          rw [offerTaken_append, took]
          simp [OfferTaken]

end Upload

end BridgeOS.Node
