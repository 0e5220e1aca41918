import SeedOrigin.ClientShell
import SeedOrigin.Runs

/-! Whether the client is logged in, over every order of calls: the five fields of the
shell that decide it, what each call does to them, and a record, kept beside the shell,
of what the present connection has said. -/
namespace SeedOrigin.ClientLogin
open SeedOrigin.Octets SeedOrigin.CommandWire SeedOrigin.ClientConnection SeedOrigin.ResponseWire
open SeedOrigin.Prediction SeedOrigin.Runs SeedOrigin.ClientShell
open SeedOrigin.ClientInbound (InboundFrame InboundFrameKind)

structure Core where
  clientSocket : Int
  link : TransportLinkState
  auth : TransportAuthState
  localSessionId : Int
  disconnectQueued : Bool
  deriving DecidableEq

namespace Core

def fail (core : Core) : Core :=
  { core with
    clientSocket := if core.clientSocket ≥ 0 then -1 else core.clientSocket
    link := .failed
    auth := .anonymous
    disconnectQueued := false }

def close (core : Core) : Core :=
  let link := if core.link = .failed then .failed else .disconnected
  if core.clientSocket < 0 then { core with link := link }
  else { core with clientSocket := -1, link := link, auth := .anonymous }

def restart (core : Core) : Core :=
  { core.close with auth := .anonymous, localSessionId := 0, disconnectQueued := false }

end Core

inductive Reply where
  | loggedIn (sessionId : Int)
  | loggedOut (sessionId : Int)
  | kept | unusable | world
  deriving DecidableEq

def reply (frame : InboundFrame) : Reply :=
  match frame.kind with
  | .loginResponse => match decodeLoginResponseFrame frame.bytes with
    | .error _ => .unusable
    | .ok response => if response.accepted then .loggedIn response.sessionId else .unusable
  | .disconnectResponse => match decodeDisconnectResponseFrame frame.bytes with
    | .error _ => .unusable
    | .ok response => if response.accepted then .loggedOut response.sessionId else .kept
  | .worldUpdate => .world

def Core.hear (core : Core) : List Reply → Core
  | [] => core
  | .loggedIn sessionId :: replies =>
    { core with localSessionId := sessionId, auth := .loggedIn }.hear replies
  | .loggedOut sessionId :: replies =>
    if core.disconnectQueued ∧ sessionId = core.localSessionId then core.restart.hear replies
    else core.hear replies
  | .kept :: replies => { core with disconnectQueued := false }.hear replies
  | .unusable :: _ => core.fail
  | .world :: replies => core.hear replies

def Worn (before after : Core) : Prop :=
  after = before ∨ after = before.fail ∨ after = before.close

section
variable {F : Type}

def coreOf (shell : ClientTransportShell F) : Core :=
  ⟨shell.clientSocket, shell.link, shell.auth, shell.localSessionId, shell.disconnectQueued⟩

theorem failCore (shell : ClientTransportShell F) (reason : TransportErrorReason) (context : Bytes) :
    coreOf (shell.markFailed reason context) = (coreOf shell).fail := rfl

theorem closeCore (shell : ClientTransportShell F) : coreOf shell.close = (coreOf shell).close := by
  unfold ClientTransportShell.close Core.close coreOf
  dsimp only
  split <;> rfl

theorem restartCore (shell : ClientTransportShell F) :
    coreOf shell.beginReconnect = (coreOf shell).restart := by
  have closed := closeCore shell
  unfold Core.restart
  rw [← closed]
  rfl

theorem loginWaitCore (shell : ClientTransportShell F) :
    coreOf shell.armLoginResponseWaitIfNeeded = coreOf shell := by
  unfold ClientTransportShell.armLoginResponseWaitIfNeeded
  split <;> rfl

theorem snapshotWaitCore (shell : ClientTransportShell F) :
    coreOf shell.armSnapshotWaitIfNeeded = coreOf shell := by
  unfold ClientTransportShell.armSnapshotWaitIfNeeded
  split <;> rfl

theorem reconnectedCore (shell : ClientTransportShell F) :
    coreOf shell.noteReconnectCompletedIfReady = coreOf shell := by
  unfold ClientTransportShell.noteReconnectCompletedIfReady
  split <;> rfl

theorem deadlinesCore {shell after : ClientTransportShell F} {result : Except Bytes Unit}
    (checked : shell.checkDeadlines = (after, result)) :
    (result = .ok () ∧ coreOf after = coreOf shell) ∨
      (result ≠ .ok () ∧ coreOf after = (coreOf shell).fail) := by
  unfold ClientTransportShell.checkDeadlines at checked
  dsimp only at checked
  split at checked
  · obtain ⟨rfl, rfl⟩ := Prod.mk.inj checked
    exact .inr ⟨nofun, failCore _ _ _⟩
  · split at checked
    · obtain ⟨rfl, rfl⟩ := Prod.mk.inj checked
      exact .inr ⟨nofun, failCore _ _ _⟩
    · obtain ⟨rfl, rfl⟩ := Prod.mk.inj checked
      exact .inl ⟨rfl, rfl⟩

theorem enqueuedCore (shell : ClientTransportShell F) (command : NetworkCommand) :
    coreOf (shell.enqueueCommand command).1 = coreOf shell := by
  unfold ClientTransportShell.enqueueCommand
  split
  · rfl
  · split
    · rfl
    · split <;> rfl

theorem flushedCore {shell after : ClientTransportShell F} {send : Bytes → SendResult}
    {status : SendStatus} {error : Option Bytes}
    (flushed : shell.flushOutbound send = (after, status, error)) :
    Worn (coreOf shell) (coreOf after) ∧ (status = .sent → coreOf after = coreOf shell) := by
  unfold ClientTransportShell.flushOutbound at flushed
  split at flushed
  · obtain ⟨rfl, rest⟩ := Prod.mk.inj flushed
    exact ⟨.inl rfl, fun _ => rfl⟩
  · split at flushed
    · obtain ⟨rfl, rest⟩ := Prod.mk.inj flushed
      exact ⟨.inl rfl, fun _ => rfl⟩
    · split at flushed
      · obtain ⟨rfl, rest⟩ := Prod.mk.inj flushed
        exact ⟨.inl rfl, fun _ => rfl⟩
      · obtain ⟨rfl, rest⟩ := Prod.mk.inj flushed
        cases rest
        exact ⟨.inr (.inr (closeCore _)), nofun⟩
      · obtain ⟨rfl, rest⟩ := Prod.mk.inj flushed
        cases rest
        exact ⟨.inr (.inl (failCore _ _ _)), nofun⟩
      · obtain ⟨rfl, rest⟩ := Prod.mk.inj flushed
        exact ⟨.inl rfl, fun _ => rfl⟩
      · split at flushed
        · obtain ⟨rfl, rest⟩ := Prod.mk.inj flushed
          cases rest
          exact ⟨.inr (.inl (failCore _ _ _)), nofun⟩
        · obtain ⟨rfl, rest⟩ := Prod.mk.inj flushed
          exact ⟨.inl rfl, fun _ => rfl⟩

theorem flushedAllCore (send : Nat → Bytes → SendResult) (fuel call : Nat)
    (shell : ClientTransportShell F) :
    Worn (coreOf shell) (coreOf (shell.flushAll send fuel call).1) := by
  induction fuel generalizing call shell with
  | zero => exact .inl rfl
  | succ fuel ih =>
    unfold ClientTransportShell.flushAll
    split
    · exact .inl rfl
    · split
      · rename_i flushed
        exact (flushedCore flushed).1
      · rename_i after _ flushed
        have same := (flushedCore flushed).2 rfl
        rw [← same]
        exact ih (call + 1) after
      · rename_i flushed
        exact (flushedCore flushed).1

theorem takenCore (shell : ClientTransportShell F) (fd : Int) (nonBlocking : Bool) :
    ((shell.takeSocket fd nonBlocking).2 = .ok () ∧ coreOf (shell.takeSocket fd nonBlocking).1 =
      { coreOf shell with clientSocket := fd, link := .connected }) ∨
    ((shell.takeSocket fd nonBlocking).2 ≠ .ok () ∧ coreOf (shell.takeSocket fd nonBlocking).1 =
      { coreOf shell with clientSocket := fd }.fail) := by
  unfold ClientTransportShell.takeSocket
  dsimp only
  split
  · exact .inr ⟨nofun, failCore _ _ _⟩
  · exact .inl ⟨rfl, loginWaitCore _⟩

theorem appliedCore (shell : ClientTransportShell F) (response : Runtime.DisconnectResponse) :
    coreOf (shell.applyDisconnectResponse response) =
      if response.accepted = false then { coreOf shell with disconnectQueued := false }
      else if shell.disconnectQueued ∧ response.sessionId = shell.localSessionId then
        (coreOf shell).restart
      else coreOf shell := by
  unfold ClientTransportShell.applyDisconnectResponse
  cases queued : shell.disconnectQueued with
  | false =>
    cases response.accepted with
    | false => simp only [coreOf, queued, if_true]
    | true => simp only [Bool.true_eq_false, Bool.false_eq_true, false_and, if_false, if_true]
  | true =>
    cases response.accepted with
    | false => rfl
    | true =>
      by_cases same : response.sessionId = shell.localSessionId
      · simp only [same, Bool.true_eq_false, ne_eq, not_true_eq_false, and_self, if_false, if_true]
        exact restartCore shell
      · simp only [same, Bool.true_eq_false, ne_eq, not_false_eq_true, and_false, if_false, if_true]

theorem settledCore (shell : ClientTransportShell F) : coreOf shell.settleWorld = coreOf shell := by
  unfold ClientTransportShell.settleWorld
  split
  · rfl
  · exact reconnectedCore _

theorem handledCore (frames : List InboundFrame) (worldBytes : Bytes) (disconnectAccepted : Bool)
    (shell : ClientTransportShell F) :
    coreOf (shell.handleEach frames worldBytes disconnectAccepted).1 =
      (coreOf shell).hear (frames.map reply) := by
  induction frames generalizing shell worldBytes disconnectAccepted with
  | nil => rfl
  | cons frame frames ih =>
    rw [List.map_cons]
    generalize frames.map reply = replies at ih ⊢
    unfold ClientTransportShell.handleEach reply
    cases frame.kind with
    | loginResponse =>
      dsimp only
      unfold ClientTransportShell.handleLoginResponseFrame
      cases decodeLoginResponseFrame frame.bytes with
      | error e => exact failCore _ _ _
      | ok response =>
        cases accepted : response.accepted with
        | false => simp only [accepted, if_true, Bool.false_eq_true, if_false]; exact failCore _ _ _
        | true =>
          simp only [accepted, Bool.true_eq_false, if_false, if_true, Core.hear]
          rw [ih, snapshotWaitCore]
          rfl
    | disconnectResponse =>
      dsimp only
      unfold ClientTransportShell.handleDisconnectResponseFrame
      cases decodeDisconnectResponseFrame frame.bytes with
      | error e => exact failCore _ _ _
      | ok response =>
        dsimp only
        rw [ih, appliedCore]
        cases response.accepted with
        | false => rfl
        | true =>
          simp only [Bool.true_eq_false, if_false, if_true, Core.hear]
          split <;> rename_i ends
          · exact (if_pos ends).symm
          · exact (if_neg ends).symm
    | worldUpdate => exact ih _ _ shell

theorem lateCore {shell after : ClientTransportShell F} {result : Except Bytes Unit}
    (checked : shell.checkDeadlines = (after, result)) : Worn (coreOf shell) (coreOf after) :=
  (deadlinesCore checked).elim (fun same => .inl same.2) (fun failed => .inr (.inl failed.2))

theorem timelyCore {shell after : ClientTransportShell F}
    (checked : shell.checkDeadlines = (after, .ok ())) : coreOf after = coreOf shell :=
  ((deadlinesCore checked).resolve_right (fun failed => failed.1 rfl)).2

theorem readCore {shell after : ClientTransportShell F} {received : RecvResult}
    {result : Except Bytes (List InboundFrame)} (read : shell.pumpRead received = (after, result)) :
    Worn (coreOf shell) (coreOf after) ∧
      ∀ frames, result = .ok frames → coreOf after = coreOf shell ∧ 0 ≤ shell.clientSocket := by
  unfold ClientTransportShell.pumpRead at read
  split at read
  · obtain ⟨rfl, rfl⟩ := Prod.mk.inj read
    exact ⟨.inl rfl, nofun⟩
  · split at read
    · obtain ⟨rfl, rfl⟩ := Prod.mk.inj read
      exact ⟨.inl rfl, nofun⟩
    · rename_i shut
      have usable : 0 ≤ shell.clientSocket := by simpa [ClientTransportShell.isOpen] using shut
      split at read
      · rename_i checked
        obtain ⟨rfl, rfl⟩ := Prod.mk.inj read
        exact ⟨lateCore checked, nofun⟩
      · rename_i due _ checked
        have same := timelyCore checked
        rw [← same]
        split at read
        · obtain ⟨rfl, rfl⟩ := Prod.mk.inj read
          exact ⟨.inr (.inr (closeCore _)), nofun⟩
        · obtain ⟨rfl, rfl⟩ := Prod.mk.inj read
          exact ⟨.inr (.inr (closeCore _)), nofun⟩
        · obtain ⟨rfl, rfl⟩ := Prod.mk.inj read
          exact ⟨.inr (.inl (failCore _ _ _)), nofun⟩
        · obtain ⟨rfl, rfl⟩ := Prod.mk.inj read
          exact ⟨.inl rfl, fun _ _ => ⟨rfl, usable⟩⟩
        · split at read
          · obtain ⟨rfl, rfl⟩ := Prod.mk.inj read
            exact ⟨.inr (.inl (failCore _ _ _)), nofun⟩
          · obtain ⟨rfl, rfl⟩ := Prod.mk.inj read
            exact ⟨.inl rfl, fun _ _ => ⟨rfl, usable⟩⟩

theorem requestedCore (shell : ClientTransportShell F) :
    coreOf shell.enqueueRequestSnapshotIfNeeded.1 = coreOf shell := by
  unfold ClientTransportShell.enqueueRequestSnapshotIfNeeded
  split
  · rfl
  · split
    · rfl
    · rename_i command made
      have queued := enqueuedCore shell command
      split <;> rename_i outcome <;> rw [outcome] at queued
      · exact queued
      · exact (snapshotWaitCore _).trans queued

theorem sentCore (shell : ClientTransportShell F) (send : Nat → Bytes → SendResult) :
    Worn (coreOf shell) (coreOf (shell.pumpSend send).1) := by
  unfold ClientTransportShell.pumpSend
  split
  · rename_i checked
    exact lateCore checked
  · rename_i due _ checked
    rw [← timelyCore checked, ← requestedCore due]
    split
    · rename_i asked
      rw [asked]
      exact .inl rfl
    · rename_i ready _ asked
      rw [asked]
      have flushed := flushedAllCore send
        (ready.outboundFrames.length + ready.outboundFrames.flatten.length + 1) 0 ready
      dsimp only
      split <;> rename_i sent <;> rw [sent] at flushed
      · exact flushed
      · rw [reconnectedCore]
        exact flushed

variable [PredictionOps F]

theorem receivedCore {shell after : ClientTransportShell F} {worldBytes : Bytes}
    {result : Except Bytes Unit} (received : shell.receiveWorld worldBytes = (after, result)) :
    (result = .ok () ∧ coreOf after = coreOf shell) ∨
      (result ≠ .ok () ∧ coreOf after = (coreOf shell).fail) := by
  unfold ClientTransportShell.receiveWorld at received
  dsimp only at received
  split at received
  · split at received
    · obtain ⟨rfl, rfl⟩ := Prod.mk.inj received
      exact .inr ⟨nofun, failCore _ _ _⟩
    · obtain ⟨rfl, rfl⟩ := Prod.mk.inj received
      exact .inl ⟨rfl, settledCore _⟩
  · obtain ⟨rfl, rfl⟩ := Prod.mk.inj received
    exact .inl ⟨rfl, settledCore _⟩

theorem inboundCore {shell after : ClientTransportShell F} {frames : List InboundFrame}
    {result : Except Bytes Unit} (handled : shell.handleInboundFrames frames = (after, result)) :
    coreOf after = (coreOf shell).hear (frames.map reply) ∨
      coreOf after = ((coreOf shell).hear (frames.map reply)).fail := by
  rw [← handledCore frames [] false shell]
  unfold ClientTransportShell.handleInboundFrames at handled
  split at handled
  · rename_i each
    obtain ⟨rfl, -⟩ := Prod.mk.inj handled
    rw [each]
    exact .inl rfl
  · rename_i each
    rw [each]
    split at handled
    · obtain ⟨rfl, -⟩ := Prod.mk.inj handled
      exact .inl rfl
    · exact (receivedCore handled).imp And.right And.right

end

structure Login where
  sessionId : Int
  unanswered : Nat := 0
  ended : Bool := false
  deriving DecidableEq

def unansweredOf : Option Login → Nat
  | none => 0
  | some login => login.unanswered

def heard : Option Login → Reply → Option Login
  | _, .loggedIn sessionId => some { sessionId := sessionId }
  | some login, .loggedOut sessionId =>
    if sessionId = login.sessionId then
      some { login with
        unanswered := login.unanswered - 1
        ended := login.ended || 0 < login.unanswered }
    else some login
  | some login, .kept => some { login with unanswered := login.unanswered - 1 }
  | login, _ => login

def quiet : List Reply → Bool
  | [] => true
  | .unusable :: _ => true
  | .loggedIn _ :: _ => false
  | _ :: replies => quiet replies

def sensible (queued : Bool) (sessionId : Int) (login : Option Login) : List Reply → Bool
  | [] => true
  | .unusable :: _ => true
  | .world :: replies => sensible queued sessionId login replies
  | .loggedIn other :: replies => sensible queued other (heard login (.loggedIn other)) replies
  | .kept :: replies =>
    unansweredOf login ≤ 1 && sensible false sessionId (heard login .kept) replies
  | .loggedOut other :: replies =>
    if queued ∧ other = sessionId then quiet replies
    else sensible queued sessionId (heard login (.loggedOut other)) replies

structure Sound (login : Option Login) (core : Core) : Prop where
  failed : core.link = .failed → core.clientSocket < 0
  opened : 0 ≤ core.clientSocket → core.link = .connected
  closed : core.clientSocket < 0 → core.auth = .anonymous
  known : core.auth = .loggedIn → ∃ last, login = some last ∧ last.ended = false ∧
    last.sessionId = core.localSessionId ∧ (0 < last.unanswered → core.disconnectQueued = true)

theorem shutSound {core : Core} (shut : core.clientSocket < 0) (anonymous : core.auth = .anonymous)
    (login : Option Login) : Sound login core where
  failed _ := shut
  opened usable := absurd shut (by omega)
  closed _ := anonymous
  known loggedIn := by simp [anonymous] at loggedIn

theorem failShut (core : Core) : core.fail.clientSocket < 0 ∧ core.fail.auth = .anonymous := by
  refine ⟨?_, rfl⟩
  unfold Core.fail
  dsimp only
  split <;> omega

theorem closeShut {login : Option Login} {core : Core} (sound : Sound login core) :
    core.close.clientSocket < 0 ∧ core.close.auth = .anonymous := by
  unfold Core.close
  dsimp only
  split
  · rename_i shut
    exact ⟨shut, sound.closed shut⟩
  · exact ⟨(by decide : (-1 : Int) < 0), rfl⟩

theorem restartShut {login : Option Login} {core : Core} (sound : Sound login core) :
    core.restart.clientSocket < 0 ∧ core.restart.auth = .anonymous :=
  ⟨(closeShut sound).1, rfl⟩

theorem wornSound {login : Option Login} {before after : Core} (sound : Sound login before)
    (worn : Worn before after) : Sound login after := by
  obtain rfl | rfl | rfl := worn
  · exact sound
  · exact shutSound (failShut before).1 (failShut before).2 login
  · exact shutSound (closeShut sound).1 (closeShut sound).2 login

theorem quietShut {replies : List Reply} (silent : quiet replies = true) {core : Core}
    (shut : core.clientSocket < 0) (anonymous : core.auth = .anonymous) :
    (core.hear replies).clientSocket < 0 ∧ (core.hear replies).auth = .anonymous := by
  induction replies generalizing core with
  | nil => exact ⟨shut, anonymous⟩
  | cons reply replies ih =>
    cases reply with
    | loggedIn sessionId => simp [quiet] at silent
    | loggedOut sessionId =>
      have sound := shutSound shut anonymous none
      rw [Core.hear]
      split
      · exact ih silent (restartShut sound).1 (restartShut sound).2
      · exact ih silent shut anonymous
    | kept => exact ih silent shut anonymous
    | unusable => exact failShut core
    | world => exact ih silent shut anonymous

theorem hearSound {replies : List Reply} {login : Option Login} {core : Core}
    (sound : Sound login core) (usable : 0 ≤ core.clientSocket)
    (good : sensible core.disconnectQueued core.localSessionId login replies = true) :
    Sound (replies.foldl heard login) (core.hear replies) := by
  induction replies generalizing login core with
  | nil => exact sound
  | cons reply replies ih =>
    rw [List.foldl_cons]
    cases reply with
    | loggedIn sessionId =>
      refine ih ⟨sound.failed, sound.opened, fun shut => absurd usable (Int.not_le.mpr shut),
        fun _ => ?_⟩ usable good
      exact ⟨_, rfl, rfl, rfl, fun asked => absurd asked (Nat.lt_irrefl 0)⟩
    | loggedOut sessionId =>
      rw [sensible] at good
      rw [Core.hear]
      split <;> rename_i ends
      · rw [if_pos ends] at good
        have shut := quietShut good (restartShut sound).1 (restartShut sound).2
        exact shutSound shut.1 shut.2 _
      · rw [if_neg ends] at good
        refine ih ⟨sound.failed, sound.opened, sound.closed, fun loggedIn => ?_⟩ usable good
        obtain ⟨last, rfl, lasts, session, asked⟩ := sound.known loggedIn
        unfold heard
        dsimp only
        split
        · rename_i same
          -- nothing was asked for, since the answer would have closed the socket
          have none : last.unanswered = 0 := by
            by_contra some
            exact ends ⟨asked (by omega), same.trans session⟩
          refine ⟨_, rfl, ?_, session, fun more => ?_⟩
          · simp [lasts, none]
          · exact asked (by simp only at more; omega)
        · exact ⟨last, rfl, lasts, session, asked⟩
    | kept =>
      rw [sensible, Bool.and_eq_true, decide_eq_true_eq] at good
      refine ih ⟨sound.failed, sound.opened, sound.closed, fun loggedIn => ?_⟩ usable good.2
      obtain ⟨last, rfl, lasts, session, asked⟩ := sound.known loggedIn
      refine ⟨_, rfl, lasts, session, fun more => ?_⟩
      have few := good.1
      simp only [unansweredOf] at few more
      omega
    | unusable =>
      have shut := failShut core
      exact shutSound shut.1 shut.2 _
    | world => exact ih sound usable good

section
variable {F : Type}

def Attempted (login : Option Login) (made : ClientTransportShell.Called F) : Prop :=
  (made.2 = .ok () ∧ made.1.auth = .anonymous ∧ Sound none (coreOf made.1)) ∨
    (made.2 ≠ .ok () ∧ Sound login (coreOf made.1))

variable {login : Option Login} {shell : ClientTransportShell F}

theorem takenAttempt (sound : Sound login (coreOf shell)) (shut : shell.clientSocket < 0) {fd : Int}
    (usable : 0 ≤ fd) (nonBlocking : Bool) : Attempted login (shell.takeSocket fd nonBlocking) := by
  have anonymous : shell.auth = .anonymous := sound.closed shut
  obtain ⟨done, core⟩ | ⟨refused, core⟩ := takenCore shell fd nonBlocking
  · have stays : (shell.takeSocket fd nonBlocking).1.auth = .anonymous :=
      (congrArg Core.auth core).trans anonymous
    refine .inl ⟨done, stays, ?_⟩
    rw [core]
    exact ⟨nofun, fun _ => rfl, fun shut => absurd usable (Int.not_le.mpr shut),
      fun loggedIn => nomatch anonymous.symm.trans loggedIn⟩
  · refine .inr ⟨refused, ?_⟩
    rw [core]
    exact shutSound (failShut _).1 (failShut _).2 login

theorem failedAttempt (sound : Sound login (coreOf shell)) (shut : shell.clientSocket < 0)
    (error : String) : Attempted login (shell.connectFailed error) := by
  refine .inr ⟨nofun, shutSound ?_ ?_ login⟩
  · exact shut
  · exact sound.closed shut

theorem lateAttempt (login : Option Login) (shell : ClientTransportShell F)
    (reason : TransportErrorReason) (context : Bytes) :
    Attempted login (shell.failWith reason context) := by
  have core : coreOf (shell.failWith reason context).1 = (coreOf shell).fail := rfl
  refine .inr ⟨nofun, ?_⟩
  rw [core]
  exact shutSound (failShut _).1 (failShut _).2 login

theorem refusedAttempt (sound : Sound login (coreOf shell)) (error : Bytes) :
    Attempted login (shell, .error error) :=
  .inr ⟨nofun, sound⟩

theorem attachAttempt (sound : Sound login (coreOf shell)) (socketFd : Int) (nonBlocking : Bool) :
    Attempted login (shell.attachConnectedSocket socketFd nonBlocking) := by
  unfold ClientTransportShell.attachConnectedSocket
  split
  · exact refusedAttempt sound _
  · rename_i shut
    split
    · exact refusedAttempt sound _
    · rename_i usable
      exact takenAttempt sound (Int.not_le.mp shut) (Int.not_lt.mp usable) nonBlocking

theorem pollAttempt (sound : Sound login (coreOf shell)) (shut : shell.clientSocket < 0)
    (clock : MonotonicClockPort) {answers : ClientTransportShell.ConnectAnswers}
    (usable : 0 ≤ answers.socket) : Attempted login (shell.pollConnection clock answers) := by
  unfold ClientTransportShell.pollConnection
  dsimp only
  split
  · exact lateAttempt login _ _ _
  · split
    · exact failedAttempt (by exact sound) shut _
    · exact failedAttempt (by exact sound) shut _
    · exact failedAttempt (by exact sound) shut _
    · refine takenAttempt ?_ ?_ usable _
      · exact sound
      · exact shut

theorem connectAttempt (sound : Sound login (coreOf shell)) (host : Option Bytes) (port : UInt16)
    (answers : ClientTransportShell.ConnectAnswers) :
    Attempted login (shell.connectTcp host port answers) := by
  unfold ClientTransportShell.connectTcp
  split
  · exact refusedAttempt sound _
  · rename_i shut
    replace shut := Int.not_le.mp shut
    split
    · exact refusedAttempt sound _
    · split
      · exact failedAttempt sound shut _
      · rename_i usable
        replace usable := Int.not_lt.mp usable
        split
        · exact failedAttempt sound shut _
        · split
          · split
            · split
              · exact failedAttempt sound shut _
              · split
                · exact takenAttempt sound shut usable _
                · exact failedAttempt sound shut _
                · exact pollAttempt sound shut _ usable
            · split
              · exact takenAttempt sound shut usable _
              · exact failedAttempt sound shut _
          · split
            · exact takenAttempt sound shut usable _
            · exact failedAttempt sound shut _

end

-- The shell, and what its connection has said; `mixed` while the demultiplexer
-- begins with bytes that came over an earlier socket.
structure Watch (F : Type) where
  shell : ClientTransportShell F
  login : Option Login := none
  mixed : Bool := false

inductive ShellEvent where
  | setClock (clock : Option MonotonicClockPort)
  | setTimeouts (timeouts : TransportTimeouts)
  | connectTcp (host : Option Bytes) (port : UInt16) (answers : ClientTransportShell.ConnectAnswers)
  | attachConnectedSocket (socketFd : Int) (nonBlocking : Bool)
  | beginReconnect
  | enqueueLogin (claimedId : Bytes)
  | enqueueDisconnect
  | pump (received : RecvResult) (send : Nat → Bytes → SendResult)
  | close

section
variable {F : Type}

def Watch.connected (w : Watch F) (made : ClientTransportShell.Called F) : Watch F :=
  match made.2 with
  | .error _ => { w with shell := made.1 }
  | .ok _ => { shell := made.1, mixed := made.1.inbound.buffered ≠ [] }

def Watch.repliesTo (w : Watch F) (received : RecvResult) : List Reply :=
  match (w.shell.pumpRead received).2 with
  | .error _ => []
  | .ok frames => frames.map reply

def Watch.listen (w : Watch F) : List Reply → Watch F
  | [] => w
  | first :: replies =>
    { w with
      login := (if w.mixed then replies else first :: replies).foldl heard w.login
      mixed := false }

def asked : Option Login → Option Login
  | none => none
  | some login => some { login with unanswered := login.unanswered + 1 }

variable [PredictionOps F]

def watchStep (w : Watch F) : ShellEvent → Watch F
  | .setClock clock => { w with shell := { w.shell with clock := clock } }
  | .setTimeouts timeouts => { w with shell := { w.shell with timeouts := timeouts } }
  | .connectTcp host port answers => w.connected (w.shell.connectTcp host port answers)
  | .attachConnectedSocket socketFd nonBlocking =>
    w.connected (w.shell.attachConnectedSocket socketFd nonBlocking)
  | .beginReconnect => { w with shell := w.shell.beginReconnect }
  | .enqueueLogin claimedId => { w with shell := (w.shell.enqueueLogin claimedId).1 }
  | .enqueueDisconnect => match w.shell.enqueueDisconnect with
    | (shell, .error _) => { w with shell := shell }
    | (shell, .ok _) => { w with shell := shell, login := asked w.login }
  | .pump received send =>
    { w.listen (w.repliesTo received) with shell := (w.shell.pump received send).1 }
  | .close => { w with shell := w.shell.close }

def Truthful (w : Watch F) : Prop :=
  (w.shell.auth = .loggedIn → 0 ≤ w.shell.clientSocket ∧ w.shell.link = .connected ∧
    ∃ last, w.login = some last ∧ last.ended = false) ∧
  (w.shell.link = .failed → w.shell.clientSocket < 0 ∧ w.shell.auth = .anonymous)

def Heeded (w : Watch F) : ShellEvent → Prop
  | .pump received _ =>
    let replies := w.repliesTo received
    (w.mixed = true → ∀ sessionId, replies.head? ≠ some (.loggedIn sessionId)) ∧
      sensible w.shell.disconnectQueued w.shell.localSessionId w.login replies = true
  | _ => True

structure Kept (w : Watch F) : Prop where
  sound : Sound w.login (coreOf w.shell)
  fresh : w.mixed = true → w.login = none

omit [PredictionOps F] in
theorem connectedKept {w : Watch F} (kept : Kept w) {made : ClientTransportShell.Called F}
    (attempt : Attempted w.login made) : Kept (w.connected made) := by
  unfold Watch.connected
  obtain ⟨done, -, sound⟩ | ⟨refused, sound⟩ := attempt
  · rw [done]
    exact ⟨sound, fun _ => rfl⟩
  · split
    · exact ⟨sound, kept.fresh⟩
    · rename_i done
      exact absurd done refused

omit [PredictionOps F] in
theorem disconnectKept {w : Watch F} (kept : Kept w) {after : ClientTransportShell F}
    {result : Except Bytes Unit} (asked_ : w.shell.enqueueDisconnect = (after, result)) :
    (result ≠ .ok () ∧ Sound w.login (coreOf after)) ∨
      (result = .ok () ∧ Sound (asked w.login) (coreOf after)) := by
  unfold ClientTransportShell.enqueueDisconnect at asked_
  split at asked_
  · obtain ⟨rfl, rfl⟩ := Prod.mk.inj asked_
    exact .inl ⟨nofun, kept.sound⟩
  · have queued := enqueuedCore w.shell
      ⟨CommandWire.currentProtocolVersion, .disconnect, Int64.ofInt w.shell.localSessionId, []⟩
    split at asked_ <;> rename_i outcome <;> rw [outcome] at queued
    · obtain ⟨rfl, rfl⟩ := Prod.mk.inj asked_
      refine .inl ⟨nofun, ?_⟩
      dsimp only at queued
      rw [queued]
      exact kept.sound
    · obtain ⟨rfl, rfl⟩ := Prod.mk.inj asked_
      rename_i shell _
      have core : coreOf { shell with disconnectQueued := true } =
          { coreOf w.shell with disconnectQueued := true } := by
        rw [← queued]
        rfl
      obtain ⟨failed, opened, closed, known⟩ := kept.sound
      refine .inr ⟨rfl, ?_⟩
      rw [core]
      refine ⟨failed, opened, closed, fun loggedIn => ?_⟩
      obtain ⟨last, same, lasts, session, -⟩ := known loggedIn
      rw [same]
      exact ⟨_, rfl, lasts, session, fun _ => rfl⟩

omit [PredictionOps F] in
theorem listenFolds {w : Watch F} (kept : Kept w) {replies : List Reply}
    (own : w.mixed = true → ∀ sessionId, replies.head? ≠ some (.loggedIn sessionId)) :
    (w.listen replies).login = replies.foldl heard w.login ∧
      ((w.listen replies).mixed = true → (w.listen replies).login = none) := by
  cases replies with
  | nil => exact ⟨rfl, kept.fresh⟩
  | cons first replies =>
    refine ⟨?_, nofun⟩
    unfold Watch.listen
    dsimp only
    split
    · rename_i mixed
      rw [List.foldl_cons, kept.fresh mixed]
      cases first with
      | loggedIn sessionId => exact absurd rfl (own mixed sessionId)
      | loggedOut sessionId => rfl
      | kept => rfl
      | unusable => rfl
      | world => rfl
    · rfl

theorem pumpSound {w : Watch F} (kept : Kept w) (received : RecvResult)
    (send : Nat → Bytes → SendResult)
    (good : sensible w.shell.disconnectQueued w.shell.localSessionId w.login
      (w.repliesTo received) = true) :
    Sound ((w.repliesTo received).foldl heard w.login) (coreOf (w.shell.pump received send).1) := by
  unfold ClientTransportShell.pump
  unfold Watch.repliesTo at good ⊢
  cases read : w.shell.pumpRead received with
  | mk after result =>
    obtain ⟨worn, taken⟩ := readCore read
    rw [read] at good
    cases result with
    | error e => exact wornSound kept.sound worn
    | ok frames =>
      obtain ⟨same, usable⟩ := taken frames rfl
      have heardSound := hearSound kept.sound usable good
      rw [← same] at heardSound
      dsimp only
      cases handled : after.handleInboundFrames frames with
      | mk last result =>
        have sound : Sound ((frames.map reply).foldl heard w.login) (coreOf last) := by
          obtain core | core := inboundCore handled
          · rw [core]
            exact heardSound
          · rw [core]
            exact shutSound (failShut _).1 (failShut _).2 _
        cases result with
        | error e => exact sound
        | ok _ => exact wornSound sound (sentCore last send)

theorem keptStep (w : Watch F) (e : ShellEvent) (kept : Kept w) (heeded : Heeded w e) :
    Kept (watchStep w e) := by
  cases e with
  | setClock clock => exact ⟨kept.sound, kept.fresh⟩
  | setTimeouts timeouts => exact ⟨kept.sound, kept.fresh⟩
  | connectTcp host port answers =>
    exact connectedKept kept (connectAttempt kept.sound host port answers)
  | attachConnectedSocket socketFd nonBlocking =>
    exact connectedKept kept (attachAttempt kept.sound socketFd nonBlocking)
  | beginReconnect =>
    refine ⟨?_, kept.fresh⟩
    have shut := restartShut kept.sound
    rw [← restartCore] at shut
    exact shutSound shut.1 shut.2 _
  | enqueueLogin claimedId =>
    refine ⟨?_, kept.fresh⟩
    have same := enqueuedCore w.shell ⟨CommandWire.currentProtocolVersion, .login, 0, claimedId⟩
    unfold watchStep ClientTransportShell.enqueueLogin
    dsimp only
    rw [same]
    exact kept.sound
  | enqueueDisconnect =>
    unfold watchStep
    dsimp only
    split <;> rename_i outcome
    · have sound := (disconnectKept kept outcome).resolve_right (fun done => nomatch done.1)
      exact ⟨sound.2, kept.fresh⟩
    · have sound := (disconnectKept kept outcome).resolve_left (fun refused => refused.1 rfl)
      refine ⟨sound.2, fun mixed => ?_⟩
      dsimp only
      rw [kept.fresh mixed]
      rfl
  | pump received send =>
    obtain ⟨own, good⟩ := heeded
    obtain ⟨folds, fresh⟩ := listenFolds kept own
    refine ⟨?_, fresh⟩
    unfold watchStep
    dsimp only
    rw [folds]
    exact pumpSound kept received send good
  | close =>
    refine ⟨?_, kept.fresh⟩
    have shut := closeShut kept.sound
    rw [← closeCore] at shut
    exact shutSound shut.1 shut.2 _

omit [PredictionOps F] in
theorem keptTruthful (w : Watch F) (kept : Kept w) : Truthful w := by
  obtain ⟨failed, opened, closed, known⟩ := kept.sound
  refine ⟨fun loggedIn => ?_, fun fails => ⟨failed fails, closed (failed fails)⟩⟩
  have usable : 0 ≤ w.shell.clientSocket := by
    by_contra shut
    have anonymous : w.shell.auth = .anonymous := closed (Int.not_le.mp shut)
    rw [anonymous] at loggedIn
    contradiction
  obtain ⟨last, same, lasts, -⟩ := known loggedIn
  exact ⟨usable, opened usable, last, same, lasts⟩

def started : Watch F := { shell := { receiver := .initial } }

theorem startedKept : Kept (started : Watch F) :=
  ⟨shutSound (by exact (by decide : (-1 : Int) < 0)) rfl none, fun _ => rfl⟩

theorem loginTruthful {events : List ShellEvent}
    (heeded : Along watchStep Heeded (started : Watch F) events) :
    Always watchStep Truthful (started : Watch F) events :=
  alwaysOf keptTruthful keptStep startedKept heeded

end

def welcome (sessionId : Int) : Bytes :=
  Runtime.responseBytes CommandWire.currentProtocolVersion 1 sessionId []

def granted (sessionId : Int) : Bytes :=
  Runtime.responseBytes CommandWire.currentProtocolVersion 6 sessionId []

def busy : Nat → Bytes → SendResult := fun _ _ => .wouldBlock

def visit : List ShellEvent :=
  [.attachConnectedSocket 5 true, .enqueueLogin (ascii "key"), .pump (.bytes (welcome 7)) busy,
    .enqueueDisconnect, .pump (.bytes (granted 7)) busy, .beginReconnect,
    .attachConnectedSocket 6 true, .pump (.bytes (welcome 8)) busy]

theorem visitTruthful : Always watchStep Truthful (started : Watch ℚ) visit := by
  refine loginTruthful ?_
  simp only [visit, alongCons]
  refine ⟨trivial, trivial, ⟨?_, ?_⟩, trivial, ⟨?_, ?_⟩, trivial, trivial, ⟨?_, ?_⟩, ?_⟩
  · exact fun mixed => absurd mixed (by decide +kernel)
  · decide +kernel
  · exact fun mixed => absurd mixed (by decide +kernel)
  · decide +kernel
  · exact fun mixed => absurd mixed (by decide +kernel)
  · decide +kernel
  · exact alongNil _ _ _

def crossed : List ShellEvent :=
  [.attachConnectedSocket 5 true, .pump (.bytes (welcome 7)) busy, .enqueueDisconnect,
    .pump (.bytes (granted 7 ++ welcome 8)) busy]

-- The socket is closed by the first and the second logs in. A connectTcp that gets
-- no socket then fails the link of a client that is logged in.
theorem loggedInOnClosedSocket :
    (run watchStep (started : Watch ℚ) crossed).shell.auth = .loggedIn ∧
    (run watchStep (started : Watch ℚ) crossed).shell.clientSocket = -1 ∧
    (run watchStep (started : Watch ℚ) (crossed ++ [.connectTcp (some []) 1 { socket := -1 }])).shell.link
      = .failed ∧
    (run watchStep (started : Watch ℚ) (crossed ++ [.connectTcp (some []) 1 { socket := -1 }])).shell.auth
      = .loggedIn ∧
    ¬ Always watchStep Truthful (started : Watch ℚ) crossed := by
  have loggedIn : (run watchStep (started : Watch ℚ) crossed).shell.auth = .loggedIn := by
    decide +kernel
  have shut : (run watchStep (started : Watch ℚ) crossed).shell.clientSocket = -1 := by
    decide +kernel
  refine ⟨loggedIn, shut, by decide +kernel, by decide +kernel, fun always => ?_⟩
  have truthful := always crossed [] (List.append_nil _).symm
  have usable := (truthful.1 loggedIn).1
  rw [shut] at usable
  exact absurd usable (by decide)

def turnedDown (sessionId : Int) : Bytes :=
  Runtime.responseBytes CommandWire.currentProtocolVersion 6 sessionId (ascii "limit")

-- Two disconnects, the first turned down and the second granted.
def doubled : List ShellEvent :=
  [.attachConnectedSocket 5 true, .pump (.bytes (welcome 7)) busy, .enqueueDisconnect,
    .enqueueDisconnect, .pump (.bytes (turnedDown 7)) busy, .pump (.bytes (granted 7)) busy]

-- The two halves of a response come over two sockets.
def spliced : List ShellEvent :=
  [.attachConnectedSocket 5 true, .pump (.bytes ((welcome 7).take 8)) busy, .close,
    .attachConnectedSocket 6 true, .pump (.bytes ((welcome 7).drop 8)) busy]

theorem grantedAnswerIgnored : ¬ Always watchStep Truthful (started : Watch ℚ) doubled := by
  intro always
  have loggedIn : (run watchStep (started : Watch ℚ) doubled).shell.auth = .loggedIn := by
    decide +kernel
  have ended : (run watchStep (started : Watch ℚ) doubled).login = some ⟨7, 0, true⟩ := by
    decide +kernel
  obtain ⟨-, -, last, same, lasts⟩ := (always doubled [] (List.append_nil _).symm).1 loggedIn
  rw [ended] at same
  obtain rfl := Option.some.inj same
  exact nomatch lasts

theorem loggedInByTwoSockets : ¬ Always watchStep Truthful (started : Watch ℚ) spliced := by
  intro always
  have loggedIn : (run watchStep (started : Watch ℚ) spliced).shell.auth = .loggedIn := by
    decide +kernel
  have nothing : (run watchStep (started : Watch ℚ) spliced).login = none := by
    decide +kernel
  obtain ⟨-, -, last, same, -⟩ := (always spliced [] (List.append_nil _).symm).1 loggedIn
  rw [nothing] at same
  exact nomatch same

end SeedOrigin.ClientLogin
