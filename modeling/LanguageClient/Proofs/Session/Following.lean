import LanguageClient.Proofs.Session.InStep

/-! # What past servers were told

A server that runs can take all that it was to be told, and a server is told something only as long
as it runs. So every server could take what it was to be told, in that order, up to the message of
which perhaps only a part came through.
-/

namespace LanguageClient

namespace Talk

variable {talk : Talk} {documents after : DocumentStore} {server : Nat} {message : Json}

/-- Every server could take what was to be written to it, each message in its turn. -/
def Followed (talk : Talk) : Prop :=
  ∀ server, ∃ mirror,
    Mirror.replay? ((talk.writings.filter (·.server == server)).map (·.message)) = some mirror

theorem Followed.write [Limits] (followed : talk.Followed) (knows : talk.Knows documents)
    (running : talk.server = some server) (advances : Mirror.Advances documents message after)
    (taken : Except Fault (List UInt8)) : (talk.add ⟨server, message, taken⟩).Followed := by
  intro other
  by_cases same : server = other
  · subst same
    rw [writings_add_self talk ⟨server, message, taken⟩]
    -- Only of the server that runs it is known which documents it has.
    obtain ⟨mirror, replayed, reflects⟩ := (knows.told server running).copied
    obtain ⟨next, takes, _⟩ := advances.taken reflects
    refine ⟨next, ?_⟩
    rw [List.map_append]
    exact Mirror.replay?_snoc replayed takes
  · rw [writings_add_of_ne talk same]
    exact followed other

end Talk

namespace Session

variable {session before after : Session Text} [Host]

theorem Utters.followed (utters : Utters before after) (inStep : before.InStep)
    (followed : before.talk.Followed) : after.talk.Followed := by
  cases utters with
  | nothing quiet =>
      rw [quiet.talk]
      exact followed
  | @message documents prepared message quiet advances =>
      have knows : prepared.talk.Knows before.documents := by
        rw [quiet.talk]
        exact inStep
      have followed : prepared.talk.Followed := by
        rw [quiet.talk]
        exact followed
      have outcome := sending prepared message
      generalize prepared.send message = result at outcome ⊢
      cases outcome with
      | idle nobody => exact followed
      | whole rest flushes running framed =>
          rw [talk_held running]
          exact followed.write knows (talk_of_connection running) (advances inStep.keyed) _
      | part rest flushes running isPart =>
          rw [talk_disable, talk_held running]
          exact followed.write knows (talk_of_connection running) (advances inStep.keyed) _
      | withheld fault running =>
          rw [talk_withheld running]
          exact followed.write knows (talk_of_connection running) (advances inStep.keyed) _

theorem Starting.followed {command : Text} {outcome : Except Fault Bool × Session Text}
    (starting : Starting session command outcome) (inStep : session.InStep)
    (followed : session.talk.Followed) : outcome.2.talk.Followed := by
  have asked : Quiet session.reset (session.reset.record (.asked command)) :=
    (Quiet.refl session.reset).record rfl
  cases starting with
  | running running => exact followed
  | failed nobody refused =>
      rw [unserved, (asked.emit _).talk]
      exact followed
  | brokenOff nobody broken =>
      rw [asked.talk]
      exact followed
  | @started process params nobody launched =>
      have welcome : (session.hosting command process).talk.Followed := by
        rw [talk_hosting]
        exact followed
      exact (greeting_utters session command process params).followed
        (hosting_inStep inStep command process) welcome

theorem Goodbye.followed {ending : Session Text} {server : Nat}
    (parting : Goodbye session server ending) (running : session.talk.server = some server)
    (inStep : session.InStep) (followed : session.talk.Followed) : ending.talk.Followed := by
  have asks := Mirror.advances_of_nothing inStep.keyed
    (telling_shutdown session.requests.next)
  have current : session.leaving.talk.server = some server := running
  have knows : session.leaving.talk.Knows session.documents := inStep
  have leaving : session.leaving.talk.Followed := followed
  cases parting with
  | unsent isPart =>
      rw [talk_said]
      exact leaving.write knows current asks _
  | sent framed isPart =>
      rw [talk_said, talk_said]
      exact (leaving.write knows current asks _).write (knows.write current framed asks) current
        (Mirror.advances_of_nothing inStep.keyed telling_exit) _

theorem Stopping.followed {outcome : Except Fault Unit × Session Text}
    (stopping : Stopping session outcome) (inStep : session.InStep)
    (followed : session.talk.Followed) : outcome.2.talk.Followed := by
  have asked := (shutdown_utters session).followed inStep followed
  cases stopping with
  | idle nobody => exact followed
  | unasked running withheld => exact asked
  | unordered running asks withheld =>
      exact (exit_utters _).followed ((shutdown_utters session).inStep inStep) asked
  | @stopped connection ending running parting =>
      rw [talk_stopped]
      exact parting.followed (talk_of_connection running) inStep followed

theorem Plain.followed (plain : Plain before after) (inStep : before.InStep)
    (followed : before.talk.Followed) : after.talk.Followed := by
  cases plain.effect with
  | speech speech => exact speech.utters.followed inStep followed
  | surround now launcher settings => exact followed
  | prepareWrites writes flushes => exact followed
  | takeWritesAs writes flushes => exact talk_changePeer before _ ▸ followed
  | deliver given => exact talk_changePeer before _ ▸ followed
  | receive running => exact talk_receive running ▸ followed
  | start starting => exact starting.followed inStep followed
  | stop stopping => exact stopping.followed inStep followed
  | serverExited running =>
      rw [talk_disable]
      exact followed

theorem Move.followed (move : Move before after) (inStep : before.InStep)
    (followed : before.talk.Followed) : after.talk.Followed := by
  cases move with
  | plain plain => exact plain.followed inStep followed
  | openDocument running opened =>
      have utters : Utters before _ := .message (.refl _) fun keyed =>
        Mirror.advances_of_openDocument keyed opened
      exact utters.followed inStep followed
  | confirmHandshake => exact (confirmHandshake_utters before).followed inStep followed
  | takeResponse message =>
      rw [(responding before message).quiet.talk]
      exact followed

end Session

end LanguageClient
