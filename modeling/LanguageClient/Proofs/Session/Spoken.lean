import LanguageClient.Proofs.Message.Grammar
import LanguageClient.Proofs.Session.InStep

/-! # What a server is told, in order

Every server that a session has started was spoken to in the order of a conversation. The
requests are counted and the first document is noted by the session, from the start of a
server to its end. A message that does not come through whole is the last that is written to
its server. The opening of a document and what follows it are one turn here, since nothing may
come between the two.
-/

namespace LanguageClient

section

variable [Limits]

/-- Frames that were all taken whole, in the order of a conversation. -/
structure Line (writings : List Writing) (stand : Stand) : Prop where
  whole : ∀ writing ∈ writings, writing.isWhole = true
  said : Conversation (writings.map fun writing => .ofMessage writing.message) stand

/-- What was written to one server: frames in order, and then perhaps a part of one more. -/
inductive Conversed : List Writing → Prop where
  | whole {writings : List Writing} {stand : Stand} (line : Line writings stand) :
      Conversed writings
  | cut {writings : List Writing} {stand : Stand} {server : Nat} {message : Json}
      {taken : List UInt8} (line : Line writings stand)
      (isPart : Transport.IsPart message taken)
      (isCut : Frame.encode message ≠ .ok taken) :
      Conversed (writings ++ [⟨server, message, .ok taken⟩])

theorem Line.append {writings : List Writing} {stand next : Stand} (line : Line writings stand)
    {writing : Writing} (whole : writing.isWhole = true)
    (fits : Says stand (.ofMessage writing.message) next) : Line (writings ++ [writing]) next := by
  refine ⟨?_, ?_⟩
  · intro other member
    rcases List.mem_append.mp member with earlier | last
    · exact line.whole other earlier
    · rw [List.mem_singleton.mp last]
      exact whole
  · rw [List.map_append]
    exact line.said.snoc fits

/-- A message that was cut is no frame. -/
theorem framesIn_cut {writings : List Writing} {server : Nat} {message : Json}
    {taken : List UInt8} (isCut : Frame.encode message ≠ .ok taken) :
    framesIn (writings ++ [⟨server, message, .ok taken⟩]) = framesIn writings := by
  have notWhole : (Writing.mk server message (.ok taken)).isWhole = false := by
    rw [Writing.isWhole, decide_eq_false isCut.symm, Bool.and_false]
  rw [framesIn, List.filter_append, List.filter_singleton, notWhole, cond_false, List.append_nil]
  rfl

theorem Conversed.wellSpoken {writings : List Writing} (conversed : Conversed writings) :
    WellSpoken ((framesIn writings).map .ofMessage) := by
  have ordered {writings : List Writing} {stand : Stand} (line : Line writings stand) :
      WellSpoken ((framesIn writings).map .ofMessage) := by
    rw [framesIn_of_whole line.whole, List.map_map]
    exact line.said.wellSpoken
  cases conversed with
  | whole line => exact ordered line
  | cut line isPart isCut =>
      rw [framesIn_cut isCut]
      exact ordered line

theorem Conversed.bytes {writings : List Writing} (conversed : Conversed writings) :
    ∃ rest, writings.flatMap (·.bytes) =
        (framesIn writings).flatMap Transport.frameOf ++ rest ∧
      (rest = [] ∨ ∃ message, Transport.IsPart message rest ∧
        Frame.encode message ≠ .ok rest) := by
  cases conversed with
  | whole line => exact ⟨[], by rw [bytes_of_whole line.whole, List.append_nil], .inl rfl⟩
  | @cut writings stand server message taken line isPart isCut =>
      refine ⟨taken, ?_, .inr ⟨message, isPart, isCut⟩⟩
      rw [framesIn_cut isCut, List.flatMap_append, bytes_of_whole line.whole,
        List.flatMap_singleton]
      rfl

end

namespace Talk

variable [Limits]

/-- All servers were spoken to in order, and with the one that runs one has come so far. -/
structure Speaks (talk : Talk) (stand : Stand) : Prop where
  numbered : talk.Numbered
  started : ∀ server, talk.server = some server → server < talk.servers
  earlier : ∀ server, Candid (talk.writings.filter (·.server == server)) →
    Conversed (talk.writings.filter (·.server == server))
  current : ∀ server, talk.server = some server →
    Candid (talk.writings.filter (·.server == server)) →
    Line (talk.writings.filter (·.server == server)) stand

variable {talk : Talk} {stand next : Stand} {server : Nat} {message : Json}

/-- Once no server runs it does not matter how far one has come. -/
theorem Speaks.ended (speaks : talk.Speaks stand) :
    Speaks { talk with server := none } next :=
  ⟨speaks.numbered, nofun, speaks.earlier, nofun⟩

/-- What holds of all that was written to each server holds behind one more writing. -/
theorem conversed_add (speaks : talk.Speaks stand) (taken : Except Fault (List UInt8))
    (last : Candid (talk.writings.filter (·.server == server) ++ [⟨server, message, taken⟩]) →
      Conversed (talk.writings.filter (·.server == server) ++ [⟨server, message, taken⟩]))
    (other : Nat) :
    Candid ((talk.add ⟨server, message, taken⟩).writings.filter (·.server == other)) →
      Conversed ((talk.add ⟨server, message, taken⟩).writings.filter (·.server == other)) := by
  by_cases same : server = other
  · subst same
    rw [writings_add_self talk ⟨server, message, taken⟩]
    exact last
  · rw [writings_add_of_ne talk same]
    exact speaks.earlier other

theorem Speaks.whole (speaks : talk.Speaks stand) (running : talk.server = some server)
    {frame : List UInt8} (framed : Frame.encode message = .ok frame)
    (fits : Says stand (.ofMessage message) next) :
    (talk.add ⟨server, message, .ok frame⟩).Speaks next := by
  have longer (candid : Candid (talk.writings.filter (·.server == server) ++
      [⟨server, message, .ok frame⟩])) : Line (talk.writings.filter (·.server == server) ++
        [⟨server, message, .ok frame⟩]) next :=
    (speaks.current server running (candid_append.mp candid).1).append
      (Writing.isWhole_of_framed framed) fits
  refine ⟨speaks.numbered.add (speaks.started server running), speaks.started,
    conversed_add speaks _ fun candid => .whole (longer candid), ?_⟩
  intro other isOther candid
  obtain rfl : server = other := Option.some.inj (running.symm.trans isOther)
  rw [writings_add_self talk ⟨server, message, .ok frame⟩] at candid ⊢
  exact longer candid

/-- What was taken of the last message that is written to a server may be all of it. -/
theorem Speaks.part (speaks : talk.Speaks stand) (running : talk.server = some server)
    {taken : List UInt8} (fits : Says stand (.ofMessage message) next)
    (isPart : Transport.IsPart message taken) (any : Stand) :
    Speaks { talk.add ⟨server, message, .ok taken⟩ with server := none } any := by
  by_cases whole : Frame.encode message = .ok taken
  · exact (speaks.whole running whole fits).ended
  · refine ⟨speaks.numbered.add (speaks.started server running), nofun,
      conversed_add speaks _ fun candid => ?_, nofun⟩
    exact .cut (speaks.current server running (candid_append.mp candid).1) isPart whole

/-- With a server from which something is withheld one may have come anywhere. -/
theorem Speaks.withhold (speaks : talk.Speaks stand) (running : talk.server = some server)
    (message : Json) (fault : Fault) (any : Stand) :
    (talk.add ⟨server, message, .error fault⟩).Speaks any := by
  have uncandid {writings : List Writing} :
      ¬Candid (writings ++ [⟨server, message, .error fault⟩]) := fun candid =>
    absurd (candid_append.mp candid).2 nofun
  refine ⟨speaks.numbered.add (speaks.started server running), speaks.started,
    conversed_add speaks _ fun candid => absurd candid uncandid, ?_⟩
  intro other isOther candid
  obtain rfl : server = other := Option.some.inj (running.symm.trans isOther)
  rw [writings_add_self talk ⟨server, message, .error fault⟩] at candid
  exact absurd candid uncandid

/-- With a new server nothing was said. -/
theorem Speaks.new (speaks : talk.Speaks stand) :
    Speaks ⟨some talk.servers, talk.servers + 1, talk.writings⟩ .silent := by
  refine ⟨?_, ?_, speaks.earlier, ?_⟩
  · intro writing member
    exact Nat.lt_succ_of_lt (speaks.numbered writing member)
  · intro server running
    obtain rfl := Option.some.inj running
    exact Nat.lt_succ_self _
  · intro server running _
    obtain rfl := Option.some.inj running
    rw [speaks.numbered.unwritten]
    exact ⟨nofun, .nil⟩

end Talk

namespace Session

variable {π : Type} [Host]

/-- What was written to the servers is in order, and with the one that runs one has come as
    far as the session has noted. -/
def Speaks (session : Session π) : Prop :=
  ∃ asked, (session.isRunning = true → session.requests.next = asked + 1) ∧
    session.talk.Speaks (.talking asked session.handshake.confirmed)

theorem Speaks.same {before after : Session π} (speaks : before.Speaks)
    (talk : after.talk = before.talk) (next : after.requests.next = before.requests.next)
    (confirmed : after.handshake.confirmed = before.handshake.confirmed) : after.Speaks := by
  obtain ⟨asked, counted, speaks⟩ := speaks
  refine ⟨asked, ?_, ?_⟩
  · intro running
    rw [next]
    apply counted
    have same : after.connection.map (·.server) = before.connection.map (·.server) :=
      congrArg Talk.server talk
    rw [isRunning, ← Option.isSome_map, ← same, Option.isSome_map]
    exact running
  · rw [talk, confirmed]
    exact speaks

theorem Speaks.calm {before after : Session π} (speaks : before.Speaks)
    (calm : Calm before after) : after.Speaks :=
  speaks.same calm.quiet.talk (congrArg _ calm.requests) calm.confirmed

/-! ## What is said -/

/-- What a message that can come next comes to: it is said, or withheld, or the server is given
    up. -/
inductive Passing (session : Session π) (next : Stand) :
    Except Fault Bool × Session π → Prop where
  | through {after : Session π} (speaks : after.talk.Speaks next)
      (requests : after.requests = session.requests)
      (confirmed : after.handshake.confirmed = session.handshake.confirmed) :
      Passing session next (.ok true, after)
  | withheld {after : Session π} (fault : Fault) (speaks : ∀ stand, after.talk.Speaks stand)
      (requests : after.requests = session.requests) :
      Passing session next (.error fault, after)
  | ended {after : Session π} (nobody : after.connection = none)
      (speaks : ∀ stand, after.talk.Speaks stand) : Passing session next (.ok false, after)

theorem passing {session : Session π} {stand next : Stand} {message : Json}
    (speaks : session.talk.Speaks stand) (fits : Says stand (.ofMessage message) next) :
    Passing session next (session.send message) := by
  have calm := calm_logMessage session .outgoing message
  have outcome := sending session message
  generalize session.send message = result at outcome ⊢
  cases outcome with
  | idle nobody =>
      apply Passing.ended nobody
      intro stand
      have idle : session.talk = { session.talk with server := none } := by
        rw [talk, nobody]
        rfl
      rw [idle]
      exact speaks.ended
  | whole rest flushes running framed =>
      refine Passing.through ?_ calm.requests calm.confirmed
      rw [talk_held running]
      exact speaks.whole (talk_of_connection running) framed fits
  | part rest flushes running isPart =>
      refine Passing.ended (disable_connection _ _) ?_
      intro stand
      rw [talk_disable, talk_held running]
      exact speaks.part (talk_of_connection running) fits isPart stand
  | withheld fault running =>
      refine Passing.withheld fault ?_ calm.requests
      intro stand
      rw [talk_withheld running]
      exact speaks.withhold (talk_of_connection running) message fault stand

theorem Passing.speaks {session : Session π} {asked : Nat}
    {outcome : Except Fault Bool × Session π}
    (passing : Passing session (.talking asked session.handshake.confirmed) outcome)
    (counted : session.requests.next = asked + 1) : outcome.2.Speaks := by
  cases passing with
  | through speaks requests confirmed =>
      refine ⟨asked, ?_, ?_⟩
      · intro running
        rw [requests]
        exact counted
      · rw [confirmed]
        exact speaks
  | withheld fault speaks requests =>
      refine ⟨asked, ?_, speaks _⟩
      intro running
      rw [requests]
      exact counted
  | ended nobody speaks =>
      refine ⟨0, ?_, speaks _⟩
      intro running
      rw [isRunning, nobody] at running
      exact absurd running nofun

/-- A message that is not said leaves nothing to be noted. -/
theorem Passing.speaks_of_unsent {session : Session π} {asked : Nat} {next : Stand}
    {outcome : Except Fault Bool × Session π} (passing : Passing session next outcome)
    (unsent : outcome.1 ≠ .ok true) (counted : session.requests.next = asked + 1) :
    outcome.2.Speaks := by
  cases passing with
  | through speaks requests confirmed => exact absurd rfl unsent
  | withheld fault speaks requests => exact ⟨asked, fun _ => requests ▸ counted, speaks _⟩
  | ended nobody speaks =>
      refine ⟨0, ?_, speaks _⟩
      intro running
      rw [isRunning, nobody] at running
      exact absurd running nofun

/-- A message that leaves the stand as the session has noted it. -/
theorem Speaks.send {session : Session π} {asked : Nat} {stand : Stand} {message : Json}
    (speaks : session.talk.Speaks stand)
    (fits : Says stand (.ofMessage message) (.talking asked session.handshake.confirmed))
    (counted : session.requests.next = asked + 1) : (session.send message).2.Speaks :=
  (passing speaks fits).speaks counted

theorem Speaks.request {session : Session π} (speaks : session.Speaks) {method : Text}
    (free : method ∉ placedMethods) (params : Json) (context : RequestContext π) :
    (session.request method params context).2.Speaks := by
  rw [request_snd]
  cases running : session.isRunning with
  | false =>
      have idle : (session.noting context).send (Message.request session.requests.next method
          params) = (.ok false, session.noting context) := by
        have nobody : (session.noting context).connection = none := eq_none_of_isRunning running
        rw [Session.send, nobody]
      rw [idle]
      obtain ⟨asked, _, spoken⟩ := speaks
      refine ⟨asked, ?_, spoken⟩
      intro runs
      exact absurd (running.symm.trans runs) Bool.false_ne_true
  | true =>
      obtain ⟨asked, counted, spoken⟩ := speaks
      have next := counted running
      have fits : Says (.talking asked session.handshake.confirmed)
          (.ofMessage (Message.request session.requests.next method params))
          (.talking (asked + 1) session.handshake.confirmed) := by
        rw [Utterance.ofMessage_request, next]
        exact .asks free
      have noted : (session.noting context).talk.Speaks
          (.talking asked session.handshake.confirmed) := spoken
      exact Speaks.send noted fits (congrArg (· + 1) next)

theorem Tells.fits {documents after : DocumentStore} {message : Json}
    (tells : Tells documents after message) (asked : Nat) (confirmed : Bool) :
    Says (.talking asked confirmed) (.ofMessage message) (.talking asked confirmed) := by
  cases tells with
  | change changed =>
      rw [Utterance.ofMessage_notification]
      exact .tells (by decide)
  | close closed =>
      rw [Utterance.ofMessage_notification]
      exact .tells (by decide)
  | refusal id method => exact .answers

theorem Begins.free [BEq π] [DocumentName π] {before prepared : Session π} {method : Text}
    {params : Json} {context : RequestContext π}
    (begins : Begins before prepared method params context) : method ∉ placedMethods := by
  cases begins with
  | semanticTokens found => decide
  | hover found line col now => decide
  | completion found line col now trigger triggerKind => decide

theorem Begins.speaks [BEq π] [DocumentName π] {before prepared : Session π} {method : Text}
    {params : Json} {context : RequestContext π}
    (begins : Begins before prepared method params context) (speaks : before.Speaks) :
    prepared.Speaks := by
  cases begins with
  | semanticTokens found => exact speaks
  | hover found line col now => exact speaks.same rfl rfl rfl
  | completion found line col now trigger triggerKind => exact speaks.same rfl rfl rfl

theorem Speech.speaks [BEq π] [DocumentName π] {before after : Session π}
    (speech : Speech before after) (speaks : before.Speaks) : after.Speaks := by
  cases speech with
  | nothing calm => exact speaks.calm calm
  | asking begins => exact (begins.speaks speaks).request begins.free _ _
  | @telling documents prepared message tells calm =>
      have noted : { before with documents }.Speaks := speaks.same rfl rfl rfl
      obtain ⟨asked, counted, spoken⟩ := noted.calm calm
      have told := passing spoken (tells.fits asked prepared.handshake.confirmed)
      cases running : prepared.isRunning with
      | true => exact told.speaks (counted running)
      | false =>
          rw [send, eq_none_of_isRunning running]
          exact noted.calm calm

/-! ## Responses, starts and stops -/

omit [Host] in
theorem next_of_resolve {γ : Type} {pending after : PendingRequests γ} {id : Json} {context : γ}
    (resolved : pending.resolve id = (some context, after)) : after.next = pending.next := by
  obtain ⟨number, _, _, rfl⟩ := PendingRequests.resolve_eq_some resolved
  rfl

omit [Host] in
theorem confirmed_accept (handshake : Handshake) (result : Json) :
    (handshake.accept result).confirmed = handshake.confirmed := by
  unfold Handshake.accept
  split
  · rfl
  · rfl

theorem Responding.speaks [BEq π] [DocumentName π] {before after : Session π} {id : Json}
    (responding : Responding before id after) (speaks : before.Speaks) : after.Speaks := by
  have talk := responding.quiet.talk
  cases responding with
  | unknown => exact speaks
  | @calm context requests after resolved stale calm =>
      have taken : { before with requests }.Speaks :=
        speaks.same rfl (next_of_resolve resolved) rfl
      exact taken.calm calm
  | ready resolved =>
      exact speaks.same talk (next_of_resolve resolved) (confirmed_accept _ _)
  | hover resolved accepted => exact speaks.same talk (next_of_resolve resolved) rfl
  | completion resolved accepted => exact speaks.same talk (next_of_resolve resolved) rfl

/-- A session that was asked to start a server and has none speaks to nobody. -/
theorem Speaks.unstarted {session after : Session π} (speaks : session.Speaks)
    (nobody : session.connection = none) (quiet : Quiet session.reset after)
    (next : after.requests.next = 1) : after.Speaks := by
  obtain ⟨_, _, spoken⟩ := speaks
  refine ⟨0, fun _ => next, ?_⟩
  have idle : session.reset.talk = { session.talk with server := none } := by
    rw [talk, reset, nobody]
    rfl
  rw [quiet.talk, idle]
  exact spoken.ended

theorem Starting.speaks {session : Session π} {command : Text}
    {outcome : Except Fault Bool × Session π}
    (starting : Starting session command outcome) (speaks : session.Speaks) :
    outcome.2.Speaks := by
  have asks : Quiet session.reset (session.reset.record (.asked command)) :=
    (Quiet.refl session.reset).record rfl
  cases starting with
  | running running => exact speaks
  | failed nobody refused => exact speaks.unstarted nobody (asks.emit _) rfl
  | brokenOff nobody broken => exact speaks.unstarted nobody asks rfl
  | @started process params nobody launched =>
      obtain ⟨asked, counted, spoken⟩ := speaks
      have welcome : ((session.hosting command process).noting .handshake).talk.Speaks
          .silent := by
        show (session.hosting command process).talk.Speaks .silent
        rw [talk_hosting]
        exact spoken.new
      have fits : Says .silent (.ofMessage (Message.request 1 "initialize" params))
          (.talking 1 false) := by
        rw [Utterance.ofMessage_request]
        exact .greets
      have greeted := Speaks.send welcome fits rfl
      dsimp only
      rw [greeting, request_snd]
      exact greeted

theorem Speaks.disable {session : Session π} (speaks : session.Speaks) (reason : Text) :
    (session.disable reason).Speaks := by
  obtain ⟨asked, _, spoken⟩ := speaks
  refine ⟨0, fun _ => rfl, ?_⟩
  rw [talk_disable]
  exact spoken.ended

theorem Goodbye.spoken {session ending : Session π} {server asked : Nat}
    (parting : Goodbye session server ending) (server_eq : session.talk.server = some server)
    (spoken : session.talk.Speaks (.talking asked session.handshake.confirmed))
    (leaves : Says (.talking asked session.handshake.confirmed)
      (.ofMessage session.shutdownRequest) (.left (asked + 1))) (any : Stand) :
    Talk.Speaks { ending.talk with server := none } any := by
  have left : session.leaving.talk = session.talk := rfl
  cases parting with
  | unsent isPart =>
      rw [talk_said, left]
      exact spoken.part server_eq leaves isPart _
  | sent framed isPart =>
      have exits : Says (.left (asked + 1)) (.ofMessage exitOrder) (.gone (asked + 1)) := .exits
      rw [talk_said, talk_said, left]
      exact (spoken.whole server_eq framed leaves).part server_eq exits isPart _

theorem Stopping.speaks {session : Session π} {outcome : Except Fault Unit × Session π}
    (stopping : Stopping session outcome) (speaks : session.Speaks) : outcome.2.Speaks := by
  obtain ⟨asked, counted, spoken⟩ := speaks
  have leaves (running : session.isRunning = true) :
      Says (.talking asked session.handshake.confirmed)
        (.ofMessage session.shutdownRequest) (.left (asked + 1)) := by
    rw [shutdownRequest, Utterance.ofMessage_request, counted running]
    exact .leaves
  have requested (running : session.isRunning = true) :
      Passing session.leaving (.left (asked + 1)) (session.leaving.send session.shutdownRequest) :=
    @passing _ _ session.leaving _ _ _ spoken (leaves running)
  have next (running : session.isRunning = true) : session.leaving.requests.next = asked + 1 + 1 :=
    congrArg (· + 1) (counted running)
  cases stopping with
  | idle nobody => exact ⟨asked, counted, spoken⟩
  | @unasked fault running withheld =>
      have passed := requested running
      rw [request_fst] at withheld
      rw [request_snd]
      change ((session.leaving.send session.shutdownRequest).1.map _) = _ at withheld
      show (session.leaving.send session.shutdownRequest).2.Speaks
      generalize session.leaving.send session.shutdownRequest = result at passed withheld ⊢
      cases passed with
      | through speaks requests confirmed => exact absurd withheld nofun
      | ended nobody speaks => exact absurd withheld nofun
      | withheld fault speaks requests =>
          refine ⟨asked + 1, fun _ => ?_, speaks _⟩
          rw [requests]
          exact next running
  | @unordered number fault running asks withheld =>
      have passed := requested running
      rw [request_fst] at asks
      rw [request_snd] at withheld ⊢
      change ((session.leaving.send session.shutdownRequest).1.map _) = _ at asks
      change ((session.leaving.send session.shutdownRequest).2.send exitOrder).1 = _ at withheld
      show ((session.leaving.send session.shutdownRequest).2.send exitOrder).2.Speaks
      generalize session.leaving.send session.shutdownRequest = result at passed asks withheld ⊢
      cases passed with
      | withheld fault speaks requests => exact absurd asks nofun
      | ended nobody speaks =>
          rw [send, nobody] at withheld
          exact absurd withheld nofun
      | @through asking speaks requests confirmed =>
          have exits : Says (.left (asked + 1)) (.ofMessage exitOrder) (.gone (asked + 1)) :=
            .exits
          have ordered := passing speaks exits
          dsimp only at withheld ⊢
          generalize asking.send exitOrder = result at ordered withheld ⊢
          cases ordered with
          | through speaks requests confirmed => exact absurd withheld nofun
          | ended nobody speaks => exact absurd withheld nofun
          | withheld fault speaks unchanged =>
              refine ⟨asked + 1, fun _ => ?_, speaks _⟩
              rw [unchanged, requests]
              exact next running
  | @stopped connection ending running parting =>
      have isRunning : session.isRunning = true := Option.isSome_of_eq_some running
      refine ⟨0, fun _ => rfl, ?_⟩
      rw [talk_stopped]
      exact parting.spoken (talk_of_connection running) spoken (leaves isRunning) _

/-! ## The opening of a document -/

/-- The first document that is opened completes the handshake, if it is told of. -/
theorem confirmHandshake_speaks {session : Session π} {asked : Nat} {stand : Stand}
    (speaks : session.talk.Speaks stand) (counted : session.requests.next = asked + 1)
    (opened : stand = if session.handshake.confirmed then .talking asked true else .opening asked) :
    session.confirmHandshake.2.Speaks := by
  cases confirmed : session.handshake.confirmed with
  | true =>
      rw [opened, confirmed, if_pos rfl] at speaks
      have same : session.confirmHandshake.2 =
          { session with handshake := session.handshake.documentOpened.2 } := by
        simp only [confirmHandshake, Handshake.documentOpened, confirmed]
        rfl
      rw [same]
      exact ⟨asked, fun _ => counted, speaks⟩
  | false =>
      rw [opened, confirmed, if_neg Bool.false_ne_true] at speaks
      have told : session.confirmHandshake.2 =
          ({ session with handshake := session.handshake.documentOpened.2 }.notify "initialized"
            (.obj [])).2 := by
        simp only [confirmHandshake, Handshake.documentOpened, confirmed]
        rfl
      have fits : Says (.opening asked)
          (.ofMessage (Message.notification "initialized" (.obj []))) (.talking asked true) :=
        .confirms
      have noted : { session with handshake := session.handshake.documentOpened.2 }.talk.Speaks
          (.opening asked) := speaks
      rw [told]
      exact Speaks.send noted fits counted

theorem didOpen_speaks [BEq π] [DocumentName π] {session : Session π} (speaks : session.Speaks)
    (name : π) (text languageId : Text) : (session.didOpen name text languageId).2.Speaks := by
  obtain ⟨asked, counted, spoken⟩ := speaks
  have told (documents : DocumentStore) (params : Json) :
      Passing { session with documents }
        (if session.handshake.confirmed then .talking asked true else .opening asked)
        ({ session with documents }.send
          (Message.notification "textDocument/didOpen" params)) := by
    have noted : { session with documents }.talk.Speaks
        (.talking asked session.handshake.confirmed) := spoken
    apply passing noted
    rw [Utterance.ofMessage_notification]
    cases session.handshake.confirmed with
    | false => exact .opens
    | true => exact .reopens
  have confirming {documents : DocumentStore} {params : Json} {next : Session π}
      (running : session.isRunning = true) (sent : { session with documents }.send
        (Message.notification "textDocument/didOpen" params) = (.ok true, next)) :
      next.confirmHandshake.2.Speaks := by
    have passed := told documents params
    rw [sent] at passed
    cases passed with
    | through speaks requests confirmed =>
        exact confirmHandshake_speaks speaks (requests ▸ counted running) (by rw [confirmed])
  have outcome := opening session name text languageId
  generalize session.didOpen name text languageId = result at outcome ⊢
  cases outcome with
  | unsaid silent => exact ⟨asked, counted, spoken⟩
  | @unsent params documents sent next running opened failed unsent =>
      have passed := told documents params
      rw [failed] at passed
      exact passed.speaks_of_unsent unsent (counted running)
  | @unconfirmed params documents next fault running opened sent withheld =>
      exact confirming running sent
  | @told params documents next running opened sent confirmed =>
      exact (requestSemanticTokens_speech _ name).speaks (confirming running sent)

/-! ## Every turn, every run -/

theorem Plain.speaks {before after : Session Text} (plain : Plain before after)
    (speaks : before.Speaks) : after.Speaks := by
  cases plain.effect with
  | speech speech => exact speech.speaks speaks
  | surround now launcher settings => exact speaks.same rfl rfl rfl
  | prepareWrites writes flushes => exact speaks.same rfl rfl rfl
  | takeWritesAs writes flushes => exact speaks.same (talk_changePeer before _) rfl rfl
  | deliver given => exact speaks.same (talk_changePeer before _) rfl rfl
  | receive running => exact speaks.same (talk_receive running) rfl rfl
  | start starting => exact starting.speaks speaks
  | stop stopping => exact stopping.speaks speaks
  | serverExited running => exact speaks.disable _

theorem Reachable.speaks {session : Session Text} (reachable : Reachable session) :
    session.Speaks := by
  apply Reachable.turnInduction _ _ reachable
  · intro processId folder
    exact ⟨0, fun _ => rfl, nofun, nofun, fun _ _ => .whole ⟨nofun, .nil⟩, nofun⟩
  · intro before after turn speaks
    cases turn with
    | didOpen name text languageId => exact didOpen_speaks speaks name text languageId
    | hearing hearing =>
        cases hearing with
        | plain plain => exact plain.speaks speaks
        | takeResponse message => exact (responding before message).speaks speaks

/-- Wherever a run has come to, the bytes that a server was given from which nothing was withheld
    are those of whole frames, with at most a part of one more at the end, and the frames say things
    in the order in which a client has to say them. -/
theorem wellSpoken_framesTo {session : Session Text} (reachable : Reachable session)
    (server : Nat) (candid : session.CandidTo server) :
    WellSpoken ((session.framesTo server).map .ofMessage) ∧
      ∃ rest, session.bytesTo server =
          (session.framesTo server).flatMap Transport.frameOf ++ rest ∧
        (rest = [] ∨
          ∃ message, Transport.IsPart message rest ∧ Frame.encode message ≠ .ok rest) := by
  obtain ⟨_, _, spoken⟩ := reachable.speaks
  have conversed := spoken.earlier server candid
  exact ⟨conversed.wellSpoken, conversed.bytes⟩

end Session

end LanguageClient

open scoped LanguageClient.Host.Bare

namespace LanguageClient.Session

/-- A document is opened, the server is stopped, and of the next one's handshake only a part
    is taken. -/
def toldTwoServers : Session Text :=
  ((((({ processId := 1, folder := "/home" : Session Text }.perform
    (.start "server" "proj")).perform (.didOpen "a.py" "x" "python")).perform .stop).perform
    (.prepareWrites [.takes 5, .fails] [])).perform (.start "server" "proj"))

theorem wellSpoken_toldTwoServers :
    toldTwoServers.CandidTo 0 ∧
      (toldTwoServers.framesTo 0).map (fun message => (Utterance.ofMessage message).method) =
        ["initialize", "textDocument/didOpen", "initialized",
          "textDocument/semanticTokens/full", "shutdown", "exit"] ∧
      toldTwoServers.framesTo 1 = [] ∧
      WellSpoken ((toldTwoServers.framesTo 0).map .ofMessage) := by
  have reachable : Reachable toldTwoServers :=
    (((((Reachable.fresh 1 "/home").perform _).perform _).perform _).perform _).perform _
  have told : toldTwoServers.CandidTo 0 ∧
      (toldTwoServers.framesTo 0).map
        (fun message => (Utterance.ofMessage message).method) =
        ["initialize", "textDocument/didOpen", "initialized",
          "textDocument/semanticTokens/full", "shutdown", "exit"] ∧
      (toldTwoServers.framesTo 1).length = 0 := by
    decide +kernel
  obtain ⟨candid, methods, none⟩ := told
  exact ⟨candid, methods, List.length_eq_zero_iff.mp none,
    (wellSpoken_framesTo reachable 0 candid).1⟩

/-- The server offers completions, and is asked for some by what is no character. -/
def askedUnsaid : Session Text :=
  ((((({ processId := 1, folder := "/home" : Session Text }.perform
    (.start "server" "proj")).perform (.arrive (Transport.frameOf (.obj [("id", .int 1), ("result",
      .obj [("capabilities", .obj [("completionProvider", .obj [])])])])))).perform
        .processAvailable).perform (.didOpen "a.py" "x" "python")).perform
          (.requestCompletion "a.py" 0 0 Text.unpaired 2)).perform
            (.requestHover "a.py" 0 0)

/-- The number of a request that was withheld is left out. -/
theorem misnumbered_askedUnsaid :
    Reachable askedUnsaid ∧ ¬WellSpoken ((askedUnsaid.framesTo 0).map .ofMessage) := by
  refine ⟨((((((Reachable.fresh 1 "/home").perform _).perform _).perform _).perform _).perform
    _).perform _, ?_⟩
  intro spoken
  have numbers : ((askedUnsaid.framesTo 0).map Utterance.ofMessage |>.filterMap
        Utterance.id?).length = 3 ∧
      ((askedUnsaid.framesTo 0).map Utterance.ofMessage |>.filterMap Utterance.id?).any
        (fun id => PendingRequests.numberOf? id == some 4) = true := by
    decide +kernel
  obtain ⟨asked, counted⟩ := spoken.numbers
  rw [counted] at numbers
  obtain ⟨three, fourth⟩ := numbers
  obtain rfl : asked = 3 := by simpa using three
  exact absurd fourth (by decide)

end LanguageClient.Session
