import LanguageClient.Proofs.Session.Readable

/-! # Output in pieces

However what a server writes is cut into pieces, taking it piece by piece comes to what taking
it in one does: the same events and writes in the same order, the same session behind, and as
many messages. A server that is given up in between, because a write to it failed, has lost the
rest of its output in either case; one that has closed its end is given up behind its last
message, which needs the close to be met with the last piece and not before.
-/

namespace LanguageClient.Session

variable {π : Type}

/-! ## Output and its pieces -/

/-- The server writes a piece, and closes its end behind it or leaves it open. -/
def serve (session : Session π) (piece : List UInt8) (closes : Bool) : Session π :=
  if closes then (session.arrive piece).hangUp else session.arrive piece

theorem serve_of_none {session : Session π} (nobody : session.connection = none)
    (piece : List UInt8) (closes : Bool) : session.serve piece closes = session := by
  have unchanged (change : Peer → Peer) : session.changePeer change = session := by
    unfold changePeer
    rw [nobody, Option.map_none, ← nobody]
  unfold serve arrive hangUp
  simp only [unchanged, ite_self]

theorem changePeer_incoming {session : Session π} {connection : Connection}
    (running : session.connection = some connection) (outcomes : List ReadOutcome) :
    session.changePeer (fun peer => { peer with incoming := peer.incoming ++ outcomes }) =
      session.reading (connection.inbox.deliver outcomes) := by
  rw [reading_of_some running, changePeer, running]
  rfl

theorem reading_inbox {session : Session π} {connection : Connection}
    (running : session.connection = some connection) :
    session.reading connection.inbox = session := by
  rw [reading_of_some running, hold]
  exact (running ▸ rfl)

theorem arrive_of_some {session : Session π} {connection : Connection}
    (running : session.connection = some connection) (piece : List UInt8) :
    session.arrive piece = session.reading (connection.inbox.deliver (output piece false)) := by
  cases piece with
  | nil =>
      have nothing : connection.inbox.deliver (output [] false) = connection.inbox := by
        simp [Inbox.deliver, output]
      rw [nothing, reading_inbox running]
      rfl
  | cons byte bytes => exact changePeer_incoming running [.data (byte :: bytes)]

theorem serve_of_some {session : Session π} {connection : Connection}
    (running : session.connection = some connection) (piece : List UInt8) (closes : Bool) :
    session.serve piece closes =
      session.reading (connection.inbox.deliver (output piece closes)) := by
  unfold serve
  rw [arrive_of_some running]
  cases closes with
  | false => rfl
  | true =>
      have still := connection_reading running (connection.inbox.deliver (output piece false))
      have behind : (connection.inbox.deliver (output piece false)).deliver [.endOfData] =
          connection.inbox.deliver (output piece true) := by
        simp [Inbox.deliver, output]
      rw [← behind, if_pos rfl]
      exact (changePeer_incoming still [.endOfData]).trans (reading_reading session _ _)

/-! ## Taking what was read -/

variable [Host]

/-- Once a server has closed its end, it is given up. -/
def finish (session : Session π) (server : Nat) (closed : Bool) : Session π :=
  if session.isConnectedTo server && closed then session.disable "language server exited"
  else session

omit [Host] in
theorem finish_open (session : Session π) (server : Nat) :
    session.finish server false = session := by
  rw [finish, Bool.and_false]
  rfl

omit [Host] in
theorem isConnectedTo_of_connected {session : Session π} {server : Nat}
    (same : session.Connected (·.server = server)) :
    session.isConnectedTo server = session.isRunning := by
  unfold isConnectedTo isRunning
  cases running : session.connection with
  | none => rfl
  | some connection => simpa using same connection running

omit [Host] in
theorem finish_of_none {session : Session π} (nobody : session.connection = none)
    (server : Nat) (closed : Bool) : session.finish server closed = session := by
  have idle : session.isConnectedTo server = false := by
    rw [isConnectedTo, nobody]
  rw [finish, idle, Bool.false_and]
  rfl

omit [Host] in
theorem finish_closed_connection {session : Session π} {server : Nat}
    (same : session.Connected (·.server = server)) :
    (session.finish server true).connection = none := by
  rw [finish, isConnectedTo_of_connected same, Bool.and_true]
  split
  · exact disable_connection _ _
  · next idle => exact eq_none_of_isRunning (by simpa using idle)

omit [Host] in
/-- What is not read any more makes no difference. -/
theorem finish_reading {session : Session π} {server : Nat}
    (same : session.Connected (·.server = server)) {one other : Inbox} (alike : one.Alike other) :
    (session.reading one).finish server one.closed =
      (session.reading other).finish server other.closed := by
  cases alike with
  | inl equal => rw [equal]
  | inr closed =>
      rw [closed.1, closed.2]
      cases running : session.connection with
      | none => rw [reading_of_none running, reading_of_none running]
      | some connection =>
          have connected : session.isConnectedTo server = true := by
            rw [isConnectedTo_of_connected same, isRunning, running]
            rfl
          simp only [finish, isConnectedTo_reading, connected, Bool.and_true, ↓reduceIte,
            disable_reading]

variable [BEq π] [DocumentName π]

/-- What the messages read from a server come to. -/
def take (session : Session π) (server : Nat) (polled : Except Fault (List Json) × Inbox) :
    Except Fault Nat × Session π :=
  match polled.1 with
  | .error fault => (.error fault, session.reading polled.2)
  | .ok messages =>
    match takeMessages server 0 (session.reading polled.2) messages with
    | (.error fault, session) => (.error fault, session)
    | (.ok taken, session) => (.ok taken, session.finish server polled.2.closed)

theorem processAvailable_eq_take {session : Session π} {connection : Connection}
    (running : session.connection = some connection)
    (valid : 0 ≤ connection.transport.descriptor) :
    session.processAvailable = session.take connection.server connection.inbox.poll := by
  rw [processAvailable_of_connection running, receive_eq valid, poll_eq valid, take,
    reading_of_some running]
  dsimp only
  cases connection.inbox.poll.1 with
  | error fault => rfl
  | ok messages =>
      dsimp only
      generalize takeMessages connection.server 0
        (session.hold (connection.reading connection.inbox.poll.2)) messages = taken
      obtain ⟨count, after⟩ := taken
      cases count with
      | error fault => rfl
      | ok count =>
          have same : (connection.reading connection.inbox.poll.2).transport.closed =
              connection.inbox.poll.2.closed := rfl
          simp only [finish, same]
          split
          · rfl
          · rfl

theorem processAvailable_reading {session : Session π} {connection : Connection}
    (running : session.connection = some connection)
    (valid : 0 ≤ connection.transport.descriptor) (inbox : Inbox) :
    (session.reading inbox).processAvailable = session.take connection.server inbox.poll := by
  have reads := processAvailable_eq_take (connection_reading running inbox) valid
  have same : (connection.reading inbox).inbox = inbox := rfl
  rw [reads, same]
  simp only [take, reading_reading]
  rfl

theorem take_eq {session after : Session π} {server taken : Nat} {messages : List Json}
    {polled : Except Fault (List Json) × Inbox} (given : polled.1 = .ok messages)
    (took : takeMessages server 0 session messages = (.ok taken, after)) :
    session.take server polled =
      (.ok taken, (after.reading polled.2).finish server polled.2.closed) := by
  rw [take, given]
  simp only [takeMessages_reading, took]

/-- Messages that could be taken were read, and every handler went through. -/
theorem takeMessages_of_take {session : Session π} {server taken : Nat}
    {polled : Except Fault (List Json) × Inbox}
    (result : (session.take server polled).1 = .ok taken) :
    ∃ messages after, polled.1 = .ok messages ∧
      takeMessages server 0 session messages = (.ok taken, after) := by
  unfold take at result
  split at result
  · simp at result
  · next messages given =>
    rw [takeMessages_reading] at result
    cases took : takeMessages server 0 session messages with
    | mk count after =>
      rw [took] at result
      cases count with
      | error fault => simp at result
      | ok count =>
          obtain rfl := Except.ok.inj result
          exact ⟨messages, after, given, took⟩

theorem takeMessages_of_none {session : Session π} (nobody : session.connection = none)
    (server taken : Nat) (messages : List Json) :
    takeMessages server taken session messages = (.ok taken, session) := by
  have idle : session.isConnectedTo server = false := by
    rw [isConnectedTo, nobody]
  cases messages with
  | nil => rfl
  | cons message rest =>
      rw [takeMessages, idle]
      rfl

/-- Where two batches go through at once, each goes through on its own. -/
theorem takeMessages_split {session after : Session π} {server total : Nat}
    {first second : List Json}
    (took : takeMessages server 0 session (first ++ second) = (.ok total, after)) :
    ∃ taken middle later, takeMessages server 0 session first = (.ok taken, middle) ∧
      takeMessages server 0 middle second = (.ok later, after) ∧ taken + later = total := by
  rw [takeMessages_append] at took
  split at took
  · simp at took
  · next taken middle earlier =>
    have later := takeMessages_add server taken 0 middle second
    rw [Nat.add_zero, took] at later
    cases behind : takeMessages server 0 middle second with
    | mk count last =>
      rw [behind] at later
      obtain ⟨sum, rfl⟩ := Prod.mk.inj later
      cases count with
      | error fault => simp [Except.map] at sum
      | ok count =>
          exact ⟨taken, middle, count, earlier, behind, (Except.ok.inj sum).symm⟩

/-- The session is connected to this server, and can read from it, or to none. -/
def ConnectedTo (session : Session π) (server : Nat) : Prop :=
  session.Connected fun connection =>
    connection.server = server ∧ 0 ≤ connection.transport.descriptor

omit [BEq π] [DocumentName π] [Host] in
theorem ConnectedTo.same {session : Session π} {server : Nat}
    (connected : session.ConnectedTo server) : session.Connected (·.server = server) :=
  fun connection running => (connected connection running).1

theorem ConnectedTo.takeMessages {session : Session π} {server taken : Nat}
    (connected : session.ConnectedTo server) {messages : List Json}
    {result : Except Fault Nat} {after : Session π}
    (took : takeMessages server taken session messages = (result, after)) :
    after.ConnectedTo server := by
  have kept := takeMessages_connected (fun _ _ _ _ holds => holds) server taken connected messages
  rwa [took] at kept

/-- What a call comes to behind a piece of output, when what it reads can be taken. -/
theorem processAvailable_serve {session after : Session π} {server : Nat}
    (connected : session.ConnectedTo server) {inbox : Inbox} {piece : List UInt8}
    {closes : Bool} {polled : Except Fault (List Json) × Inbox} {messages : List Json}
    {taken : Nat}
    (read : (inbox.deliver (output piece closes)).poll = polled)
    (given : polled.1 = .ok messages)
    (took : takeMessages server 0 session messages = (.ok taken, after)) :
    ((session.reading inbox).serve piece closes).processAvailable =
      (.ok taken, (after.reading polled.2).finish server polled.2.closed) := by
  cases running : session.connection with
  | none =>
      rw [takeMessages_of_none running] at took
      obtain ⟨none, rfl⟩ := Prod.mk.inj took
      rw [reading_of_none running, reading_of_none running, serve_of_none running,
        processAvailable_of_none running, none, finish_of_none running]
  | some connection =>
      obtain ⟨rfl, valid⟩ := connected connection running
      have same : (connection.reading inbox).inbox = inbox := rfl
      rw [serve_of_some (connection_reading running inbox), reading_reading, same,
        processAvailable_reading running valid, read]
      exact take_eq given took

/-! ## One cut, and any number -/

section

variable {session after : Session π} {server total : Nat} {inbox next whole : Inbox}
  {piece more : List UInt8} {closes : Bool}

/-- The end was met with the first piece: the server is given up there, and the second call has
    nobody to read from. -/
theorem cut_of_closed (connected : session.ConnectedTo server) {messages : List Json}
    (first : (inbox.deliver (output piece false)).poll = (.ok messages, next))
    (closed : next.closed = true) (wholeClosed : whole.closed = true)
    (took : takeMessages server 0 session messages = (.ok total, after)) :
    ∃ taken middle later,
      ((session.reading inbox).serve piece false).processAvailable = (.ok taken, middle) ∧
        (middle.serve more closes).processAvailable =
          (.ok later, (after.reading whole).finish server whole.closed) ∧
        taken + later = total := by
  have same := (connected.takeMessages took).same
  have nobody : ((after.reading next).finish server next.closed).connection = none := by
    rw [closed]
    apply finish_closed_connection
    intro connection running
    obtain ⟨earlier, wasRunning, rfl⟩ := Option.map_eq_some_iff.mp running
    exact same earlier wasRunning
  refine ⟨total, _, 0, processAvailable_serve connected first rfl took, ?_, rfl⟩
  rw [serve_of_none nobody, processAvailable_of_none nobody,
    finish_reading same (.inr ⟨wholeClosed, closed⟩)]

/-- The end was not met with the first piece: the second call takes up where the first one
    stopped. -/
theorem cut_of_open (connected : session.ConnectedTo server) {early late : List Json}
    (first : (inbox.deliver (output piece false)).poll = (.ok early, next))
    (isOpen : next.closed = false)
    (second : (next.deliver (output more closes)).poll.1 = .ok late)
    (alike : whole.Alike (next.deliver (output more closes)).poll.2)
    (took : takeMessages server 0 session (early ++ late) = (.ok total, after)) :
    ∃ taken middle later,
      ((session.reading inbox).serve piece false).processAvailable = (.ok taken, middle) ∧
        (middle.serve more closes).processAvailable =
          (.ok later, (after.reading whole).finish server whole.closed) ∧
        taken + later = total := by
  obtain ⟨taken, middle, later, tookEarly, tookLate, sum⟩ := takeMessages_split took
  have stillConnected := connected.takeMessages tookEarly
  have same := (stillConnected.takeMessages tookLate).same
  refine ⟨taken, middle.reading next, later, ?_, ?_, sum⟩
  · have reached := processAvailable_serve connected first rfl tookEarly
    rwa [isOpen, finish_open] at reached
  · rw [finish_reading same alike]
    exact processAvailable_serve stillConnected rfl second tookLate

end

/-- A call behind a piece and a call behind all the rest come to what one call behind both
    does. -/
theorem processAvailable_cut {session final : Session π} (readable : session.Connected Readable)
    {piece more : List UInt8} {closes : Bool} {total : Nat}
    (whole : (session.serve (piece ++ more) closes).processAvailable = (.ok total, final)) :
    ∃ taken middle later,
      (session.serve piece false).processAvailable = (.ok taken, middle) ∧
        (middle.serve more closes).processAvailable = (.ok later, final) ∧
        taken + later = total := by
  cases running : session.connection with
  | none =>
      rw [serve_of_none running, processAvailable_of_none running] at whole
      obtain ⟨none, rfl⟩ := Prod.mk.inj whole
      refine ⟨0, session, 0, ?_, ?_, Except.ok.inj none⟩
      · rw [serve_of_none running, processAvailable_of_none running]
      · rw [serve_of_none running, processAvailable_of_none running]
  | some connection =>
      have valid := (readable connection running).descriptor
      have connected : session.ConnectedTo connection.server := by
        intro other isOther
        obtain rfl := Option.some.inj (running.symm.trans isOther)
        exact ⟨rfl, valid⟩
      have given : .wouldBlock ∉ connection.inbox.incoming := (readable connection running).given
      rw [serve_of_some running, processAvailable_reading running valid] at whole
      rw [← reading_inbox running]
      generalize connection.inbox = inbox at *
      obtain ⟨messages, after, read, took⟩ := takeMessages_of_take (congrArg Prod.fst whole)
      rw [take_eq read took] at whole
      obtain ⟨-, rfl⟩ := Prod.mk.inj whole
      obtain ⟨reads, alike⟩ := Inbox.poll_output_append given piece more closes
      rw [read, Inbox.deliver_append] at reads
      rw [Inbox.deliver_append] at alike
      have stillGiven := Inbox.not_mem_deliver_output given piece
      generalize first : (inbox.deliver (output piece false)).poll = polled
      obtain ⟨result, next⟩ := polled
      cases result with
      | error cause =>
          rw [Inbox.poll_deliver_of_error stillGiven first] at reads
          exact absurd reads nofun
      | ok early =>
          cases isOpen : next.closed with
          | true =>
              rw [Inbox.poll_deliver_of_closed first isOpen] at reads alike
              obtain rfl := Except.ok.inj reads
              exact cut_of_closed connected first isOpen (alike.closed.trans isOpen) took
          | false =>
              rw [Inbox.poll_deliver_of_open stillGiven first isOpen] at reads alike
              cases second : (next.deliver (output more closes)).poll.1 with
              | error cause =>
                  rw [second] at reads
                  exact absurd reads nofun
              | ok late =>
                  rw [second] at reads
                  obtain rfl := Except.ok.inj reads
                  exact cut_of_open connected first isOpen second alike took

/-- The server writes piece by piece, and after each piece a call takes what it can. The end
    may be closed behind the last one. -/
def takePieces (session : Session π) (closes : Bool) (piece : List UInt8) :
    List (List UInt8) → Except Fault Nat × Session π
  | [] => (session.serve piece closes).processAvailable
  | next :: rest =>
    match (session.serve piece false).processAvailable with
    | (.error fault, session) => (.error fault, session)
    | (.ok taken, session) =>
      let (later, session) := session.takePieces closes next rest
      (later.map (taken + ·), session)

theorem takePieces_of_whole {session final : Session Text} (reachable : Reachable session)
    {closes : Bool} {piece : List UInt8} {rest : List (List UInt8)} {total : Nat}
    (whole : (session.serve (piece :: rest).flatten closes).processAvailable =
      (.ok total, final)) :
    session.takePieces closes piece rest = (.ok total, final) := by
  induction rest generalizing session piece total with
  | nil => rwa [List.flatten_cons, List.flatten_nil, List.append_nil] at whole
  | cons next rest ih =>
      rw [List.flatten_cons] at whole
      obtain ⟨taken, middle, later, first, second, sum⟩ :=
        processAvailable_cut reachable.readable whole
      have reached : Reachable (session.serve piece false).processAvailable.2 :=
        (reachable.perform (.arrive piece)).perform .processAvailable
      rw [first] at reached
      rw [takePieces, first]
      simp only [ih reached second, Except.map, sum]

/-- Wherever a run has come to, and however what the server writes next is cut into pieces: if
    one call takes it all without a fault, then calls piece by piece have none either, take as
    many messages together and leave the same session, with the same events and writes in the
    same order. -/
theorem takePieces_eq_processAvailable {session : Session Text} (reachable : Reachable session)
    (closes : Bool) (piece : List UInt8) (rest : List (List UInt8)) {total : Nat}
    (faultless : (session.serve (piece :: rest).flatten closes).processAvailable.1 =
      .ok total) :
    session.takePieces closes piece rest =
      (session.serve (piece :: rest).flatten closes).processAvailable := by
  have whole : (session.serve (piece :: rest).flatten closes).processAvailable =
      (.ok total, (session.serve (piece :: rest).flatten closes).processAvailable.2) :=
    Prod.ext faultless rfl
  exact (takePieces_of_whole reachable whole).trans whole.symm

end LanguageClient.Session

open scoped LanguageClient.Host.Bare

namespace LanguageClient.Session

/-- A session whose server takes no write any more. -/
def deafened : Session Text :=
  perform (perform { processId := 1, folder := "/home" } (.start "server" "proj"))
    (.takeWritesAs [.fails] [])

/-- Two requests of a server; the answer to the first one is not taken. -/
def asked : List UInt8 :=
  Transport.frameOf (.obj [("id", .int 1), ("method", .str "a")]) ++
    Transport.frameOf (.obj [("id", .int 2), ("method", .str "b")])

theorem takePieces_deafened :
    (deafened.takePieces true (asked.take 30) [asked.drop 30]).1.toOption = some 1 := by
  have taken : (deafened.serve asked true).processAvailable.1.toOption = some 1 := by
    decide +kernel
  have cut : [asked.take 30, asked.drop 30].flatten = asked := by
    simp only [List.flatten_cons, List.flatten_nil, List.append_nil, List.take_append_drop]
  cases result : (deafened.serve asked true).processAvailable.1 with
  | error fault =>
      rw [result] at taken
      exact absurd taken nofun
  | ok total =>
      have reachable : Reachable deafened := ((Reachable.fresh 1 "/home").perform _).perform _
      have same := takePieces_eq_processAvailable reachable true (asked.take 30)
        [asked.drop 30] (cut ▸ result)
      rw [same, cut]
      exact taken

end LanguageClient.Session
