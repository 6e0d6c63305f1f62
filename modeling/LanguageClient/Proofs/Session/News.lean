import LanguageClient.Proofs.Session.Revision

/-! # What is told of documents

News are what the host is told of a document because the server has something to say about it:
its diagnostics, or its semantic tokens. The host gets them only while a message of the server is
taken, at most one for a message, and then about a document that is open.
-/

namespace LanguageClient

/-- What the host is told of the document at a path. -/
inductive News where
  | diagnostics (path : Text) (items : List Diagnostic)
  | semanticTokens (path : Text) (tokens : List SemanticToken)
  deriving DecidableEq

def News.path : News → Text
  | .diagnostics path _ => path
  | .semanticTokens path _ => path

def Event.news? : Event Text → Option News
  | .diagnostics path items => some (.diagnostics path items)
  | .semanticTokens path tokens => some (.semanticTokens path tokens)
  | _ => none

def JournalEntry.news? : JournalEntry Text → Option News
  | .event told => told.news?
  | _ => none

namespace Session

/-- What the host was told of documents, in order. -/
def news (session : Session Text) : List News :=
  session.view JournalEntry.news?

variable {session before after next : Session Text}

/-! ## What tells nothing -/

theorem news_record (session : Session Text) (entry : JournalEntry Text) :
    (session.record entry).news = session.news ++ entry.news?.toList :=
  view_record _ session entry

theorem news_record_of_none (session : Session Text) {entry : JournalEntry Text}
    (nothing : entry.news? = none) : (session.record entry).news = session.news := by
  rw [news_record, nothing]
  exact List.append_nil _

theorem news_emit (session : Session Text) (event : Event Text) :
    (session.emit event).news = session.news ++ event.news?.toList :=
  news_record session (.event event)

theorem news_emit_of_none (session : Session Text) {event : Event Text}
    (nothing : event.news? = none) : (session.emit event).news = session.news :=
  news_record_of_none session nothing

theorem news_disconnect (session : Session Text) (timeout : Timeout) :
    (session.disconnect timeout).news = session.news := by
  unfold disconnect
  split
  · rfl
  · exact news_record_of_none _ rfl

theorem news_disable (session : Session Text) (reason : Text) :
    (session.disable reason).news = session.news :=
  ((news_emit_of_none _ rfl).trans (news_emit_of_none _ rfl)).trans
    (news_disconnect session .now)

theorem news_clearHover (session : Session Text) : session.clearHover.news = session.news := by
  simp only [clearHover]
  split
  · exact news_emit_of_none _ rfl
  · rfl

theorem news_clearHoverOn (session : Session Text) (path : Text) :
    (session.clearHoverOn path).news = session.news := by
  unfold clearHoverOn
  split
  · rfl
  · split
    · exact news_clearHover session
    · rfl

theorem news_scheduleHover (session : Session Text) (target : HoverTarget Text) :
    (session.scheduleHover target).2.news = session.news := by
  simp only [scheduleHover]
  split
  · exact news_emit_of_none _ rfl
  · rfl
  · rfl

theorem news_noteChange {path : Text} (noted : session.noteChange path = .ok next) :
    next.news = session.news := by
  obtain ⟨refresh, rfl⟩ := noteChange_eq_ok noted
  rfl

theorem news_expireHover {now : Moment} (expired : session.expireHover now = .ok next) :
    next.news = session.news := by
  rcases expireHover_eq_ok expired with rfl | rfl
  · rfl
  · exact (news_emit_of_none _ rfl).trans (news_emit_of_none _ rfl)

theorem news_updateSettings (session : Session Text) (settings : Json) :
    (session.updateSettings settings).2.news = session.news := by
  unfold updateSettings
  split
  · rfl
  · rfl

/-! ## Messages -/

variable [Host]

theorem news_logMessage (session : Session Text) (direction : Direction) (message : Json) :
    (session.logMessage direction message).news = session.news := by
  unfold logMessage
  split
  · exact news_emit_of_none session rfl
  · rfl

theorem news_said (session : Session Text) (server : Nat) (message : Json)
    (taken : Except Fault (List UInt8)) :
    (session.said server message taken).news = session.news :=
  (news_record_of_none _ rfl).trans (news_logMessage session .outgoing message)

theorem news_send (session : Session Text) (message : Json) :
    (session.send message).2.news = session.news := by
  have outcome := sending session message
  generalize session.send message = result at outcome ⊢
  cases outcome with
  | idle nobody => rfl
  | whole rest flushes running framed => exact news_said session _ message _
  | part rest flushes running isPart =>
      exact (news_disable _ _).trans (news_said session _ message _)
  | withheld fault running => exact news_said session _ message _

theorem news_request (session : Session Text) (method : Text) (params : Json)
    (context : RequestContext Text) :
    (session.request method params context).2.news = session.news :=
  news_send (session.noting context) _

/-! ## Documents -/

theorem news_confirmHandshake (session : Session Text) :
    session.confirmHandshake.2.news = session.news := by
  simp only [confirmHandshake]
  split
  · exact news_send _ _
  · rfl

theorem news_requestSemanticTokens (session : Session Text) (path : Text) :
    (session.requestSemanticTokens path).2.news = session.news := by
  unfold requestSemanticTokens
  split
  · rfl
  · exact news_request _ _ _ _

theorem news_requestHover (session : Session Text) (path : Text) (line col : Int) :
    (session.requestHover path line col).2.news = session.news := by
  unfold requestHover
  split
  · rfl
  · split
    · rfl
    · exact news_request _ _ _ _

theorem news_requestCompletion (session : Session Text) (path : Text) (line col : Int)
    (trigger : Text) (triggerKind : Int) :
    (session.requestCompletion path line col trigger triggerKind).2.news = session.news := by
  unfold requestCompletion
  split
  · rfl
  · split
    · rfl
    · split
      · rfl
      · next begun =>
        obtain ⟨now, rfl⟩ := startCompletion_eq_ok begun
        exact news_request _ _ _ _

theorem news_of_sent {documents : DocumentStore} {message : Json} {sent : Except Fault Bool}
    (outcome : { session with documents }.send message = (sent, next)) :
    next.news = session.news := by
  have told := news_send { session with documents } message
  rw [outcome] at told
  exact told

theorem news_didOpen (session : Session Text) (path text languageId : Text) :
    (session.didOpen path text languageId).2.news = session.news := by
  have outcome := opening session path text languageId
  generalize session.didOpen path text languageId = result at outcome ⊢
  cases outcome with
  | unsaid silent => rfl
  | unsent running opened failed unsent => exact news_of_sent failed
  | unconfirmed running opened sent withheld =>
      exact (news_confirmHandshake _).trans (news_of_sent sent)
  | told running opened sent confirmed =>
      exact ((news_requestSemanticTokens _ path).trans (news_confirmHandshake _)).trans
        (news_of_sent sent)

theorem news_didChange (session : Session Text) (path text : Text) :
    (session.didChange path text).2.news = session.news := by
  have outcome := changing session path text
  generalize session.didChange path text = result at outcome ⊢
  cases outcome with
  | unsaid silent => rfl
  | unsent running changed failed unsent => exact news_of_sent failed
  | unnoted running changed sent refused => exact news_of_sent sent
  | told running changed sent noted => exact (news_noteChange noted).trans (news_of_sent sent)

theorem news_didClose (session : Session Text) (path : Text) :
    (session.didClose path).2.news = session.news := by
  cases known : session.document? path with
  | none => rw [didClose_of_unknown known]
  | some document =>
      obtain ⟨refresh, same⟩ := didClose_eq known
      rw [same, news_send]
      exact news_clearHoverOn _ path

/-! ## Time, starts and stops -/

theorem news_tick (session : Session Text) : session.tick.2.news = session.news := by
  apply tick_keeps (motive := (·.news = session.news))
  · rfl
  · intro now _
    apply refreshDue_keeps (motive := (·.news = session.news)) rfl now
    · intro _ _ _
      rfl
    · intro asking path told
      exact (news_requestSemanticTokens asking path).trans told
  · intro waiting now told
    apply askDueHover_keeps (motive := (·.news = session.news)) told
    · intro _ _ _
      exact told
    · intro asking path line col told
      exact (news_requestHover asking path line col).trans told
  · intro waiting next now told expired
    exact (news_expireHover expired).trans told

theorem news_start (session : Session Text) (command root : Text) :
    (session.start command root).2.news = session.news := by
  have outcome := starting session command root
  generalize session.start command root = result at outcome ⊢
  cases outcome with
  | running running => rfl
  | failed nobody refused => exact (news_emit_of_none _ rfl).trans (news_record_of_none _ rfl)
  | brokenOff nobody broken => exact news_record_of_none _ rfl
  | @started process params nobody launched =>
      dsimp only
      rw [greeting, news_request]
      exact (news_emit_of_none _ rfl).trans (news_record_of_none session.reset rfl)

theorem news_stop (session : Session Text) : session.stop.2.news = session.news := by
  apply (stopping session).keeps (motive := (·.news = session.news)) rfl
  · intro _
    exact news_request session _ _ _
  · intro asking told
    exact (news_send asking _).trans told
  · intro connection ending running parting
    have said : ending.news = session.news := by
      cases parting with
      | unsent isPart => exact news_said session.leaving _ _ _
      | sent framed isPart => exact (news_said _ _ _ _).trans (news_said session.leaving _ _ _)
    exact ((news_emit_of_none _ rfl).trans (news_disconnect _ _)).trans said

/-- Only the taking of what a server has written tells the host of documents. -/
theorem news_perform (session : Session Text) {action : Action Text}
    (other : action ≠ .processAvailable) : (session.perform action).news = session.news := by
  cases action with
  | processAvailable => exact absurd rfl other
  | start command root => exact news_start session command root
  | stop => exact news_stop session
  | didOpen path text languageId => exact news_didOpen session path text languageId
  | didChange path text => exact news_didChange session path text
  | didClose path => exact news_didClose session path
  | requestSemanticTokens path => exact news_requestSemanticTokens session path
  | requestHover path line col => exact news_requestHover session path line col
  | requestCompletion path line col trigger triggerKind =>
      exact news_requestCompletion session path line col trigger triggerKind
  | scheduleHover target => exact news_scheduleHover session target
  | clearHover => exact news_clearHover session
  | tick => exact news_tick session
  | updateSettings settings => exact news_updateSettings session settings
  | arrive bytes =>
      simp only [perform, arrive]
      split
      · rfl
      · rfl
  | _ => rfl

end Session

end LanguageClient
