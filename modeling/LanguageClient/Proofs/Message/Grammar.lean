import LanguageClient.Message.Envelope
import LanguageClient.Proofs.Trace
import Mathlib.Data.List.Range

/-! # The order in which things are said

By its envelope a message asks, tells or answers. A conversation begins with the handshake,
its requests are counted, the first document that is opened completes the handshake, and a
request to shut down is the last thing that is said before the order to exit. A conversation
that goes on in the steps that a client can take is in this order.
-/

namespace LanguageClient

/-- What a message is by its envelope. -/
inductive Utterance where
  | asks (id : Json) (method : Text)
  | tells (method : Text)
  | answers

namespace Utterance

def ofMessage (message : Json) : Utterance :=
  match message.get? "method", message.get? "id" with
  | none, _ => .answers
  | some method, none => .tells method.textOrEmpty
  | some method, some id => .asks id method.textOrEmpty

/-- The method of what is asked or told; empty for an answer. -/
def method : Utterance → Text
  | .asks _ method => method
  | .tells method => method
  | .answers => ""

/-- The identifier of a request. -/
def id? : Utterance → Option Json
  | .asks id _ => some id
  | _ => none

theorem ofMessage_request (id : Int) (method : Text) (params : Json) :
    ofMessage (Message.request id method params) = .asks (.int id) method := by
  cases params <;> rfl

theorem ofMessage_notification (method : Text) (params : Json) :
    ofMessage (Message.notification method params) = .tells method := by
  cases params <;> rfl

end Utterance

/-- What is said opens a document, and nothing before did. -/
def OpensFirst (before : List Utterance) (word : Utterance) : Prop :=
  word.method = "textDocument/didOpen" ∧
    ∀ earlier ∈ before, earlier.method ≠ "textDocument/didOpen"

/-- The order in which a client says things. -/
structure WellSpoken (said : List Utterance) : Prop where
  greets : ∀ first, said.head? = some first → first = .asks (.int 1) "initialize"
  numbers : ∃ asked, said.filterMap Utterance.id? =
    (List.range' 1 asked).map fun (number : Nat) => .int number
  confirmsOnce : said.countP (·.method == ("initialized" : Text)) ≤ 1
  confirms : ∀ (before : List Utterance) (word : Utterance) (after : List Utterance),
    said = before ++ word :: after → word.method = "initialized" →
    ∃ earlier opening, before = earlier ++ [opening] ∧ OpensFirst earlier opening
  followed : ∀ before opening next after, said = before ++ opening :: next :: after →
    OpensFirst before opening → next = .tells "initialized"
  leavesOnce : said.countP (·.method == ("shutdown" : Text)) ≤ 1
  leaves : ∀ (before : List Utterance) (word : Utterance) (after : List Utterance),
    said = before ++ word :: after → word.method = "shutdown" →
    after = [] ∨ after = [.tells "exit"]
  exits : ∀ (before : List Utterance) (word : Utterance) (after : List Utterance),
    said = before ++ word :: after → word.method = "exit" →
    ∃ id, before.getLast? = some (.asks id "shutdown")

/-- How far a conversation has come, with the number of requests. -/
inductive Stand where
  | silent
  | talking (asked : Nat) (confirmed : Bool)
  /-- The first document was opened just now. -/
  | opening (asked : Nat)
  | left (asked : Nat)
  | gone (asked : Nat)

/-- The methods that stand at certain places only. -/
def placedMethods : List Text :=
  ["textDocument/didOpen", "initialized", "shutdown", "exit"]

/-- What can be said next, and how far the conversation has come by then. -/
inductive Says : Stand → Utterance → Stand → Prop where
  | greets : Says .silent (.asks (.int 1) "initialize") (.talking 1 false)
  | asks {asked : Nat} {confirmed : Bool} {method : Text} (free : method ∉ placedMethods) :
      Says (.talking asked confirmed) (.asks (.int ↑(asked + 1)) method)
        (.talking (asked + 1) confirmed)
  | tells {asked : Nat} {confirmed : Bool} {method : Text} (free : method ∉ placedMethods) :
      Says (.talking asked confirmed) (.tells method) (.talking asked confirmed)
  | answers {asked : Nat} {confirmed : Bool} :
      Says (.talking asked confirmed) .answers (.talking asked confirmed)
  | opens {asked : Nat} :
      Says (.talking asked false) (.tells "textDocument/didOpen") (.opening asked)
  | confirms {asked : Nat} : Says (.opening asked) (.tells "initialized") (.talking asked true)
  | reopens {asked : Nat} :
      Says (.talking asked true) (.tells "textDocument/didOpen") (.talking asked true)
  | leaves {asked : Nat} {confirmed : Bool} :
      Says (.talking asked confirmed) (.asks (.int ↑(asked + 1)) "shutdown") (.left (asked + 1))
  | exits {asked : Nat} : Says (.left asked) (.tells "exit") (.gone asked)

namespace Stand

def asked : Stand → Nat
  | .silent => 0
  | .talking asked _ => asked
  | .opening asked => asked
  | .left asked => asked
  | .gone asked => asked

/-- The conversation can still have its first document opened. -/
def isUnopened : Stand → Bool
  | .silent => true
  | .talking _ confirmed => !confirmed
  | _ => false

/-- A document was opened, and the conversation goes on. -/
def isOpened : Stand → Bool
  | .talking _ confirmed => confirmed
  | .opening _ => true
  | _ => false

def isUnconfirmed : Stand → Bool
  | .opening _ => true
  | stand => stand.isUnopened

def isStaying : Stand → Bool
  | .left _ => false
  | .gone _ => false
  | _ => true

end Stand

/-- A conversation from its beginning. -/
abbrev Conversation : List Utterance → Stand → Prop := Trace Says .silent

namespace Conversation

variable {said : List Utterance} {stand : Stand}

theorem greets (conversation : Conversation said stand) {first : Utterance}
    (isFirst : said.head? = some first) : first = .asks (.int 1) "initialize" := by
  cases said with
  | nil => exact absurd isFirst nofun
  | cons word rest =>
      obtain rfl := Option.some.inj isFirst
      obtain ⟨next, step, _⟩ := Trace.of_cons conversation
      cases step with
      | greets => rfl

theorem numbers (conversation : Conversation said stand) :
    said.filterMap Utterance.id? =
      (List.range' 1 stand.asked).map fun (number : Nat) => .int number := by
  induction conversation with
  | nil => rfl
  | snoc before last ih =>
      have counted (asked : Nat) :
          (List.range' 1 (asked + 1)).map (fun (number : Nat) => Json.int number) =
            (List.range' 1 asked).map (fun (number : Nat) => Json.int number) ++
              [.int ↑(asked + 1)] := by
        rw [List.range'_concat, List.map_append, Nat.one_mul, Nat.add_comm 1]
        rfl
      rw [List.filterMap_append, ih]
      cases last with
      | greets => rfl
      | asks free => exact (counted _).symm
      | leaves => exact (counted _).symm
      | tells free => exact List.append_nil _
      | answers => exact List.append_nil _
      | opens => exact List.append_nil _
      | confirms => exact List.append_nil _
      | reopens => exact List.append_nil _
      | exits => exact List.append_nil _

/-! ## The first document -/

theorem ne_of_free {method other : Text} (free : method ∉ placedMethods)
    (placed : other ∈ placedMethods) : method ≠ other := by
  rintro rfl
  exact free placed

theorem not_opens_of_isUnopened (conversation : Conversation said stand)
    (unopened : stand.isUnopened = true) :
    ∀ word ∈ said, word.method ≠ "textDocument/didOpen" := by
  induction conversation with
  | nil => exact nofun
  | snoc before last ih =>
      intro word member
      rcases List.mem_append.mp member with earlier | isLast
      · refine ih ?_ word earlier
        cases last with
        | greets => rfl
        | asks free => exact unopened
        | tells free => exact unopened
        | answers => exact unopened
        | _ => exact absurd unopened nofun
      · obtain rfl := List.mem_singleton.mp isLast
        cases last with
        | greets => decide
        | asks free => exact ne_of_free free (by decide)
        | tells free => exact ne_of_free free (by decide)
        | answers => decide
        | _ => exact absurd unopened nofun

theorem opens_of_isOpened (conversation : Conversation said stand)
    (opened : stand.isOpened = true) : ∃ word ∈ said, word.method = "textDocument/didOpen" := by
  induction conversation with
  | nil => exact absurd opened nofun
  | @snoc seen state next shown before last ih =>
      have earlier (already : state.isOpened = true) :
          ∃ word ∈ seen ++ [shown], word.method = "textDocument/didOpen" := by
        obtain ⟨word, member, opens⟩ := ih already
        exact ⟨word, List.mem_append_left _ member, opens⟩
      cases last with
      | greets => exact absurd opened nofun
      | asks free => exact earlier opened
      | tells free => exact earlier opened
      | answers => exact earlier opened
      | confirms => exact earlier rfl
      | reopens => exact earlier rfl
      | opens => exact ⟨_, List.mem_append_right _ (List.mem_singleton.mpr rfl), rfl⟩
      | _ => exact absurd opened nofun

theorem count_initialized (conversation : Conversation said stand) :
    said.countP (·.method == ("initialized" : Text)) ≤ if stand.isUnconfirmed then 0 else 1 := by
  induction conversation with
  | nil => exact le_refl 0
  | @snoc seen state next shown before last ih =>
      have silent (other : shown.method ≠ "initialized") :
          [shown].countP (·.method == ("initialized" : Text)) = 0 := by
        simpa using other
      rw [List.countP_append]
      cases last with
      | greets => rw [silent (by decide)]; exact ih
      | asks free => rw [silent (ne_of_free free (by decide))]; exact ih
      | tells free => rw [silent (ne_of_free free (by decide))]; exact ih
      | answers => rw [silent (by decide)]; exact ih
      | opens => rw [silent (by decide)]; exact ih
      | reopens => rw [silent (by decide)]; exact ih
      | exits => rw [silent (by decide)]; exact ih
      | @leaves asked confirmed =>
          rw [silent (by simp [Utterance.method])]
          cases confirmed with
          | false => exact le_trans ih (Nat.zero_le 1)
          | true => exact ih
      | confirms => exact Nat.add_le_add_right ih 1

theorem confirms {before after : List Utterance} {word : Utterance}
    (conversation : Conversation (before ++ word :: after) stand)
    (confirms : word.method = "initialized") :
    ∃ earlier opening, before = earlier ++ [opening] ∧ OpensFirst earlier opening := by
  obtain ⟨previous, next, reached, step, _⟩ := Trace.of_split conversation
  cases step with
  | asks free => exact absurd confirms (ne_of_free free (by decide))
  | tells free => exact absurd confirms (ne_of_free free (by decide))
  | confirms =>
      cases reached with
      | snoc earlier last =>
          cases last with
          | opens => exact ⟨_, _, rfl, rfl, not_opens_of_isUnopened earlier rfl⟩
  | _ => simp [Utterance.method] at confirms

theorem followed {before after : List Utterance} {opening next : Utterance}
    (conversation : Conversation (before ++ opening :: next :: after) stand)
    (first : OpensFirst before opening) : next = .tells "initialized" := by
  obtain ⟨opens, unopened⟩ := first
  obtain ⟨previous, middle, reached, step, rest⟩ := Trace.of_split conversation
  obtain ⟨_, follows, _⟩ := Trace.of_cons rest
  cases step with
  | asks free => exact absurd opens (ne_of_free free (by decide))
  | tells free => exact absurd opens (ne_of_free free (by decide))
  | opens =>
      cases follows with
      | confirms => rfl
  | reopens =>
      obtain ⟨word, member, opens⟩ := opens_of_isOpened reached rfl
      exact absurd opens (unopened word member)
  | _ => simp [Utterance.method] at opens

/-! ## The end -/

theorem count_shutdown (conversation : Conversation said stand) :
    said.countP (·.method == ("shutdown" : Text)) = if stand.isStaying then 0 else 1 := by
  induction conversation with
  | nil => rfl
  | @snoc seen state next shown before last ih =>
      have silent (other : shown.method ≠ "shutdown") :
          [shown].countP (·.method == ("shutdown" : Text)) = 0 := by
        simpa using other
      rw [List.countP_append, ih]
      cases last with
      | greets => rw [silent (by decide)]; rfl
      | asks free => rw [silent (ne_of_free free (by decide))]; rfl
      | tells free => rw [silent (ne_of_free free (by decide))]; rfl
      | answers => rw [silent (by decide)]; rfl
      | opens => rw [silent (by decide)]; rfl
      | confirms => rw [silent (by decide)]; rfl
      | reopens => rw [silent (by decide)]; rfl
      | exits => rw [silent (by decide)]; rfl
      | leaves => rfl

theorem eq_of_left {asked : Nat} {after : List Utterance}
    (rest : Trace Says (.left asked) after stand) : after = [] ∨ after = [.tells "exit"] := by
  cases after with
  | nil => exact .inl rfl
  | cons word after =>
      obtain ⟨next, step, rest⟩ := rest.of_cons
      cases step with
      | exits =>
          cases after with
          | nil => exact .inr rfl
          | cons word after =>
              obtain ⟨_, beyond, _⟩ := rest.of_cons
              exact nomatch beyond

theorem leaves {before after : List Utterance} {word : Utterance}
    (conversation : Conversation (before ++ word :: after) stand)
    (leaves : word.method = "shutdown") : after = [] ∨ after = [.tells "exit"] := by
  obtain ⟨previous, next, _, step, rest⟩ := Trace.of_split conversation
  cases step with
  | asks free => exact absurd leaves (ne_of_free free (by decide))
  | tells free => exact absurd leaves (ne_of_free free (by decide))
  | leaves => exact eq_of_left rest
  | _ => simp [Utterance.method] at leaves

theorem exits {before after : List Utterance} {word : Utterance}
    (conversation : Conversation (before ++ word :: after) stand)
    (exits : word.method = "exit") : ∃ id, before.getLast? = some (.asks id "shutdown") := by
  obtain ⟨previous, next, reached, step, _⟩ := Trace.of_split conversation
  cases step with
  | asks free => exact absurd exits (ne_of_free free (by decide))
  | tells free => exact absurd exits (ne_of_free free (by decide))
  | exits =>
      cases reached with
      | snoc earlier last =>
          cases last with
          | leaves => exact ⟨_, List.getLast?_concat⟩
  | _ => simp [Utterance.method] at exits

theorem wellSpoken (conversation : Conversation said stand) : WellSpoken said where
  greets _ isFirst := conversation.greets isFirst
  numbers := ⟨_, conversation.numbers⟩
  confirmsOnce := by
    refine le_trans conversation.count_initialized ?_
    split
    · exact Nat.zero_le 1
    · exact le_refl 1
  confirms := by
    rintro before word after rfl isConfirming
    exact conversation.confirms isConfirming
  followed := by
    rintro before opening next after rfl first
    exact conversation.followed first
  leavesOnce := by
    rw [conversation.count_shutdown]
    split
    · exact Nat.zero_le 1
    · exact le_refl 1
  leaves := by
    rintro before word after rfl isLeaving
    exact conversation.leaves isLeaving
  exits := by
    rintro before word after rfl isExit
    exact conversation.exits isExit

end Conversation

end LanguageClient
