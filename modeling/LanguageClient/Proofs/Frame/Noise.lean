import LanguageClient.Proofs.Frame.Outcome

/-! # Frames behind noise

A server may write what is no frame: a banner, the rest of a message whose header was dropped, a
header cut short. Once the parser waits for a header again, none of this touches the frames
behind it. What is left of the noise becomes the front of the next header; it holds no end of a
header, none arises where the two meet, and the announcement that counts is the last one. A body
that holds no object goes with its own frame. Only a body that is nested too deep, or so long
that its length could not be read, takes the messages of the call with it.
-/

namespace LanguageClient

namespace Frame

variable [Limits]

/-- A body that feeding passes over in its frame. -/
structure Passable (body : List UInt8) : Prop where
  announceable : (Nat.toDigits 10 body.length).length ≤ maxIntegerDigits
  shallow : IsShallow body

theorem shallow_of_messageOf? {body : List UInt8} {message : Option Json}
    (read : FrameParser.messageOf? body = .ok message) : IsShallow body := by
  intro container deep
  rw [messageOf?_of_tooDeep deep] at read
  cases read

end Frame

namespace FrameParser

open LanguageClient.Frame

variable {noise body : List UInt8}

theorem append_wrap (noise body rest : List UInt8) :
    noise ++ (wrap body ++ rest) =
      (noise ++ announcement body.length) ++ (headerEnd ++ (body ++ rest)) := by
  simp only [wrap, header_eq, List.append_assoc]

section

variable [Limits]

/-- The frame of a body that can be passed over is taken, behind noise as without. -/
theorem drain_append_wrap (endless : ¬ headerEnd <:+: noise) (passable : Passable body)
    (rest : List UInt8) :
    drain ⟨⟨noise ++ (wrap body ++ rest)⟩, none⟩ =
      (drain ⟨⟨rest⟩, none⟩).prepend (objectIn? body).toList := by
  have isHead := isHead_append endless body.length
  have announces := announces_append passable.announceable noise
  have skims : Skims ⟨⟨noise ++ (wrap body ++ rest)⟩, none⟩
      (none.toList ++ ((objectIn? body).toList ++ [])) ⟨⟨rest⟩, none⟩ := by
    rw [append_wrap]
    exact .one (.header isHead announces) (.one (.body passable.shallow) (.nothing _))
  rw [skims.drain, Option.toList_none, List.nil_append, List.append_nil]

theorem drain_append_wrap_of_not_passable (endless : ¬ headerEnd <:+: noise)
    (impassable : ¬ Passable body) (rest : List UInt8) :
    ∃ cause, (drain ⟨⟨noise ++ (wrap body ++ rest)⟩, none⟩).result = .error cause := by
  have isHead := isHead_append endless body.length
  rw [append_wrap]
  by_cases short : (Nat.toDigits 10 body.length).length ≤ maxIntegerDigits
  · rcases shallow_or_tooDeep body with shallow | ⟨container, deep⟩
    · exact absurd ⟨short, shallow⟩ impassable
    · have announces := announces_append short noise
      exact ⟨_, congrArg Fed.result (drain_of_skims_trips
        (.one (.header isHead announces) (.nothing _)) (.body deep))⟩
  · have overlong := overlong_append (Nat.not_le.mp short) noise
    exact ⟨_, congrArg Fed.result (drain_of_fault (Trips.header isHead overlong).turn)⟩

theorem drain_append_frames {bodies : List (List UInt8)} (endless : ¬ headerEnd <:+: noise)
    (passable : ∀ body ∈ bodies, Passable body) :
    drain ⟨⟨noise ++ bodies.flatMap wrap⟩, none⟩ =
      ⟨.ok (bodies.filterMap objectIn?), ⟨⟨if bodies = [] then noise else []⟩, none⟩⟩ := by
  induction bodies generalizing noise with
  | nil =>
      rw [List.flatMap_nil, List.append_nil]
      exact drain_of_rest (Waits.header endless).turn
  | cons body bodies ih =>
      have later := @ih [] (by decide) fun other member =>
        passable other (List.mem_cons_of_mem body member)
      rw [List.nil_append] at later
      rw [List.flatMap_cons, drain_append_wrap endless (passable body List.mem_cons_self), later]
      cases held : objectIn? body <;> simp [Fed.prepend, Except.map, held]

theorem drain_append_frames_of_not_passable {bodies : List (List UInt8)}
    (endless : ¬ headerEnd <:+: noise) (member : body ∈ bodies) (impassable : ¬ Passable body) :
    ∃ cause, (drain ⟨⟨noise ++ bodies.flatMap wrap⟩, none⟩).result = .error cause := by
  induction bodies generalizing noise with
  | nil => exact absurd member List.not_mem_nil
  | cons first bodies ih =>
      rw [List.flatMap_cons]
      by_cases passable : Passable first
      · have later : body ∈ bodies := by
          cases List.mem_cons.mp member with
          | inl same => exact absurd (same ▸ passable) impassable
          | inr later => exact later
        obtain ⟨cause, faults⟩ := @ih [] (by decide) later
        rw [List.nil_append] at faults
        rw [drain_append_wrap endless passable]
        exact ⟨cause, Fed.result_prepend_eq_error_iff.mpr faults⟩
      · exact drain_append_wrap_of_not_passable endless passable _

/-- Frames behind noise that left the parser waiting for a header give the objects in their
    bodies, in order and behind the messages of the noise, and leave nothing; bodies without an
    object give nothing. If a body cannot be passed over the call faults instead. -/
theorem feed_behind_noise {messages : List Json} {parser : FrameParser}
    (fed : FrameParser.feed {} noise = ⟨.ok messages, parser⟩) (headless : parser.expected = none)
    (bodies : List (List UInt8)) :
    ((∀ body ∈ bodies, Passable body) →
      FrameParser.feed {} (noise ++ bodies.flatMap wrap) =
        ⟨.ok (messages ++ bodies.filterMap objectIn?), if bodies = [] then parser else {}⟩) ∧
    ((∃ body ∈ bodies, ¬ Passable body) →
      ∃ cause, (FrameParser.feed {} (noise ++ bodies.flatMap wrap)).result = .error cause) := by
  have settled : parser.turn = .rest := turn_of_feed fed
  obtain ⟨⟨left⟩, expected⟩ := parser
  obtain rfl : expected = none := headless
  have endless : ¬ headerEnd <:+: left := by
    cases waits_of_rest settled
    assumption
  have split : FrameParser.feed {} (noise ++ bodies.flatMap wrap) =
      (drain ⟨⟨left ++ bodies.flatMap wrap⟩, none⟩).prepend messages := feed_append fed _
  rw [split]
  constructor
  · intro passable
    rw [drain_append_frames endless passable]
    cases bodies <;> rfl
  · rintro ⟨body, member, impassable⟩
    obtain ⟨cause, faults⟩ := drain_append_frames_of_not_passable endless member impassable
    refine ⟨cause, ?_⟩
    rw [Fed.prepend, faults]
    rfl

end

open scoped Limits.Usual

/-- A header that is dropped and the body behind it, then a header cut short, then four frames:
    no JSON, no text, no object, and a message. -/
theorem feed_behind_orphan :
    FrameParser.feed {}
        (Text.encodeUtf8 "Content-Length: abc\r\n\r\n\x7b\"id\":9\x7dcontent-length: 7\r\n\r" ++
          [Text.encodeUtf8 "\x7boops", [0xFF], Text.encodeUtf8 "[1]",
            Text.encodeUtf8 "\x7b\"id\":1\x7d"].flatMap wrap) =
      ⟨.ok [.obj [("id", .int 1)]], {}⟩ := by
  have noise : FrameParser.feed {}
      (Text.encodeUtf8 "Content-Length: abc\r\n\r\n\x7b\"id\":9\x7dcontent-length: 7\r\n\r") =
      ⟨.ok [], ⟨⟨Text.encodeUtf8 "\x7b\"id\":9\x7dcontent-length: 7\r\n\r"⟩, none⟩⟩ := by
    with_unfolding_all rfl
  have passable : ∀ body ∈ [Text.encodeUtf8 "\x7boops", [0xFF], Text.encodeUtf8 "[1]",
      Text.encodeUtf8 "\x7b\"id\":1\x7d"], Passable body := by
    intro body member
    simp only [List.mem_cons, List.not_mem_nil, or_false] at member
    rcases member with rfl | rfl | rfl | rfl
    · exact ⟨by decide, @shallow_of_messageOf? _ _ none (by with_unfolding_all rfl)⟩
    · exact ⟨by decide, @shallow_of_messageOf? _ _ none (by with_unfolding_all rfl)⟩
    · exact ⟨by decide, @shallow_of_messageOf? _ _ none (by with_unfolding_all rfl)⟩
    · exact ⟨by decide, @shallow_of_messageOf? _ _ (some (.obj [("id", .int 1)]))
        (by with_unfolding_all rfl)⟩
  have objects : [Text.encodeUtf8 "\x7boops", [0xFF], Text.encodeUtf8 "[1]",
      Text.encodeUtf8 "\x7b\"id\":1\x7d"].filterMap objectIn? = [.obj [("id", .int 1)]] := by
    with_unfolding_all rfl
  have frames := (feed_behind_noise noise rfl _).1 passable
  rw [objects] at frames
  exact frames

/-! ## A body that is nested too deep -/

theorem length_nested (depth : Nat) :
    (Text.encodeChars (List.replicate depth '[')).length = depth := by
  have one : (Text.encodeChar '[').length = 1 := by decide
  rw [Text.encodeChars, List.length_flatMap, List.map_replicate, List.sum_replicate_nat, one]
  exact Nat.mul_one depth

section

variable [Limits]

/-- Reading stops at the first bracket that there is no room for, whatever comes behind. -/
theorem readOn_nested {around : List Json.Enclosing} {room : Nat}
    (fills : around.length + room = Limits.reading) (rest : List Char) :
    Json.readOn .value around (List.replicate (room + 1) '[' ++ rest) =
      .error (.nestedTooDeep .array) := by
  induction room generalizing around with
  | zero =>
      have full : ¬ around.length < Limits.reading := by omega
      rw [Json.readOn, List.replicate_one, List.singleton_append, Json.begins_leftBracket,
        Json.build_value, Json.Placed.opening]
      simp only [Json.Placed.start, full, ↓reduceIte]
  | succ room ih =>
      have shallow : around.length < Limits.reading := by omega
      have nested := @ih (.items [] :: around) (by rw [List.length_cons]; omega)
      have opens (text : List Char) :
          Json.Placed.start ⟨.leftBracket, text⟩ = .container .array := rfl
      rw [List.replicate_succ, List.cons_append,
        Json.readOn_container (Json.begins_leftBracket _) (opens _) shallow]
      rw [List.replicate_succ, List.cons_append] at nested ⊢
      exact (Json.readOn_firstItem (Json.begins_leftBracket _) (by simp)).trans nested

theorem tooDeep_nested {depth : Nat} (deep : Limits.reading < depth) :
    TooDeep (Text.encodeChars (List.replicate depth '[')) .array := by
  refine ⟨List.replicate depth '[', Text.decodeUtf8_encodeChars _, ?_⟩
  obtain ⟨rest, rfl⟩ : ∃ rest, depth = Limits.reading + 1 + rest := Nat.exists_eq_add_of_le deep
  have stopped := @readOn_nested _ [] Limits.reading (Nat.zero_add _) (List.replicate rest '[')
  rw [List.replicate_add]
  rw [List.replicate_succ, List.cons_append] at stopped ⊢
  unfold Json.read
  rw [Json.readOn] at stopped
  split
  · next mark => simp at mark
  · simp only [stopped]

/-- The call ends at such a body; what comes behind it is left for the next one. -/
theorem feed_tooDeep {body : List UInt8} {container : Json.Container}
    (announceable : (Nat.toDigits 10 body.length).length ≤ maxIntegerDigits)
    (deep : TooDeep body container) (rest : List UInt8) :
    FrameParser.feed {} (wrap body ++ rest) =
      ⟨.error (.nestedTooDeep container.name), ⟨⟨rest⟩, none⟩⟩ := by
  have trips := @Trips.body _ body rest container deep
  show drain ⟨⟨wrap body ++ rest⟩, none⟩ = _
  rw [wrap, List.append_assoc, drain_of_taken (turn_header announceable _),
    drain_of_fault trips.turn]
  rfl

end

/-- The message behind a body of so many open brackets is not taken in the same call. -/
theorem feed_nested :
    FrameParser.feed {} (wrap (Text.encodeChars (List.replicate 20000 '[')) ++
        wrap (Text.encodeUtf8 "\x7b\"id\":1\x7d")) =
      ⟨.error (.nestedTooDeep "array"), ⟨⟨wrap (Text.encodeUtf8 "\x7b\"id\":1\x7d")⟩, none⟩⟩ := by
  have announceable : (Nat.toDigits 10
      (Text.encodeChars (List.replicate 20000 '[')).length).length ≤ maxIntegerDigits := by
    rw [length_nested]
    decide
  exact feed_tooDeep announceable (tooDeep_nested (by decide)) _

end FrameParser

end LanguageClient
