import LanguageClient.Proofs.Session.Success
import LanguageClient.Proofs.Workspace.Attach

/-! # What is left of a refusal

A workspace that refuses to show a file lets nothing come of it, as long as it sees to that
before it counts the editor. Once the editor is counted it stays so: where the server does not
take the file, where the file is open under another spelling of its path, and where the editor
shows the file already, which the session has lost.
-/

namespace LanguageClient.Workspace

open Session (grows_of_turns)

variable {workspace next : Workspace Text} {key editor path text : Text}
  {language : Language} [Host]

/-- The editor shows nothing, and no file is counted for it. -/
structure Absent (workspace : Workspace Text) (editor : Text) : Prop where
  unattached : workspace.pathFor? editor = none
  uncounted : ∀ path,
    (workspace.editorsOf path \ {Text.strip editor}).encard = workspace.countOf path

/-- The editor shows the file, and the opening of it was the last that was written. It did not
    come through, and the server was given up. -/
structure CutOff (before : Workspace Text) (editor path text : Text)
    (after : Workspace Text) : Prop where
  attached : after.pathFor? editor = some path
  idle : after.session.isRunning = false
  written : ∃ language server earlier taken,
    Languages.forPath? before.languages path = some language ∧
    before.session.writings <+: earlier ∧
    Transport.IsPart (Message.notification "textDocument/didOpen"
      (DocumentStore.openParams (.opened path text language.name))) taken ∧
    after.session.writings = earlier ++ [⟨server, Message.notification "textDocument/didOpen"
      (DocumentStore.openParams (.opened path text language.name)), .ok taken⟩]

/-- What is left where an editor was refused a file. -/
inductive Refusal (before : Workspace Text) (editor path text : Text) :
    Workspace Text → Prop where
  | absent {after : Workspace Text} (absent : after.Absent editor) :
      Refusal before editor path text after
  | lost (lost : before.Lost editor path) : Refusal before editor path text before
  | masked {after : Workspace Text} {language : Language}
      (spoken : Languages.forPath? before.languages path = some language)
      (masked : before.Masked editor path language.command)
      (attached : after.pathFor? editor = some path) : Refusal before editor path text after
  | cutOff {after : Workspace Text} (cutOff : before.CutOff editor path text after) :
      Refusal before editor path text after

theorem Sound.absent (sound : workspace.Sound) (unattached : workspace.pathFor? editor = none) :
    workspace.Absent editor where
  unattached := unattached
  uncounted path := by
    have other : Text.strip editor ∉ workspace.editorsOf path := by
      intro found
      exact absurd (unattached.symm.trans found) nofun
    rw [Set.sdiff_singleton_eq_self other, countOf, sound.tally.count_eq]
    exact sound.tally.encard_eq path

/-! ## Editors have names -/

/-- No editor without a name shows a file. -/
def Unnamed (workspace : Workspace Text) : Prop :=
  Table.get? workspace.editors "" = none

theorem Detaching.unnamed {outcome : Except Fault Unit × Workspace Text}
    (detaching : Detaching workspace editor outcome) (unnamed : workspace.Unnamed) :
    outcome.2.Unnamed := by
  have removed (key : Text) : Table.get? (Table.remove workspace.editors key) "" = none := by
    by_cases same : "" = key
    · rw [same]
      exact Table.get?_remove_self _ _
    · rw [Table.get?_remove_of_ne same]
      exact unnamed
  cases detaching with
  | unknown absent => exact unnamed
  | hidden found others => exact removed _
  | unclosed found last withheld => exact removed _
  | closed found last => exact removed _

theorem unnamed_place (unnamed : workspace.Unnamed) (named : key ≠ "") (path text : Text)
    (language : Language) : (workspace.place key path text language).2.Unnamed := by
  have put : Table.get? (Table.put workspace.editors key path) "" = none := by
    rw [Table.get?_put_of_ne (Ne.symm named)]
    exact unnamed
  simp only [place]
  split
  · exact put
  · exact put

theorem attach_of_nameless (nameless : Text.strip editor = "") (path text : Text) :
    workspace.attach editor path text = (.ok false, workspace) := by
  simp [attach, nameless]

theorem unnamed_attach (sound : workspace.Sound) (unnamed : workspace.Unnamed)
    (editor path text : Text) : (workspace.attach editor path text).2.Unnamed := by
  by_cases named : Text.strip editor = ""
  · rw [attach_of_nameless named]
    exact unnamed
  · have hides := detaching workspace editor
    have still := hides.unnamed unnamed
    have outcome := attaching workspace editor path text
    generalize workspace.attach editor path text = result at outcome ⊢
    cases outcome with
    | nameless blank => exact unnamed
    | again known => exact unnamed
    | unhidden other stuck => exact still
    | anew other hidden =>
        have sounds := hides.sound sound
        have outcome := showing (workspace.detach editor).2 (Text.strip editor) path text
        generalize (workspace.detach editor).2.showNew (Text.strip editor) path text = shown
          at outcome ⊢
        cases outcome with
        | unserved => exact still
        | refused ensuring unserved => exact ensuring.absent sounds still
        | placed spoken served ensuring =>
            exact unnamed_place (ensuring.absent sounds still) named path text _

theorem Reachable.unnamed (reachable : Reachable workspace) : workspace.Unnamed := by
  induction reachable with
  | fresh processId folder root languages => rfl
  | @perform workspace before action unnamed =>
      have outcome := performing workspace action
      generalize workspace.perform action = next at outcome ⊢
      cases outcome with
      | attach editor path text => exact unnamed_attach before.sound unnamed editor path text
      | detach editor => exact (detaching workspace editor).unnamed unnamed
      | relayed relaying => exact unnamed
      | clearAllDiagnostics => exact unnamed
      | shutdown => rfl
      | around action ambient => exact unnamed

/-! ## Refusals -/

/-- A file that is refused once its editor is counted is open already, though no editor shows
    it under this path, or the opening of it was cut off. -/
theorem place_refused (sound : workspace.Sound) (named : Uri.ofPath path ≠ "")
    (running : workspace.session.isRunning = true)
    (refused : (workspace.place key path text language).1 = .ok false) :
    Table.get? (workspace.place key path text language).2.editors key = some path ∧
      (workspace.isShown path = false ∧ workspace.session.documents.isOpen path = true ∨
        ∃ server, Session.CutShort server workspace.session []
          (Message.notification "textDocument/didOpen"
            (DocumentStore.openParams (.opened path text language.name)))
          (workspace.place key path text language).2.session) := by
  simp only [place] at refused ⊢
  split at refused
  · obtain ⟨_, _, isFalse⟩ := ok_of_map refused
    cases isFalse
  · next unchanged =>
    rw [if_neg unchanged]
    refine ⟨Table.get?_put_self _ _ _, ?_⟩
    cases isOpen : workspace.session.documents.isOpen path with
    | true =>
        refine .inl ⟨?_, rfl⟩
        rw [← Bool.not_eq_true]
        intro shown
        have counted : workspace.countOf path > 0 := sound.tally.count_pos shown
        exact unchanged (by simp [counted, isOpen])
    | false =>
        exact .inr (Session.cutShort_of_didOpen named isOpen running refused)

/-- Where an editor is refused a file, nothing is left of it, with three exceptions in which it
    shows that file from then on: it showed the file before, which the session has lost; the file
    is open under another spelling of its path; or the server did not take the opening of the
    file. -/
theorem refusal_of_attach (reachable : Reachable workspace)
    (refused : (workspace.attach editor path text).1 = .ok false) :
    Refusal workspace editor path text (workspace.attach editor path text).2 := by
  have sound := reachable.sound
  have outcome := attaching workspace editor path text
  generalize workspace.attach editor path text = result at outcome refused ⊢
  cases outcome with
  | nameless blank =>
      refine .absent (sound.absent ?_)
      rw [pathFor?, blank]
      exact reachable.unnamed
  | again known => exact .lost ⟨known, Except.ok.inj refused⟩
  | unhidden other stuck => cases refused
  | anew other hidden =>
      have hides := detaching workspace editor
      have sounds := hides.sound sound
      have outcome := showing (workspace.detach editor).2 (Text.strip editor) path text
      generalize (workspace.detach editor).2.showNew (Text.strip editor) path text = shown
        at outcome refused ⊢
      cases outcome with
      | unserved => exact .absent (sounds.absent hides.absent)
      | refused ensuring unserved =>
          exact .absent ((ensuring.sound sounds).absent (ensuring.absent sounds hides.absent))
      | @placed language hosting spoken served ensuring =>
          obtain ⟨running, kept⟩ := ensuring.served sounds.backed rfl
          obtain ⟨attached, left⟩ :=
            place_refused (ensuring.sound sounds) (Uri.ofPath_ne_empty spoken) running refused
          rw [detach_languages] at spoken
          rcases left with ⟨unshown, isOpen⟩ | ⟨server, broke⟩
          · rcases kept with ⟨same, rfl⟩ | nothing
            · exact .masked spoken ⟨other, same, unshown, isOpen⟩ attached
            · rw [show hosting.session.documents = {} from nothing] at isOpen
              exact absurd isOpen Bool.false_ne_true
          · obtain ⟨taken, isPart, written⟩ := broke.written
            have grows := (grows_of_turns (turns_of_plains hides.plains)).trans
              (grows_of_turns (turns_of_plains ensuring.plains))
            rw [List.map_nil, List.append_nil] at written
            exact .cutOff ⟨attached, broke.idle,
              language, server, _, taken, spoken, grows.writings, isPart, written⟩

end LanguageClient.Workspace

open scoped LanguageClient.Host.Bare

namespace LanguageClient.Workspace

/-! ## A server that takes nothing any more -/

/-- One editor shows a file, of which the server takes no more messages. -/
def jammed : Workspace Text :=
  (perform
    { session := { processId := 1, folder := "/home" }, root := "proj", languages := [python] }
    (.attach "left" "a.py" "x")).perform (.around (.takeWritesAs [.fails] []) rfl)

theorem reachable_jammed : Reachable jammed :=
  ((Reachable.fresh 1 "/home" "proj" [python]).perform _).perform _

theorem state_jammed :
    (jammed.attach "right" "b.py" "y").1 = .ok false ∧
      (jammed.attach "right" "b.py" "y").2.pathFor? "right" = some "b.py" ∧
      (jammed.attach "right" "b.py" "y").2.countOf "b.py" = 1 ∧
      jammed.pathFor? "right" = none ∧
      jammed.session.documents.isOpen "b.py" = false := by
  decide +kernel

/-- Another editor is refused its file because the opening of it was cut off. -/
theorem cutOff_jammed :
    jammed.CutOff "right" "b.py" "y" (jammed.attach "right" "b.py" "y").2 := by
  obtain ⟨refused, attached, _, unattached, closed⟩ := state_jammed
  have left := refusal_of_attach reachable_jammed refused
  generalize (jammed.attach "right" "b.py" "y").2 = after at left attached ⊢
  cases left with
  | absent absent => exact absurd (absent.unattached.symm.trans attached) nofun
  | lost lost => exact absurd (unattached.symm.trans lost.1) nofun
  | masked spoken masked _ =>
      have isOpen := masked.2.2.2
      rw [detach_of_unknown unattached] at isOpen
      exact absurd (closed.symm.trans isOpen) nofun
  | cutOff cutOff => exact cutOff

/-- It is refused, and yet it shows the file, which is counted for it. -/
theorem refused_jammed :
    Reachable jammed ∧ (jammed.attach "right" "b.py" "y").1 = .ok false ∧
      (jammed.attach "right" "b.py" "y").2.pathFor? "right" = some "b.py" ∧
      (jammed.attach "right" "b.py" "y").2.countOf "b.py" = 1 := by
  obtain ⟨refused, attached, counted, _⟩ := state_jammed
  exact ⟨reachable_jammed, refused, attached, counted⟩

end LanguageClient.Workspace
