import LanguageClient.Proofs.Path.Names
import LanguageClient.Proofs.Settings.Copying
import LanguageClient.Proofs.Settings.Unfit
import LanguageClient.Settings.Store

/-! # Settings files that end the start

A settings file that cannot be read, is no JSON or holds no object is left alone. Of those that
are used, some end the start: one that is nested too deep to be read or to be copied, and one
whose settings for a session no session can take.
-/

namespace LanguageClient.Settings

/-! ## The settings of a session in merged settings -/

theorem sessionIn_obj (entries : Json.Entries) :
    sessionIn (.obj entries) = SessionSettings.ofJson (.obj entries) := by
  rw [sessionIn, entriesIn_obj]
  rfl

theorem once_timings : (Table.keys (SessionSettings.toEntries {})).Nodup := by
  decide

/-- The default timings are within all bounds, so that laying settings over them brings none
    beyond. -/
theorem isEndlessIn_mergeEntries {rule : TimingRule} (isTiming : rule ∈ SessionSettings.timings)
    (entries : Json.Entries) :
    rule.isEndlessIn (.obj (mergeEntries entries (SessionSettings.toEntries {}))) =
      rule.isEndlessIn (.obj entries) := by
  have default : ∃ number, Table.get? (SessionSettings.toEntries {}) rule.name =
      some (.int number) := by
    simp only [SessionSettings.timings, List.mem_cons, List.not_mem_nil, or_false] at isTiming
    rcases isTiming with rfl | rfl | rfl | rfl
    · exact ⟨_, rfl⟩
    · exact ⟨_, rfl⟩
    · exact ⟨_, rfl⟩
    · exact ⟨_, rfl⟩
  obtain ⟨number, default⟩ := default
  have merged : (Json.obj (mergeEntries entries (SessionSettings.toEntries {}))).get? rule.name =
      layered false ((Json.obj entries).get? rule.name) (some (.int number)) :=
    (get?_mergeEntries once_timings rule.name).trans (congrArg _ default)
  rw [TimingRule.isEndlessIn, TimingRule.isEndlessIn, merged]
  cases (Json.obj entries).get? rule.name with
  | none => rfl
  | some value => cases value <;> rfl

/-- The settings of a session lie over the default ones when an editor loads them. -/
theorem field_merge (entries : Json.Entries) :
    (Json.obj (merge entries defaults ["languages"])).field "lsp" =
      match (Json.obj entries).get? "lsp" with
      | none => SessionSettings.toJson {}
      | some value => mergeValue value (SessionSettings.toJson {}) := by
  have once : (Table.keys defaults).Nodup := by decide
  have merged : (Json.obj (merge entries defaults ["languages"])).get? "lsp" =
      layered false ((Json.obj entries).get? "lsp") (some (SessionSettings.toJson {})) :=
    get?_merge once "lsp"
  rw [Json.field, merged]
  cases (Json.obj entries).get? "lsp" with
  | none => rfl
  | some value => rfl

theorem not_unfit_of_taken {value : Json} {session : SessionSettings}
    (taken : sessionIn value = .ok session) : ¬Unfit value := by
  rw [← sessionIn_refused_iff, taken]
  rintro ⟨fault, refused⟩
  cases refused

/-- Settings that no session can take stay so when they are laid over the defaults, and no
    others become so. -/
theorem unfit_merge_iff (entries : Json.Entries) :
    Unfit ((Json.obj (merge entries defaults ["languages"])).field "lsp") ↔
      Unfit ((Json.obj entries).field "lsp") := by
  rw [field_merge, Json.field]
  cases (Json.obj entries).get? "lsp" with
  | none => exact iff_of_false (not_unfit_of_taken rfl) (not_unfit_of_taken rfl)
  | some value =>
      cases value with
      | obj set =>
          have laid : mergeValue (.obj set) (SessionSettings.toJson {}) =
              .obj (mergeEntries set (SessionSettings.toEntries {})) := by
            rw [SessionSettings.toJson, mergeValue]
          dsimp only [Option.getD_some]
          rw [laid, ← sessionIn_refused_iff, ← sessionIn_refused_iff, sessionIn_obj, sessionIn_obj,
            SessionSettings.ofJson_refused_iff, SessionSettings.ofJson_refused_iff]
          exact exists_congr fun rule => and_congr_right fun isTiming => by
            rw [isEndlessIn_mergeEntries isTiming]
      | _ => exact Iff.rfl

theorem unrepeated_languageEntry (name : Text) (suffixes : List Text) (command : Text) :
    (languageEntry name suffixes command).2.Unrepeated := by
  rw [languageEntry]
  split
  · exact Json.unrepeated_of_flat (by simp [Table.keys]) (by simp [Json.isObj])
  · exact Json.unrepeated_of_flat (by simp [Table.keys]) (by simp [Json.isObj])

theorem unrepeated_defaults : (Json.obj defaults).Unrepeated := by
  refine Json.unrepeated_obj (by decide) ?_
  simp only [defaults, List.forall_mem_cons, List.not_mem_nil, false_implies, implies_true,
    and_true]
  refine ⟨Json.unrepeated_obj (by decide) ?_, Json.unrepeated_of_flat (by decide) (by decide)⟩
  simp [defaultLanguages, unrepeated_languageEntry]

/-! ## Files -/

/-- The first file that is found is one of the places that are searched. -/
theorem isFile_of_firstExisting? {source : FileSource} {places : List Text} {place : Text}
    (found : firstExisting? source places = .ok (some place)) :
    place ∈ places ∧ source.isFile place = .ok true := by
  induction places with
  | nil => cases found
  | cons first rest ih =>
      unfold firstExisting? at found
      split at found
      · cases found
      · next isFile =>
        cases found
        exact ⟨List.mem_cons_self, isFile⟩
      · obtain ⟨member, isFile⟩ := ih found
        exact ⟨List.mem_cons_of_mem _ member, isFile⟩

theorem isUsable_of_isFile {source : FileSource} {place : Text}
    (isFile : source.isFile place = .ok true) : Path.isUsable place = true := by
  by_contra unusable
  unfold FileSource.isFile at isFile
  split at isFile
  · cases isFile
  · rw [FileSource.exists?, if_pos (by simpa using unusable)] at isFile
    cases isFile

/-- The places that are searched are tidy: each was joined to the name of the file. -/
theorem tidy_candidate {whereabouts : Whereabouts} {place : Text}
    (candidate : place ∈ candidates whereabouts) : Path.tidy place = place := by
  have joined : ∃ path below, place = Path.join path below ∧ Path.names below ≠ [] := by
    simp only [candidates, List.mem_append, List.mem_singleton] at candidate
    rcases candidate with (rfl | candidate) | rfl
    · exact ⟨_, _, rfl, by decide +kernel⟩
    · split at candidate
      · cases candidate
      · rw [List.mem_singleton] at candidate
        exact ⟨_, _, candidate, by decide +kernel⟩
    · exact ⟨_, _, rfl, by decide +kernel⟩
  obtain ⟨path, below, rfl, named⟩ := joined
  exact Path.tidy_join path named

variable [Limits]

/-- The JSON in the bytes of a file, if they are text. -/
def written (bytes : List UInt8) : Option (Except Json.ReadFault Json) :=
  (Text.decodeUtf8 bytes).toOption.map fun text => Json.read (Text.unifyNewlines text)

/-- A settings file that ends the start: one that is nested too deep, or an object that cannot be
    copied or holds settings that no session can take. -/
inductive Breaks (bytes : List UInt8) : Prop where
  | nested {container : Json.Container}
      (nested : written bytes = some (.error (.nestedTooDeep container)))
  | deep {entries : Json.Entries} (read : written bytes = some (.ok (.obj entries)))
      (deep : Limits.copying < copyCalls (.obj entries))
  | unfit {entries : Json.Entries} (read : written bytes = some (.ok (.obj entries)))
      (unfit : Unfit ((Json.obj entries).field "lsp"))

/-- A file that holds an object ends the start only by what is in the object. -/
theorem breaks_iff_of_object {bytes : List UInt8} {entries : Json.Entries}
    (read : written bytes = some (.ok (.obj entries))) :
    Breaks bytes ↔
      Limits.copying < copyCalls (.obj entries) ∨ Unfit ((Json.obj entries).field "lsp") := by
  constructor
  · intro breaks
    cases breaks with
    | nested nested => cases read.symm.trans nested
    | deep other deep =>
        cases read.symm.trans other
        exact .inl deep
    | unfit other unfit =>
        cases read.symm.trans other
        exact .inr unfit
  · rintro (deep | unfit)
    · exact .deep read deep
    · exact .unfit read unfit

/-- What reading a settings file comes to. -/
inductive Reading (bytes : List UInt8) :
    Except Fault (Json.Entries × Option StoreFault) → Prop where
  | nested {container : Json.Container}
      (nested : written bytes = some (.error (.nestedTooDeep container))) :
      Reading bytes (.error (.nestedTooDeep container.name))
  | object {entries : Json.Entries} (read : written bytes = some (.ok (.obj entries))) :
      Reading bytes (.ok (entries, none))
  | useless {fault : StoreFault}
      (noObject : ∀ entries, written bytes ≠ some (.ok (.obj entries)))
      (shallow : ∀ container, written bytes ≠ some (.error (.nestedTooDeep container))) :
      Reading bytes (.ok ([], some fault))

theorem reading_readFile {source : FileSource} {place : Text} {bytes : List UInt8}
    (content : source place = .ok bytes) : Reading bytes (readFile source place) := by
  unfold readFile FileSource.readText
  rw [content]
  dsimp only
  cases decoded : Text.decodeUtf8 bytes with
  | error fault =>
      have none : written bytes = none := by
        rw [written, decoded]
        rfl
      exact .useless (by simp [none]) (by simp [none])
  | ok text =>
      have some : written bytes = some (Json.read (Text.unifyNewlines text)) := by
        rw [written, decoded]
        rfl
      dsimp only
      split
      · next container read => exact .nested (by rw [some, read])
      · next fault shallow read =>
        refine .useless (by simp [some, read]) fun container nested => ?_
        rw [some, read] at nested
        exact shallow container (Except.error.inj (Option.some.inj nested))
      · next entries read => exact .object (by rw [some, read])
      · next other noObject read =>
        refine .useless (fun entries isObject => ?_) (by simp [some, read])
        rw [some, read] at isObject
        exact noObject entries (Except.ok.inj (Option.some.inj isObject))

/-- There is always room to copy what is missing from the defaults. -/
theorem layOver_defaults (entries : Json.Entries) :
    layOver entries defaults ["languages"] = .ok (merge entries defaults ["languages"]) := by
  have calls : copyCalls (.obj defaults) ≤ 10 := by decide
  rw [layOver, if_pos (copiesDefault_of_low unrepeated_defaults
    (Nat.le_trans calls Limits.ten_le_copying))]

theorem load_of_file {source : FileSource} {place : Text} {bytes : List UInt8}
    (usable : Path.isUsable place = true) (tidy : Path.tidy place = place)
    (content : source place = .ok bytes) :
    load source (some place) defaults ["languages"] =
      match readFile source place with
      | .error fault => .error fault
      | .ok (entries, fault) =>
        (copied entries).map (fun entries => ⟨merge entries defaults ["languages"], fault⟩) := by
  have there : source.exists? place = .ok true := by
    rw [FileSource.exists?, if_neg (by simp [usable]), content]
  rw [load, readIfThere, Option.map_some, tidy]
  dsimp only
  generalize source.exists? place = known at there
  cases there
  dsimp only
  cases readFile source place with
  | error fault => rfl
  | ok read =>
      obtain ⟨entries, fault⟩ := read
      simp only [layOver_defaults, bind, Except.bind, pure, Except.pure]
      cases copied entries <;> rfl

/-- What the start of an editor comes to by the settings that were loaded, if they were: it ends
    with a file that breaks it, and no other. -/
inductive Start (bytes : List UInt8) (loaded : Except Fault Json.Entries) : Prop where
  | unloaded {fault : Fault} (breaks : Breaks bytes) (refused : loaded = .error fault)
  | unfit {settings : Json.Entries} {fault : Fault} (breaks : Breaks bytes)
      (isLoaded : loaded = .ok settings)
      (refused : sessionIn ((Json.obj settings).field "lsp") = .error fault)
  | starts {settings : Json.Entries} {session : SessionSettings} (sound : ¬Breaks bytes)
      (isLoaded : loaded = .ok settings)
      (taken : sessionIn ((Json.obj settings).field "lsp") = .ok session)

theorem start_of_merge {bytes : List UInt8} {entries : Json.Entries}
    (breaks_iff : Breaks bytes ↔ Unfit ((Json.obj entries).field "lsp")) :
    Start bytes (.ok (merge entries defaults ["languages"])) := by
  rw [← unfit_merge_iff, ← sessionIn_refused_iff] at breaks_iff
  cases taken : sessionIn ((Json.obj (merge entries defaults ["languages"])).field "lsp") with
  | error fault => exact .unfit (breaks_iff.mpr ⟨fault, taken⟩) rfl taken
  | ok session =>
      refine .starts (fun breaks => ?_) rfl taken
      obtain ⟨fault, refused⟩ := breaks_iff.mp breaks
      rw [taken] at refused
      cases refused

/-- An editor that finds a settings file starts, unless the file breaks the start. -/
theorem start_of_found {source : FileSource} {whereabouts : Whereabouts} {place : Text}
    {bytes : List UInt8} (found : firstExisting? source (candidates whereabouts) = .ok (some place))
    (content : source place = .ok bytes) :
    Start bytes (loadEditor source (candidates whereabouts)) := by
  obtain ⟨candidate, isFile⟩ := isFile_of_firstExisting? found
  have loaded := load_of_file (isUsable_of_isFile isFile) (tidy_candidate candidate) content
  have reading := reading_readFile content
  rw [loadEditor, found]
  simp only [bind, Except.bind, loaded]
  generalize readFile source place = read at reading
  cases reading with
  | nested nested => exact .unloaded (.nested nested) rfl
  | @object entries read =>
      dsimp only
      rw [copied_eq]
      by_cases low : copyCalls (.obj entries) ≤ Limits.copying
      · rw [if_pos low]
        apply start_of_merge
        rw [breaks_iff_of_object read, or_iff_right (Nat.not_lt.mpr low)]
      · rw [if_neg low]
        exact .unloaded (.deep read (Nat.not_le.mp low)) rfl
  | useless noObject shallow =>
      dsimp only
      rw [copied_nil]
      refine @start_of_merge _ bytes [] ⟨fun breaks => ?_, fun unfit => ?_⟩
      · cases breaks with
        | nested nested => exact absurd nested (shallow _)
        | deep read => exact absurd read (noObject _)
        | unfit read => exact absurd read (noObject _)
      · exact absurd unfit (not_unfit_of_taken rfl)

end LanguageClient.Settings
