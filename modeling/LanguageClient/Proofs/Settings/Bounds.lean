import LanguageClient.Proofs.Settings.Timings

/-! # Timings within their bounds

Whatever kind of value is set for a timing, what is read is within the bounds of the timing, and
an integer within them is taken as it is. So settings that were read are read again as they are.
What stands in the way is a number beyond all bounds: it is not moved to a bound but refused.
-/

namespace LanguageClient

namespace TimingRule

variable {rule : TimingRule} {value : Int}

/-- A value is within the bounds of the timing. -/
def Allows (rule : TimingRule) (value : Int) : Prop :=
  rule.low ≤ value ∧ value ≤ rule.high

theorem allows_clamp (value : Int) : rule.Allows (rule.clamp value) :=
  ⟨Int.le_max_left .., rule.clamp_le value⟩

theorem clamp_of_allows (allowed : rule.Allows value) : rule.clamp value = value := by
  simp only [Allows] at allowed
  simp only [clamp]
  omega

theorem allows_valueIn (settings : Json) : rule.Allows (rule.valueIn settings) :=
  allows_clamp _

theorem valueIn_of_int {settings : Json} (set : settings.get? rule.name = some (.int value)) :
    rule.valueIn settings = rule.clamp value := by
  simp [valueIn, wholeIn, set, Json.wholeOr, Json.toInteger]

theorem isEndlessIn_iff {settings : Json} :
    rule.isEndlessIn settings = true ↔
      ∃ negative, settings.get? rule.name = some (.float (.infinite negative)) := by
  unfold isEndlessIn
  cases settings.get? rule.name with
  | none => simp
  | some value =>
      cases value with
      | float number => cases number <;> simp [Json.isInfinite]
      | _ => simp [Json.isInfinite]

end TimingRule

namespace SessionSettings

/-- The timings of a session are within their bounds. -/
structure Bounded (settings : SessionSettings) : Prop where
  hoverDelay : 0 ≤ settings.hoverDelay ∧ settings.hoverDelay ≤ 5000
  hoverTimeout : 100 ≤ settings.hoverTimeout ∧ settings.hoverTimeout ≤ 60000
  tokenDelay : 0 ≤ settings.tokenDelay ∧ settings.tokenDelay ≤ 5000
  shutdownTimeout : 0 ≤ (settings.shutdownTimeout : Int) ∧
    (settings.shutdownTimeout : Int) ≤ 30000

variable (settings : Json)

theorem bounded_valuesIn : (valuesIn settings).Bounded where
  hoverDelay := TimingRule.allows_valueIn settings
  hoverTimeout := TimingRule.allows_valueIn settings
  tokenDelay := TimingRule.allows_valueIn settings
  shutdownTimeout := TimingRule.allows_valueIn settings

/-- Under the name of a timing its value is written. -/
theorem get?_toJson_valuesIn {rule : TimingRule} (isTiming : rule ∈ timings) :
    (valuesIn settings).toJson.get? rule.name = some (.int (rule.valueIn settings)) := by
  simp only [timings, List.mem_cons, List.not_mem_nil, or_false] at isTiming
  rcases isTiming with rfl | rfl | rfl | rfl
  · rfl
  · rfl
  · rfl
  · rfl

theorem valueIn_toJson {rule : TimingRule} (isTiming : rule ∈ timings) :
    rule.valueIn (valuesIn settings).toJson = rule.valueIn settings := by
  rw [TimingRule.valueIn_of_int (get?_toJson_valuesIn settings isTiming)]
  exact TimingRule.clamp_of_allows
    (TimingRule.allows_valueIn settings)

theorem valuesIn_toJson : valuesIn (valuesIn settings).toJson = valuesIn settings := by
  have same {rule : TimingRule} (isTiming : rule ∈ timings) := valueIn_toJson settings isTiming
  exact SessionSettings.ext (same (by simp [timings])) (same (by simp [timings]))
    (same (by simp [timings])) (Timeout.ext (same (by simp [timings]))) rfl

/-- Settings that were read are read again as they are. -/
theorem ofJson_toJson_valuesIn :
    ofJson (valuesIn settings).toJson = .ok (valuesIn settings) := by
  have none : ¬timings.any (·.isEndlessIn (valuesIn settings).toJson) = true := by
    rw [List.any_eq_true]
    rintro ⟨rule, isTiming, endless⟩
    obtain ⟨negative, set⟩ := TimingRule.isEndlessIn_iff.mp endless
    rw [get?_toJson_valuesIn settings isTiming] at set
    cases set
  rw [ofJson_eq, if_neg none, valuesIn_toJson]

/-- Settings for a session are refused if they set a timing to an infinite number. All others are
    read, whatever they hold: each timing is within its bounds, an integer within them is kept,
    and what was read is read again as it is. -/
theorem ofJson_bounded_or_endless :
    ((∃ rule ∈ timings, ∃ negative,
        settings.get? rule.name = some (.float (.infinite negative))) ∧
      ofJson settings = .error .infiniteInteger) ∨
    ((∀ rule ∈ timings, ∀ negative,
        settings.get? rule.name ≠ some (.float (.infinite negative))) ∧
      ∃ read, ofJson settings = .ok read ∧ read.Bounded ∧
        (∀ rule ∈ timings, ∀ value, settings.get? rule.name = some (.int value) →
          rule.Allows value → read.toJson.get? rule.name = some (.int value)) ∧
        ofJson read.toJson = .ok read) := by
  have endless_iff : timings.any (·.isEndlessIn settings) = true ↔
      ∃ rule ∈ timings, ∃ negative,
        settings.get? rule.name = some (.float (.infinite negative)) := by
    simp only [List.any_eq_true, TimingRule.isEndlessIn_iff]
  rw [ofJson_eq]
  by_cases endless : timings.any (·.isEndlessIn settings) = true
  · exact .inl ⟨endless_iff.mp endless, if_pos endless⟩
  · refine .inr ⟨?_, valuesIn settings, if_neg endless, bounded_valuesIn settings, ?_,
      ofJson_toJson_valuesIn settings⟩
    · intro rule isTiming negative set
      exact endless (endless_iff.mpr ⟨rule, isTiming, negative, set⟩)
    · intro rule isTiming value set allowed
      rw [get?_toJson_valuesIn settings isTiming, TimingRule.valueIn_of_int set,
        TimingRule.clamp_of_allows allowed]

/-- An infinite delay is not moved to the greatest one. -/
theorem ofJson_endlessDelay :
    ofJson (.obj [("hover_delay_ms", .float (.infinite false))]) = .error .infiniteInteger := rfl

end SessionSettings

end LanguageClient
