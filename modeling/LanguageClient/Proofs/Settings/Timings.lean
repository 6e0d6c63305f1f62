import LanguageClient.Proofs.Json.Integer
import LanguageClient.Settings.Timings

/-! # Timings out of loose values

A timing that stands for no integer gets its default, and every timing is kept within its
bounds. Only one that is beyond all bounds refuses the settings that it stands in.
-/

namespace LanguageClient

namespace TimingRule

/-- Whether settings set the timing to a number beyond all bounds. -/
def isEndlessIn (rule : TimingRule) (settings : Json) : Bool :=
  (settings.get? rule.name).any Json.isInfinite

/-- The timing that settings set, or its default. -/
def wholeIn (rule : TimingRule) (settings : Json) : Int :=
  ((settings.get? rule.name).map (Json.wholeOr rule.default)).getD rule.default

/-- The timing that settings set, or its default, within its bounds. -/
def valueIn (rule : TimingRule) (settings : Json) : Int :=
  rule.clamp (rule.wholeIn settings)

theorem integerIn_eq (rule : TimingRule) (settings : Json) :
    rule.integerIn settings =
      if rule.isEndlessIn settings then .error .infiniteInteger
      else .ok (rule.wholeIn settings) := by
  unfold integerIn isEndlessIn wholeIn
  cases settings.get? rule.name with
  | none => rfl
  | some value =>
      dsimp only
      rw [Json.toIntegerOr_eq]
      split
      · next far => exact (if_pos far).symm
      · next near => exact (if_neg near).symm

end TimingRule

namespace SessionSettings

/-- The timings of a session. -/
def timings : List TimingRule :=
  [.hoverDelay, .hoverTimeout, .tokenDelay, .shutdownTimeout]

/-- The settings of a session in which every timing has its value. -/
def valuesIn (settings : Json) : SessionSettings where
  hoverDelay := TimingRule.hoverDelay.valueIn settings
  hoverTimeout := TimingRule.hoverTimeout.valueIn settings
  tokenDelay := TimingRule.tokenDelay.valueIn settings
  shutdownTimeout := ⟨TimingRule.shutdownTimeout.valueIn settings,
    TimingRule.shutdownTimeout.clamp_le _⟩
  logTraffic := (settings.field "log_lsp_traffic").isTruthy

theorem ofJson_eq (settings : Json) :
    ofJson settings =
      if timings.any (·.isEndlessIn settings) then .error .infiniteInteger
      else .ok (valuesIn settings) := by
  unfold ofJson
  simp only [TimingRule.integerIn_eq, timings, List.any_cons, List.any_nil, Bool.or_false]
  cases TimingRule.hoverDelay.isEndlessIn settings with
  | true => rfl
  | false =>
      cases TimingRule.hoverTimeout.isEndlessIn settings with
      | true => rfl
      | false =>
          cases TimingRule.tokenDelay.isEndlessIn settings with
          | true => rfl
          | false =>
              cases TimingRule.shutdownTimeout.isEndlessIn settings with
              | true => rfl
              | false => rfl

/-- Settings are refused if one of the timings is beyond all bounds. -/
theorem ofJson_refused_iff {settings : Json} :
    (∃ fault, ofJson settings = .error fault) ↔
      ∃ rule ∈ timings, rule.isEndlessIn settings = true := by
  rw [ofJson_eq, ← List.any_eq_true]
  split
  · next far => exact ⟨fun _ => far, fun _ => ⟨_, rfl⟩⟩
  · next near => exact ⟨nofun, fun far => absurd far near⟩

end SessionSettings

end LanguageClient
