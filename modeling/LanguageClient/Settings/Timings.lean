import LanguageClient.Json.Integer
import LanguageClient.Server.Process

/-! # Session settings

How long a session waits for what. Settings come from outside as loose values: each timing
is read as an integer, kept within its bounds, and has a default.
-/

namespace LanguageClient

/-- The settings of a session, times in milliseconds. -/
@[ext]
structure SessionSettings where
  hoverDelay : Int := 250
  hoverTimeout : Int := 1000
  tokenDelay : Int := 150
  shutdownTimeout : Timeout := .usual
  logTraffic : Bool := false
  deriving Repr, DecidableEq

/-- The name of a timing, its default and its bounds. -/
structure TimingRule where
  name : Text
  default : Int
  low : Int
  high : Int
  ordered : low ≤ high := by decide

namespace TimingRule

def hoverDelay : TimingRule :=
  { name := "hover_delay_ms", default := 250, low := 0, high := 5000 }

def hoverTimeout : TimingRule :=
  { name := "hover_timeout_ms", default := 1000, low := 100, high := 60000 }

def tokenDelay : TimingRule :=
  { name := "semantic_tokens_delay_ms", default := 150, low := 0, high := 5000 }

def shutdownTimeout : TimingRule :=
  { name := "shutdown_timeout_ms", default := 1200, low := 0, high := 30000 }

/-- An integer moved to the nearer bound if it is outside. -/
def clamp (rule : TimingRule) (value : Int) : Int :=
  max rule.low (min rule.high value)

theorem clamp_le (rule : TimingRule) (value : Int) : rule.clamp value ≤ rule.high :=
  Int.max_le.mpr ⟨rule.ordered, Int.min_le_left rule.high value⟩

/-- The integer that settings have for a timing, its default if they have none. -/
def integerIn (rule : TimingRule) (settings : Json) : Except Fault Int :=
  match settings.get? rule.name with
  | none => .ok rule.default
  | some value => value.toIntegerOr rule.default

end TimingRule

namespace SessionSettings

/-- The settings in a table; what is no table leaves every default. -/
def ofJson (settings : Json) : Except Fault SessionSettings := do
  let hoverDelay ← TimingRule.hoverDelay.integerIn settings
  let hoverTimeout ← TimingRule.hoverTimeout.integerIn settings
  let tokenDelay ← TimingRule.tokenDelay.integerIn settings
  let shutdownTimeout ← TimingRule.shutdownTimeout.integerIn settings
  pure {
    hoverDelay := TimingRule.hoverDelay.clamp hoverDelay
    hoverTimeout := TimingRule.hoverTimeout.clamp hoverTimeout
    tokenDelay := TimingRule.tokenDelay.clamp tokenDelay
    shutdownTimeout := ⟨TimingRule.shutdownTimeout.clamp shutdownTimeout,
      TimingRule.shutdownTimeout.clamp_le shutdownTimeout⟩
    logTraffic := (settings.field "log_lsp_traffic").isTruthy }

def toEntries (settings : SessionSettings) : Json.Entries :=
  [("hover_delay_ms", .int settings.hoverDelay),
    ("hover_timeout_ms", .int settings.hoverTimeout),
    ("semantic_tokens_delay_ms", .int settings.tokenDelay),
    ("shutdown_timeout_ms", .int settings.shutdownTimeout),
    ("log_lsp_traffic", .bool settings.logTraffic)]

def toJson (settings : SessionSettings) : Json :=
  .obj settings.toEntries

end SessionSettings

end LanguageClient
