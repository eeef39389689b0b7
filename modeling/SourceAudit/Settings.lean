import SourceAudit.Admission.Profile
import SourceAudit.Input.Checked
import SourceAudit.Json.Reader
import SourceAudit.Retrieval.Fetch

/-!
# SourceAudit.Settings

The settings of the service. Each has a name, a type and a default; values come from the variables
of the environment, whose names are compared without regard to case, or from the members of an
object. Sizes are in bytes and durations in seconds.
-/

namespace SourceAudit

open Number (Double)

/-- The settings of the service. -/
structure Settings where
  logLevel : String
  /-- The token for requests of callers who bring none. -/
  githubToken : Option String
  githubApiUrl : String
  requestTimeout : Double
  maxRetries : Int
  retryBackoffBase : Double
  maxFiles : Int
  maxFileSize : Int
  maxTotalBytes : Int
  fetchConcurrency : Int
  scanDeadline : Double
  ruleTimeBudget : Double
  maxLineLength : Int
  rulesFile : Option String
  scanBurstLimit : Int
  scanBurstWindow : Double
  planDailyScans : List (String × Int)
  defaultPlanTier : String
  maxUrlLength : Int
  maxTokenLength : Int
  corsAllowOrigins : String
deriving DecidableEq

/-- Why there are no settings. -/
inductive SettingsError
  /-- A variable that must hold JSON denotes no value. -/
  | unreadable (cause : Json.ReadError)
  | badValues (problems : List Input.Problem)
deriving DecidableEq, Repr

namespace Settings

open Input

/-- The scans a day of each plan, unless set. -/
def defaultDailyScans : List (String × Int) :=
  [("anonymous", 1), ("free", 1), ("starter", 10), ("pro", 50)]

/-- The origins that browsers may call from, unless set. -/
def defaultOrigins : String :=
  "http://localhost:5173,http://localhost:3000,http://localhost:8000"

/-- The value of a setting, or its default. -/
def value {α : Type} (name : String) (read : Json → Checked α) (fallback : α)
    (members : List (String × Json)) : Checked α :=
  (Slot.named name read).orElse fallback members

/-- The settings that the members of an object give, the others at their defaults. -/
def ofMembers (m : List (String × Json)) : Checked Settings :=
  (value "LOG_LEVEL" text "INFO" m).map Settings.mk
    |>.ap (value "GITHUB_TOKEN" optionalText none m)
    |>.ap (value "GITHUB_API_URL" text "https://api.github.com" m)
    |>.ap (value "REQUEST_TIMEOUT" number (.finite 10) m)
    |>.ap (value "MAX_RETRIES" int 2 m)
    |>.ap (value "RETRY_BACKOFF_BASE" number (.finite (1 / 2)) m)
    |>.ap (value "MAX_FILES" int 500 m)
    |>.ap (value "MAX_FILE_SIZE" int 1000000 m)
    |>.ap (value "MAX_TOTAL_BYTES" int 5000000 m)
    |>.ap (value "FETCH_CONCURRENCY" int 8 m)
    |>.ap (value "SCAN_DEADLINE" number (.finite 60) m)
    |>.ap (value "RULE_TIME_BUDGET" number (.finite (1 / 4)) m)
    |>.ap (value "MAX_LINE_LENGTH" int 4000 m)
    |>.ap (value "RULES_FILE" optionalText none m)
    |>.ap (value "SCAN_BURST_LIMIT" int 10 m)
    |>.ap (value "SCAN_BURST_WINDOW" number (.finite 60) m)
    |>.ap (value "PLAN_DAILY_SCANS" (map int) defaultDailyScans m)
    |>.ap (value "DEFAULT_PLAN_TIER" text "anonymous" m)
    |>.ap (value "MAX_URL_LENGTH" int 500 m)
    |>.ap (value "MAX_TOKEN_LENGTH" int 200 m)
    |>.ap (value "CORS_ALLOW_ORIGINS" text defaultOrigins m)

/-- The names of the settings whose variables hold plain text. -/
def plainNames : List String :=
  ["LOG_LEVEL", "GITHUB_TOKEN", "GITHUB_API_URL", "REQUEST_TIMEOUT", "MAX_RETRIES",
    "RETRY_BACKOFF_BASE", "MAX_FILES", "MAX_FILE_SIZE", "MAX_TOTAL_BYTES", "FETCH_CONCURRENCY",
    "SCAN_DEADLINE", "RULE_TIME_BUDGET", "MAX_LINE_LENGTH", "RULES_FILE", "SCAN_BURST_LIMIT",
    "SCAN_BURST_WINDOW", "DEFAULT_PLAN_TIER", "MAX_URL_LENGTH", "MAX_TOKEN_LENGTH",
    "CORS_ALLOW_ORIGINS"]

/-- The value of a variable; of several whose names differ in case only the last counts. -/
def lookup? (env : List (String × String)) (name : String) : Option String :=
  ((env.reverse.find? fun v => Text.lower v.1 = Text.asciiLower name)).map (·.2)

/-- The settings of an environment. The scans a day of each plan are given as JSON. -/
def ofEnvironment (env : List (String × String)) : Except SettingsError Settings :=
  let plain := plainNames.filterMap fun name => (lookup? env name).map fun v => (name, Json.str v)
  let plans : Except SettingsError (List (String × Json)) :=
    match lookup? env "PLAN_DAILY_SCANS" with
    | none => .ok []
    | some v =>
      match Json.read v with
      | .error cause => .error (.unreadable cause)
      | .ok .null => .ok []
      | .ok j => .ok [("PLAN_DAILY_SCANS", j)]
  match plans with
  | .error e => .error e
  | .ok plans =>
    match ofMembers (plain ++ plans) with
    | .good s => .ok s
    | .bad problems => .error (.badValues problems)

/-- The origins that browsers may call from. -/
def corsOrigins (s : Settings) : List String :=
  ((Text.piecesBetween ',' s.corsAllowOrigins.toList).map Text.strip).filterMap fun origin =>
    if origin.isEmpty then none else some (String.ofList origin)

/-- The settings by name. -/
def json (s : Settings) : Json :=
  .obj [("LOG_LEVEL", .str s.logLevel), ("GITHUB_TOKEN", Json.ofText? s.githubToken),
    ("GITHUB_API_URL", .str s.githubApiUrl), ("REQUEST_TIMEOUT", .float s.requestTimeout),
    ("MAX_RETRIES", .int s.maxRetries), ("RETRY_BACKOFF_BASE", .float s.retryBackoffBase),
    ("MAX_FILES", .int s.maxFiles), ("MAX_FILE_SIZE", .int s.maxFileSize),
    ("MAX_TOTAL_BYTES", .int s.maxTotalBytes), ("FETCH_CONCURRENCY", .int s.fetchConcurrency),
    ("SCAN_DEADLINE", .float s.scanDeadline), ("RULE_TIME_BUDGET", .float s.ruleTimeBudget),
    ("MAX_LINE_LENGTH", .int s.maxLineLength), ("RULES_FILE", Json.ofText? s.rulesFile),
    ("SCAN_BURST_LIMIT", .int s.scanBurstLimit), ("SCAN_BURST_WINDOW", .float s.scanBurstWindow),
    ("PLAN_DAILY_SCANS", .obj (s.planDailyScans.map fun (tier, n) => (tier, .int n))),
    ("DEFAULT_PLAN_TIER", .str s.defaultPlanTier), ("MAX_URL_LENGTH", .int s.maxUrlLength),
    ("MAX_TOKEN_LENGTH", .int s.maxTokenLength), ("CORS_ALLOW_ORIGINS", .str s.corsAllowOrigins),
    ("corsOrigins", .arr (s.corsOrigins.map .str))]

/-- What a retrieval may take. -/
def limits (s : Settings) : Retrieval.Limits :=
  ⟨s.maxFiles, s.maxFileSize, s.maxTotalBytes⟩

/-- The plans of accounts. -/
def plans (s : Settings) : Admission.Plans := ⟨s.planDailyScans, s.defaultPlanTier⟩

/-- The profile of scans from one address. -/
def burstProfile (s : Settings) : Admission.Profile :=
  .scanBurst s.scanBurstLimit s.scanBurstWindow

end Settings

/-- The token that requests are made with: that of the caller, or else that of the service. Empty
tokens do not count. -/
def selectToken (caller service : Option String) : Option String :=
  match caller.filter (· ≠ "") with
  | some token => some token
  | none => service.filter (· ≠ "")

end SourceAudit
