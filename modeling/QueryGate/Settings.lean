import QueryGate.Spec.Typed

/-!
# Settings

The settings of the service with their usual values. `Settings.ofEnvironment` takes them from
environment variables, whose names are compared without regard to case; numbers are checked there.
A caller may put any value in the place of a number, so these are kept as values.
-/

set_option autoImplicit false

namespace QueryGate

/-- The settings. Times are in seconds, but for the time limit of statements. -/
structure Settings where
  databaseUser : String := "nlquery"
  databasePassword : String := "nlquery_pw"
  databaseName : String := "blog"
  databaseHost : String := "localhost"
  databasePort : Value := .int 5432
  databaseAddress : String := ""
  statementTimeout : Value := .int 5000
  provider : String := "mock"
  model : String := "gemma3:1b"
  ollamaUrl : String := "http://127.0.0.1:11434/api"
  geminiKey : String := ""
  geminiUrl : String := "https://generativelanguage.googleapis.com/v1beta"
  openaiKey : String := ""
  anthropicKey : String := ""
  queryTimeout : Value := .float (Binary64.ofInt 20)
  chatTimeout : Value := .float (Binary64.ofInt 30)
  apiPort : Value := .int 8000
  logLevel : String := "INFO"
  whitelistPath : String := "whitelist/schema.yml"

namespace Settings

def databaseUrl (s : Settings) : String :=
  if s.databaseAddress.isEmpty then
    "postgresql://" ++ s.databaseUser ++ ":" ++ s.databasePassword ++ "@" ++ s.databaseHost ++
      ":" ++ s.databasePort.shown ++ "/" ++ s.databaseName
  else s.databaseAddress

def toObject (s : Settings) : Value :=
  .object [("postgres_user", .text s.databaseUser), ("postgres_password", .text s.databasePassword),
    ("postgres_db", .text s.databaseName), ("postgres_host", .text s.databaseHost),
    ("postgres_port", s.databasePort), ("database_url_override", .text s.databaseAddress),
    ("db_statement_timeout_ms", s.statementTimeout), ("llm_provider", .text s.provider),
    ("llm_model", .text s.model), ("llm_base_url", .text s.ollamaUrl),
    ("llm_api_key", .text s.geminiKey), ("gemini_base_url", .text s.geminiUrl),
    ("openai_api_key", .text s.openaiKey), ("anthropic_api_key", .text s.anthropicKey),
    ("llm_timeout_s", s.queryTimeout), ("chat_timeout_s", s.chatTimeout),
    ("api_port", s.apiPort), ("log_level", .text s.logLevel),
    ("whitelist_path", .text s.whitelistPath)]

def withoutUnderscores? (cs : List Char) : Option (List Char) :=
  if cs.head? == some '_' || cs.getLast? == some '_' || Text.occursIn ['_', '_'] cs then none
  else some (cs.filter (· != '_'))

/-- A decimal text as a float: blanks around it, ASCII digits, or the name of a special number. -/
def floatOfText (s : String) : Checked Value :=
  let read (cs : List Char) : Option Binary64 :=
    match Binary64.readSpecial? cs with
    | some x => some x
    | none => (Numeral.readPlain? cs).map Binary64.ofNumeral
  match read (Text.trimBy Text.isNumeralBlank s.toList) with
  | some x => .ok (.float x)
  | none =>
    match (withoutUnderscores? s.toList).bind read with
    | some x => .ok (.float x)
    | none => .refuse "float_parsing"

/-- Environment variables under lower-case names; of several that differ in case the last counts. -/
def byName (environment : List (String × String)) : List (String × String) :=
  Assoc.ofPairs (environment.map fun (name, text) => (Text.lower name, text))

/-- The settings that environment variables give; what they leave out has its usual value. -/
def ofEnvironment (environment : List (String × String)) : Checked Settings :=
  let given := byName environment
  let usual : Settings := {}
  let text (name usual : String) : String := (Assoc.get? name given).getD usual
  let number (name : String) (usual : Value) (read : String → Checked Value) : Checked Value :=
    Checked.within (.key name) <| match Assoc.get? name given with
      | none => .ok usual
      | some s => read s
  let whole (s : String) : Checked Value := (wholeOfText s).map .int
  let numbers := Checked.both (number "postgres_port" usual.databasePort whole) <|
    Checked.both (number "db_statement_timeout_ms" usual.statementTimeout whole) <|
    Checked.both (number "llm_timeout_s" usual.queryTimeout floatOfText) <|
    Checked.both (number "chat_timeout_s" usual.chatTimeout floatOfText)
      (number "api_port" usual.apiPort whole)
  numbers.map fun (databasePort, statementTimeout, queryTimeout, chatTimeout, apiPort) => {
    databaseUser := text "postgres_user" usual.databaseUser
    databasePassword := text "postgres_password" usual.databasePassword
    databaseName := text "postgres_db" usual.databaseName
    databaseHost := text "postgres_host" usual.databaseHost
    databasePort
    databaseAddress := text "database_url" usual.databaseAddress
    statementTimeout
    provider := text "llm_provider" usual.provider
    model := text "llm_model" usual.model
    ollamaUrl := text "llm_base_url" usual.ollamaUrl
    geminiKey := text "llm_api_key" usual.geminiKey
    geminiUrl := text "gemini_base_url" usual.geminiUrl
    openaiKey := text "openai_api_key" usual.openaiKey
    anthropicKey := text "anthropic_api_key" usual.anthropicKey
    queryTimeout
    chatTimeout
    apiPort
    logLevel := text "log_level" usual.logLevel
    whitelistPath := text "whitelist_path" usual.whitelistPath }

end Settings

end QueryGate
