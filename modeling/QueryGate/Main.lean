import QueryGate.Seed.Load

/-!
# The command that fills a store

Generates the rows of a small blog, loads them into an empty store and prints the number of rows of
every table. The address that it greets with comes from the environment.
-/

set_option autoImplicit false

namespace QueryGate.Main

def variableNames : List String :=
  ["POSTGRES_USER", "POSTGRES_PASSWORD", "POSTGRES_DB", "POSTGRES_HOST", "POSTGRES_PORT",
    "DATABASE_URL", "DB_STATEMENT_TIMEOUT_MS", "LLM_PROVIDER", "LLM_MODEL", "LLM_BASE_URL",
    "LLM_API_KEY", "GEMINI_BASE_URL", "OPENAI_API_KEY", "ANTHROPIC_API_KEY", "LLM_TIMEOUT_S",
    "CHAT_TIMEOUT_S", "API_PORT", "LOG_LEVEL", "WHITELIST_PATH"]

def environment : IO (List (String × String)) :=
  variableNames.filterMapM fun name => do
    let text ← IO.getEnv name
    return text.map fun text => (name, text)

def supply : Seed.Supply Seed.Congruential := .congruential 100000 10000

def start : Seed.Congruential := ⟨42, 0⟩

/-- Fills an empty store and prints what was done. -/
def run : IO UInt32 := do
  match Settings.ofEnvironment (← environment) with
  | .error details =>
    for d in details do
      IO.eprintln d.kind
    return 1
  | .ok settings =>
    let (outcome, _) := Seed.run supply {} settings Store.empty start
    for line in outcome.printed do
      IO.println line
    match outcome.result with
    | .ok _ => return 0
    | .error e =>
      IO.eprintln e.message
      return 1

end QueryGate.Main

def main : IO UInt32 := QueryGate.Main.run
