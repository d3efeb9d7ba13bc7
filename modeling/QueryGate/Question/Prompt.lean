import QueryGate.Json.Printer
import QueryGate.Spec.Basic

/-!
# Prompts

A prompt is a block of instructions, which depends on the whitelist alone, and the question as a
string literal. A literal holds no line break, so no question can add a line to its prompt.
-/

set_option autoImplicit false

namespace QueryGate.Prompt

def commaList (texts : List String) : String := String.intercalate ", " texts

def tableNames (w : Whitelist) : Attempt (List String) :=
  w.tableNames.mapM fun
    | .text name => .ok name
    | _ => .error .nameNotText

def examples (w : Whitelist) : String :=
  commaList ((w.tableNames.take 3).map fun name => "\"" ++ name.shown ++ "\"")

def lines (w : Whitelist) (tables : List String) : List String := [
  "You are a helpful assistant that translates natural language requests into a JSON " ++
    "\"query spec\".",
  "Return ONLY valid JSON (no explanation). The JSON must follow this schema:",
  "",
  "\x7b",
  "  \"action\": \"select\",      // only \"select\" is allowed",
  "  \"table\": \"<TableName>\",  // e.g. " ++ examples w,
  "  \"fields\": [\"id\",\"title\",\"content\"], // list of fields to return " ++
    "(optional => defaults)",
  "  \"filters\": [             // optional list of filter objects",
  "     \x7b \"field\": \"user.username\", \"op\": \"equals\", \"value\": \"Jane Doe\" \x7d",
  "  ],",
  "  \"limit\": 3               // integer, max " ++ toString w.maxLimit,
  "\x7d",
  "",
  "Rules:",
  "- Only return a JSON object exactly following the schema.",
  "- Allowed ops: " ++ commaList Operator.names ++ ".",
  "- Table names must be one of: " ++ commaList tables ++ ".",
  "- Limit must be an integer <= " ++ toString w.maxLimit ++
    ". If the user doesn't specify, default limit=" ++ toString w.defaultLimit ++ ".",
  "- For nested filters use dot notation (e.g. \"user.username\").",
  "- Do NOT output SQL, code, or any explanation -- only the JSON object.",
  "",
  "Examples:",
  "Input: \"Get 3 blog posts by the author Jane Doe\"",
  "Output:",
  "\x7b\"action\":\"select\",\"table\":\"Blog\",\"fields\":[\"id\",\"title\",\"content\"," ++
    "\"createdAt\"],\"filters\":[\x7b\"field\":\"user.username\",\"op\":\"equals\"," ++
    "\"value\":\"Jane Doe\"\x7d],\"limit\":3\x7d",
  "",
  "Input: \"Show me the 5 latest posts\"",
  "Output:",
  "\x7b\"action\":\"select\",\"table\":\"Blog\",\"fields\":[\"id\",\"title\",\"createdAt\"]," ++
    "\"filters\":[],\"limit\":5\x7d",
  ""]

def instructions (w : Whitelist) : Attempt String :=
  (tableNames w).map fun tables => String.intercalate "\n" (lines w tables)

def build (w : Whitelist) (question : String) : Attempt String :=
  (instructions w).map fun block => block ++ "\n\nInput: " ++ Json.literal question ++ "\nOutput:"

end QueryGate.Prompt
