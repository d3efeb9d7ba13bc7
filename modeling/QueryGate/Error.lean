import QueryGate.Value.Display

/-!
# Errors that callers see

Every failure that may be shown to a caller is a `QueryError`: its class gives the kind tag, its
message names whitelisted concepts only. Provider errors also carry a status and a retry hint,
which are null where they are not known. `QueryError.report` is the object that callers receive.
-/

set_option autoImplicit false

namespace QueryGate

inductive ErrorClass where
  | general
  | unparsedReply
  | invalidSpec
  | unsupportedAction
  | unknownTable
  | noAllowedFields
  | unimplementedTable
  | storeTimeout
  | provider
  | providerTimeout
deriving DecidableEq, Repr

namespace ErrorClass

def parent? : ErrorClass → Option ErrorClass
  | .general => none
  | .unsupportedAction | .unknownTable | .noAllowedFields => some .invalidSpec
  | .providerTimeout => some .provider
  | _ => some .general

def ancestors (c : ErrorClass) : List ErrorClass :=
  match c.parent? with
  | none => []
  | some p => p :: (match p.parent? with
    | none => []
    | some q => [q])

def kind : ErrorClass → String
  | .general => "nlquery_error"
  | .unparsedReply => "translation_failed"
  | .invalidSpec => "invalid_spec"
  | .unsupportedAction => "unsupported_action"
  | .unknownTable => "unknown_table"
  | .noAllowedFields => "no_allowed_fields"
  | .unimplementedTable => "unimplemented_table"
  | .storeTimeout => "store_timeout"
  | .provider => "provider_error"
  | .providerTimeout => "provider_timeout"

def defaultMessage? : ErrorClass → Option String
  | .unparsedReply => some "Failed to parse JSON spec from model response"
  | .unsupportedAction => some "Only select action supported"
  | .unknownTable => some "Table not allowed"
  | .noAllowedFields => some "No allowed fields requested"
  | _ => none

def isProvider : ErrorClass → Bool
  | .provider | .providerTimeout => true
  | _ => false

end ErrorClass

/-- An error with its message; `table` names the table that has no handler. -/
structure QueryError where
  category : ErrorClass
  message : String
  status : Value
  retryAfter : Value
  table : Option String

namespace QueryError

def plain (category : ErrorClass) (message : String) : QueryError :=
  ⟨category, message, .null, .null, none⟩

def unparsedReply : QueryError :=
  plain .unparsedReply "Failed to parse JSON spec from model response"

def unsupportedAction : QueryError := plain .unsupportedAction "Only select action supported"

def unknownTable : QueryError := plain .unknownTable "Table not allowed"

def noAllowedFields : QueryError := plain .noAllowedFields "No allowed fields requested"

def unimplementedTable (table : String) : QueryError :=
  { plain .unimplementedTable
      ("Table '" ++ table ++ "' not implemented in server mapping yet") with
    table := some table }

def storeTimeout : QueryError := plain .storeTimeout "Query timed out"

def provider (message : String) (status retryAfter : Value) : QueryError :=
  ⟨.provider, message, status, retryAfter, none⟩

def providerTimeout (seconds : String) : QueryError :=
  plain .providerTimeout ("LLM provider timed out after " ++ seconds ++ "s")

def optionalMember (key : String) (v : Value) : List (String × Value) :=
  if v.isNull then [] else [(key, v)]

def report (e : QueryError) : List (String × Value) :=
  [("error", .text e.message), ("kind", .text e.category.kind)] ++
    (if e.category.isProvider then
      optionalMember "statusCode" e.status ++ optionalMember "retryAfterSeconds" e.retryAfter
     else [])

def details (e : QueryError) : String :=
  "ProviderError(message=" ++ Value.quotedText e.message ++
    ", status_code=" ++ e.status.quoted ++
    ", retry_after_seconds=" ++ e.retryAfter.quoted ++ ")"

def parameters : ErrorClass → List String
  | .unimplementedTable => ["table"]
  | .provider | .providerTimeout => ["message", "status_code", "retry_after_seconds"]
  | _ => ["message"]

/-- An error made from arguments in order and further ones by name; nothing if they do not fit. -/
def ofArguments? (category : ErrorClass) (args : List Value) (named : List (String × Value)) :
    Option QueryError :=
  let names := parameters category
  let given := names.zip args ++ named
  let fits := args.length ≤ names.length ∧
    named.all (fun (k, _) => (names.drop args.length).contains k)
  if fits then
    match category with
    | .unimplementedTable => (Assoc.get? "table" given).map fun v => unimplementedTable v.shown
    | _ =>
      let message := match Assoc.get? "message" given with
        | some v => some v.shown
        | none => category.defaultMessage?
      message.map fun message =>
        ⟨category, message, (Assoc.get? "status_code" given).getD .null,
          (Assoc.get? "retry_after_seconds" given).getD .null, none⟩
  else none

end QueryError

end QueryGate
