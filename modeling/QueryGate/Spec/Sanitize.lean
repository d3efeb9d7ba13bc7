import QueryGate.Spec.Basic

/-!
# From untrusted values to specs

`Whitelist.validate` turns any value into a spec that names whitelisted tables, fields and
operators only, or refuses it. Limits and filters never lead to a refusal: a limit is replaced or
cut, a filter that is malformed or not allowed is dropped. Filter values stay as they are.
-/

set_option autoImplicit false

namespace QueryGate.Whitelist

/-- A whole number within the limits: the default for zero and below, at most the greatest. -/
def clampLimit (w : Whitelist) (n : Int) : Int :=
  if n ≤ 0 then w.defaultLimit else min n w.maxLimit

def floatLimit (w : Whitelist) (x : Binary64) : Int :=
  match x with
  | .nan => w.defaultLimit
  | .infinite negative => if negative then w.defaultLimit else w.maxLimit
  | .finite _ _ _ => w.clampLimit (x.truncate?.getD 0)

/-- The limit that a value asks for; the default where it asks for none. -/
def sanitizeLimit (w : Whitelist) : Value → Int
  | .int n => w.clampLimit n
  | .float x => w.floatLimit x
  | .text s =>
    match Binary64.read? (Text.trimBy Text.isBlank s.toList) with
    | some x => w.floatLimit x
    | none => w.defaultLimit
  | _ => w.defaultLimit

def usableDefaults (w : Whitelist) (table : Value) : List Value :=
  w.defaultFields.filter fun f => (w.allowedFields table).any (·.same f)

def usableFields (w : Whitelist) (table : Value) (fields : List Value) : List Value :=
  Value.distinct <| fields.filter fun f =>
    f.text?.isSome && (w.allowedFields table).any (·.same f)

/-- The fields to select: those requested that are allowed, or the defaults where none are
requested. -/
def sanitizeFields (w : Whitelist) (table requested : Value) : Attempt (List Value) :=
  let kept := match requested with
    | .list [] => w.usableDefaults table
    | .list fields => w.usableFields table fields
    | _ => w.usableDefaults table
  if kept.isEmpty then .error (.query .noAllowedFields) else .ok kept

def acceptsValue (op : Operator) (v : Value) : Bool :=
  match op with
  | .oneOf =>
    match v with
    | .list items => items.all fun v => v.isNull || v.isScalar
    | _ => false
  | .equals => v.isNull || v.isScalar
  | _ => v.isScalar

/-- The filter that an entry describes, if it is well formed and its field is allowed. -/
def sanitizeFilter (w : Whitelist) (table entry : Value) : Option Filter :=
  match entry.memberD "field", entry.memberD "op" with
  | .text field, .text opName =>
    match Operator.ofName? opName with
    | none => none
    | some op =>
      let v := entry.memberD "value"
      if w.resolves table field && acceptsValue op v then some ⟨field, op, v⟩ else none
  | _, _ => none

/-- The filters that the entries describe; entries that describe none are dropped. -/
def sanitizeFilters (w : Whitelist) (table : Value) : Value → List Filter
  | .list entries => entries.filterMap (w.sanitizeFilter table)
  | _ => []

def fieldNames (fields : List Value) : Attempt (List String) :=
  let misfits := fields.zipIdx.filterMap fun (v, i) =>
    if v.text?.isSome then none else some ⟨[.key "fields", .index i], "string_type"⟩
  if misfits.isEmpty then .ok (fields.filterMap Value.text?) else .error (.invalid misfits)

/-- The spec that a value describes. -/
def validate (w : Whitelist) (raw : Value) : Attempt Spec :=
  match raw with
  | .object _ =>
    if (raw.memberD "action").same (.text Spec.action) then
      match raw.memberD "table" with
      | .text table =>
        if (w.table? (.text table)).isNone then .error (.query .unknownTable)
        else
          match w.sanitizeFields (.text table) (raw.memberD "fields") with
          | .error e => .error e
          | .ok fields =>
            match fieldNames fields with
            | .error e => .error e
            | .ok fields =>
              .ok ⟨table, fields, w.sanitizeFilters (.text table) (raw.memberD "filters"),
                w.sanitizeLimit (raw.memberD "limit")⟩
      | _ => .error (.query .unknownTable)
    else .error (.query .unsupportedAction)
  | _ => .error (.query .unsupportedAction)

end QueryGate.Whitelist
