import QueryGate.Spec.Basic

/-!
# Specs as typed records

`Spec.ofObject` builds a spec from an object whose members have to fit the types of its parts, but
checks no whitelist. All that does not fit is reported, in the order of the parts. Whole numbers
may also come as booleans, as floats without a fraction and as decimal text.
-/

set_option autoImplicit false

namespace QueryGate

abbrev Checked (α : Type) := Except (List Detail) α

namespace Checked

def refuse {α : Type} (kind : String) : Checked α := .error [⟨[], kind⟩]

def within {α : Type} (step : Step) (c : Checked α) : Checked α :=
  c.mapError fun details => details.map fun d => { d with location := step :: d.location }

def both {α β : Type} (a : Checked α) (b : Checked β) : Checked (α × β) :=
  match a, b with
  | .ok x, .ok y => .ok (x, y)
  | .ok _, .error e => .error e
  | .error d, .ok _ => .error d
  | .error d, .error e => .error (d ++ e)

def items {α : Type} (read : Value → Checked α) (first : Nat) : List Value → Checked (List α)
  | [] => .ok []
  | v :: rest =>
    (both (within (.index first) (read v)) (items read (first + 1) rest)).map
      fun (x, xs) => x :: xs

end Checked

def typedMember {α : Type} (v : Value) (key : String) (missing : Checked α)
    (read : Value → Checked α) : Checked α :=
  Checked.within (.key key) <| match v.member? key with
    | none => missing
    | some x => read x

def readText (v : Value) : Checked String :=
  match v with
  | .text s => .ok s
  | _ => .refuse "string_type"

/-- A decimal text as a whole number: blanks around it, a sign, ASCII digits with single
underscores between them, and a fraction of zeros. -/
def wholeOfText (s : String) : Checked Int :=
  let cs := Text.trimBy Text.isNumeralBlank s.toList
  if maxWholeDigits < cs.length then .refuse "int_parsing_size"
  else
    let (negative, cs) := Numeral.sign cs
    match Numeral.digits Numeral.groupedPlain cs with
    | ([], _) => .refuse "int_parsing"
    | (ds, rest) =>
      let zeros := match rest with
        | [] => true
        | '.' :: fraction => fraction.all (· == '0')
        | _ => false
      if zeros then
        let n : Int := Numeral.ofDigits ds
        .ok (if negative then -n else n)
      else .refuse "int_parsing"

def wholeOfFloat (x : Binary64) : Checked Int :=
  if !x.isFinite then .refuse "finite_number"
  else
    match x.toInt? with
    | none => .refuse "int_from_float"
    | some n =>
      if fits64 n then .ok n else .refuse "int_parsing_size"

def readWhole (v : Value) : Checked Int :=
  match v with
  | .int n => .ok n
  | .bool b => .ok b.toNat
  | .float x => wholeOfFloat x
  | .text s => wholeOfText s
  | _ => .refuse "int_type"

def readList {α : Type} (read : Value → Checked α) (v : Value) : Checked (List α) :=
  match v with
  | .list items => Checked.items read 0 items
  | _ => .refuse "list_type"

namespace Operator

def ofValue (v : Value) : Checked Operator :=
  match v with
  | .text s =>
    match ofName? s with
    | some op => .ok op
    | none => .refuse "literal_error"
  | _ => .refuse "literal_error"

end Operator

namespace Filter

def ofObject (v : Value) : Checked Filter :=
  match v with
  | .object _ =>
    (Checked.both (typedMember v "field" (.refuse "missing") readText)
      (typedMember v "op" (.refuse "missing") Operator.ofValue)).map
      fun (field, op) => ⟨field, op, v.memberD "value"⟩
  | _ => .refuse "model_type"

end Filter

namespace Spec

def readAction (v : Value) : Checked Unit :=
  if v.same (.text action) then .ok () else .refuse "literal_error"

def readLimit (v : Value) : Checked Int :=
  match readWhole v with
  | .error e => .error e
  | .ok n => if 1 ≤ n then .ok n else .refuse "greater_than_equal"

def ofObject (v : Value) : Checked Spec :=
  let action := typedMember v "action" (.ok ()) readAction
  let table := typedMember v "table" (.refuse "missing") readText
  let fields := typedMember v "fields" (.ok []) (readList readText)
  let filters := typedMember v "filters" (.ok []) (readList Filter.ofObject)
  let limit := typedMember v "limit" (.ok 10) readLimit
  (Checked.both action (Checked.both table (Checked.both fields (Checked.both filters limit)))).map
    fun (_, table, fields, filters, limit) => ⟨table, fields, filters, limit⟩

end Spec

end QueryGate
