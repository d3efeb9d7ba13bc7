import QueryGate.Yaml.Token

/-!
# Reading YAML documents

The reader takes block mappings and sequences, lists in brackets, scalars of the plain and the two
quoted styles, and comments. A text is refused as unscannable where no token can stand, or where a
colon has no key before it or a key no colon behind it; it is refused as unparsable where its tokens
do not nest.
-/

set_option autoImplicit false

namespace QueryGate.Yaml

def Place.isDash (p : Place) : Bool :=
  match p.rest with
  | '-' :: rest => atGap rest
  | _ => false

def unexpected (flow : Bool) (p : Place) : Failure :=
  match Scalar.read? flow 0 p.rest with
  | some (.error e) => e
  | some (.ok _) => .unparsable
  | none => if p.rest.head?.all (fun c => "-?:,[]\x7b\x7d&*!|>".toList.contains c) then .unparsable
      else .unscannable

def keyText (v : Value) : String := v.shown

mutual

/-- The items of a list in brackets up to the closing one; the place is behind a bracket or
comma. -/
def bracketItems : Nat → Place → Attempt (List Value × List Char)
  | 0, _ => .error .unparsable
  | fuel + 1, p =>
    match p.rest with
    | [] => .error .unparsable
    | ']' :: rest => .ok ([], rest)
    | _ => do
      let (v, rest) ← bracketItem fuel p
      let next := Place.skip 0 rest
      match next.rest with
      | ',' :: rest => do
        let (vs, tail) ← bracketItems fuel (Place.skip 0 rest)
        .ok (v :: vs, tail)
      | ']' :: rest => .ok ([v], rest)
      | _ => .error (unexpected true next)

def bracketItem : Nat → Place → Attempt (Value × List Char)
  | 0, _ => .error .unparsable
  | fuel + 1, p =>
    match p.rest with
    | '[' :: rest => (bracketItems fuel (Place.skip 0 rest)).map fun (vs, rest) => (.list vs, rest)
    | cs =>
      match Scalar.read? true 0 cs with
      | some s => s.map fun s => (s.value, s.rest)
      | none => .error (unexpected true p)

end

mutual

/-- The node at a place whose lines start at the least column or behind it, and the place after it.
`keyed` says whether a mapping or sequence may start here. -/
def node : Nat → Nat → Bool → Place → Attempt (Value × Place)
  | 0, _, _, _ => .error .unparsable
  | fuel + 1, least, keyed, p =>
    if p.isDash then
      if keyed then (items fuel p.column false p).map fun (vs, p) => (.list vs, p)
      else .error .unscannable
    else
      match p.rest with
      | [] => .ok (.null, p)
      | '[' :: rest => do
        let (vs, rest) ← bracketItems rest.length.succ (Place.skip 0 rest)
        .ok (.list vs, Place.skip 0 rest)
      | cs =>
        match Scalar.read? false least cs with
        | none => .error (unexpected false p)
        | some s => do
          let s ← s
          match s.afterColon? with
          | none => .ok (s.value, Place.skip 0 s.rest)
          | some rest =>
            if keyed && s.oneLine then do
              let (members, p) ← members fuel p.column (keyText s.value) rest
              .ok (.object (Assoc.ofPairs members), p)
            else .error .unscannable

/-- The members of a block mapping at a column; the text is behind the colon of the given key. -/
def members : Nat → Nat → String → List Char → Attempt (List (String × Value) × Place)
  | 0, _, _, _ => .error .unparsable
  | fuel + 1, column, key, rest => do
    let start := Place.skip 0 rest
    let (v, next) ←
      if start.first then
        if column < start.column then node fuel (column + 1) true start
        else if start.column = column && start.isDash then
          (items fuel column true start).map fun (vs, p) => (.list vs, p)
        else .ok (.null, start)
      else node fuel (column + 1) false start
    if next.rest.isEmpty || (next.first && next.column < column) then .ok ([(key, v)], next)
    else if !next.first || column < next.column || next.isDash then
      .error (unexpected false next)
    else
      match Scalar.read? false (column + 1) next.rest with
      | none => .error (unexpected false next)
      | some s => do
        let s ← s
        match s.afterColon? with
        | some rest =>
          if s.oneLine then do
            let (ms, p) ← members fuel column (keyText s.value) rest
            .ok ((key, v) :: ms, p)
          else .error .unscannable
        | none => .error .unscannable

/-- The items of a block sequence with its dashes at a column. A sequence in a mapping may have its
dashes at the column of the keys, and then ends with the next key. -/
def items : Nat → Nat → Bool → Place → Attempt (List Value × Place)
  | 0, _, _, _ => .error .unparsable
  | fuel + 1, column, amongKeys, p => do
    let start := Place.skip (p.column + 1) (p.rest.drop 1)
    let (v, next) ←
      if start.first && start.column ≤ column then .ok (.null, start)
      else node fuel (column + 1) true start
    if next.rest.isEmpty || (next.first && next.column < column) then .ok ([v], next)
    else if !next.first || column < next.column then .error (unexpected false next)
    else if next.isDash then do
      let (vs, p) ← items fuel column amongKeys next
      .ok (v :: vs, p)
    else if amongKeys then .ok ([v], next)
    else
      match Scalar.read? false (column + 1) next.rest with
      | some (.ok s) =>
        .error (if s.oneLine && s.afterColon?.isSome then .unparsable else .unscannable)
      | _ => .error (unexpected false next)

end

def start (cs : List Char) : Place :=
  let p := Place.skipFrom false true 0 cs
  match p.rest with
  | '-' :: '-' :: '-' :: rest => if p.column = 0 && atGap rest then Place.skip 3 rest else p
  | _ => p

def read (s : String) : Attempt Value :=
  let cs := match s.toList with
    | c :: rest => if c = '\ufeff' then rest else c :: rest
    | [] => []
  if cs.any isForbidden then .error .unreadableText
  else do
    let p := start cs
    let (v, next) ← node (2 * cs.length + 2) 0 p.first p
    if next.rest.isEmpty then .ok v else .error (unexpected false next)

end QueryGate.Yaml
