import QueryGate.Seed.Generate
import QueryGate.Settings
import QueryGate.Store.Rows

/-!
# Loading generated rows

The store is emptied and filled in one transaction: referring rows are deleted before the rows they
refer to, and inserted after them. `Seed.run` also tells what is printed on the way, which stays
printed when a later step fails.
-/

set_option autoImplicit false

namespace QueryGate.Seed

def clearing : List Change := StoreTable.all.reverse.map .clear

def filling (rows : Store) (table : StoreTable) : Change :=
  match rows.rows table with
  | [] => .insertBlank table
  | r :: rs => .insert (r :: rs)

def statements (rows : Store) : List Change := clearing ++ StoreTable.all.map (filling rows)

def tableLine (rows : Store) (table : StoreTable) : String :=
  "  " ++ Text.padRight 13 table.name ++ " " ++
    Text.padLeft 6 (toString (rows.rows table).length) ++ " rows"

def fill (rows : Store) : List StoreTable → Store → List String × Attempt Store
  | [], s => ([], .ok s)
  | table :: rest, s =>
    match s.apply (filling rows table) with
    | .error e => ([], .error e)
    | .ok s =>
      let (lines, result) := fill rows rest s
      (tableLine rows table :: lines, result)

def load (rows : Store) (s : Store) : List String × Attempt Store :=
  match s.applyAll clearing with
  | .error e => ([], .error e)
  | .ok s => fill rows StoreTable.all s

/-- What is printed before anything is drawn; of the address only what follows its last `@`. -/
def greeting (settings : Settings) : String :=
  "Connecting to " ++ String.ofList (Text.afterLast '@' settings.databaseUrl.toList) ++ " ..."

def farewell : String := "Seed complete."

structure Outcome where
  printed : List String
  result : Attempt Unit
  store : Store

/-- Generates rows and loads them. -/
def run {σ : Type} (supply : Supply σ) (sizes : Sizes) (settings : Settings) (store : Store)
    (state : σ) : Outcome × σ :=
  let first := greeting settings
  match generate supply sizes state with
  | (.error e, state) => (⟨[first], .error e, store⟩, state)
  | (.ok rows, state) =>
    match load rows store with
    | (lines, .error e) => (⟨first :: lines, .error e, store⟩, state)
    | (lines, .ok filled) => (⟨first :: lines ++ [farewell], .ok (), filled⟩, state)

end QueryGate.Seed
