import QueryGate.Number.Binary64
import QueryGate.Store.Address

/-!
# Databases behind addresses

The first part of an address names a dialect and perhaps a driver; its query sets options. Main
definition: `DatabaseAddress.dialect`, which checks all of it.
-/

set_option autoImplicit false

namespace QueryGate.DatabaseAddress

def kinDrivers : List String :=
  ["mysqldb", "base", "pymysql", "mysqlconnector", "aiomysql", "asyncmy", "cymysql", "pyodbc",
    "mariadbconnector"]

/-- The dialects with their drivers; the first driver of a dialect is its usual one, which has a
second name. -/
def dialects : List (String × List String) :=
  [("postgresql", ["psycopg2", "base", "psycopg", "pg8000", "asyncpg", "psycopg2cffi"]),
    ("sqlite", ["pysqlite", "base", "aiosqlite", "pysqlcipher"]),
    ("mysql", kinDrivers), ("mariadb", kinDrivers),
    ("oracle", ["cx_oracle", "base", "oracledb"]),
    ("mssql", ["pyodbc", "base", "pymssql", "aioodbc"])]

def presentDrivers : List (String × String) :=
  [("postgresql", "psycopg2"), ("postgresql", "base"), ("sqlite", "pysqlite"), ("sqlite", "base")]

def isFileAddress (a : DatabaseAddress) : Bool :=
  let given (part : Option String) : Bool := part.any (!·.isEmpty)
  !(given a.user || given a.password || given a.host || a.service.any (· != 0))

def values (a : DatabaseAddress) (key : String) : List String :=
  a.query.filterMap fun (k, v) => if k = key then some v else none

def switch? (text : String) : Option Bool :=
  let word := Text.lower (Text.trim text)
  if ["true", "yes", "on", "y", "t", "1"].contains word then some true
  else if ["false", "no", "off", "n", "f", "0"].contains word then some false
  else none

def switchOption (a : DatabaseAddress) (key : String) : Attempt Bool :=
  match a.values key with
  | [] => .ok false
  | [v] =>
    match switch? v with
    | some on => .ok on
    | none => .error (.badValue "neither on nor off")
  | _ => .ok true

def numberOption (a : DatabaseAddress) (key : String) (isNumber : String → Bool) :
    Attempt Unit :=
  match a.values key with
  | [] => .ok ()
  | [v] => if isNumber v then .ok () else .error (.badValue "no number")
  | _ => .error (.wrongKind "several numbers")

def fileOptions : List String :=
  ["uri", "timeout", "isolation_level", "detect_types", "check_same_thread", "cached_statements"]

/-- Checks the options of a file database. Where its path is an address, the other options belong
to that, and then it has to be there. -/
def checkFile (a : DatabaseAddress) : Attempt Unit := do
  let isUri ← a.switchOption "uri"
  a.numberOption "timeout" fun v => (Binary64.read? v.toList).isSome
  a.numberOption "detect_types" fun v => (readInt? v.toList).isOk
  let _ ← a.switchOption "check_same_thread"
  a.numberOption "cached_statements" fun v => (readInt? v.toList).isOk
  if isUri && a.database.isNone && a.query.any (fun (k, _) => !fileOptions.contains k) then
    .error (.wrongKind "no path for the options")
  else .ok ()

structure Hosts where
  hosts : Option (List String)
  services : Option (List String)
  together : Bool

def hostWithService? (cs : List Char) : Option (String × String) :=
  match Text.splitFirst ':' cs with
  | some (host, service) =>
    if host.all (fun c => Percent.isAlphanumeric c || c == '.' || c == '-') &&
        service.all Text.isDigit then
      some (String.ofList host, String.ofList service)
    else none
  | none => none

def readHosts (a : DatabaseAddress) : Attempt Hosts :=
  match a.values "host" with
  | [] => .ok ⟨none, none, false⟩
  | [text] =>
    match (Text.splitAll ',' text.toList).length, hostWithService? text.toList with
    | 1, some (host, service) => .ok ⟨some [host], some [service], true⟩
    | _, _ => .ok ⟨some ((Text.splitAll ',' text.toList).map String.ofList), none, false⟩
  | texts =>
    let parts := texts.map fun t => (Text.splitAll ':' t.toList).map String.ofList
    if parts.all (3 ≤ ·.length) then .error (.badValue "too many parts of a host")
    else .ok ⟨some (parts.map (·.headD "")), some (parts.map fun p => (p[1]?).getD ""), true⟩

def readServices (a : DatabaseAddress) (h : Hosts) : Attempt Hosts :=
  match a.values "port" with
  | [] => .ok h
  | texts =>
    if h.together then .error .unreadableAddress
    else
      let services := match texts with
        | [text] => (Text.splitAll ',' text.toList).map String.ofList
        | texts => texts
      .ok { h with services := some services }

/-- Checks the hosts that options name: numbers are numbers, and there is one for each host. -/
def checkHosts (a : DatabaseAddress) : Attempt Unit := do
  let h ← a.readServices (← a.readHosts)
  match h.services with
  | none => .ok ()
  | some services =>
    let hostCount := (h.hosts.map List.length).getD 0
    if services.any (fun t => !t.isEmpty && !(readInt? t.toList).isOk) then
      .error .unreadableAddress
    else if hostCount != services.length && (1 < services.length || 1 < hostCount) then
      .error .unreadableAddress
    else .ok ()

/-- The dialect of the database, if the dialect is known, its driver is at hand and the address
suits it. No plug-ins are known. -/
def dialect (a : DatabaseAddress) : Attempt String :=
  let parts := Text.splitAll '+' a.driver.toList
  let name := String.ofList (parts.headD [])
  if !(a.values "plugin").isEmpty then .error .unknownDialect
  else if 2 < parts.length then .error (.badValue "too many drivers")
  else
    match Assoc.get? name dialects with
    | none => .error .unknownDialect
    | some drivers =>
      let driver := match parts with
        | [_, driver] => String.ofList driver
        | _ => drivers.headD ""
      if !drivers.contains driver then .error .unknownDialect
      else if !presentDrivers.contains (name, driver) then .error .driverMissing
      else if name == "sqlite" then do
        if a.isFileAddress then a.checkFile else .error .unreadableAddress
        .ok name
      else do
        a.checkHosts
        .ok name

end QueryGate.DatabaseAddress
