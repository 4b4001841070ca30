import GraphGateway.Settings.Environment

/-!
How the database is reached: its address and credentials, the pool of connections, and how often a
first connection is tried.
-/
namespace GraphGateway.Settings

structure Connection where
  uri : String := "bolt://localhost:7687"
  username : String := "neo4j"
  password : Secret := ⟨"neo4j"⟩
  database : Option String := none
  poolSize : Int := 10
  acquisitionTimeout : Float := 60.0
  transactionRetryTime : Float := 30.0
  timeout : Float := 30.0
  fetchSize : Int := 1000
  /-- How often a first connection is tried. -/
  attempts : Int := 3
  /-- The seconds before the second attempt; every later pause is twice as long. -/
  retryDelay : Float := 1.0
  deriving Repr, Inhabited

namespace Connection

def schemes : List String := ["bolt", "bolt+s", "bolt+ssc", "neo4j", "neo4j+s", "neo4j+ssc"]

/-- The part of an address before its first `://`; all of it if there is none. -/
def schemeOf : List Char → List Char
  | ':' :: '/' :: '/' :: _ => []
  | c :: rest => c :: schemeOf rest
  | [] => []

def schemesShown : String :=
  "(" ++ ", ".intercalate (schemes.map Text.quoted) ++ ")"

def readUri (value : Value) : Checked String := do
  let uri ← readFilledText value
  let scheme := schemeOf uri.toList
  if scheme.length = uri.toList.length || !schemes.contains (String.ofList scheme) then
    throw (.refused s!"Unsupported URI scheme in '{uri}'; expected one of {schemesShown}")
  pure uri

def plusSecure : List Char → Bool
  | '+' :: 's' :: _ => true
  | _ :: rest => plusSecure rest
  | [] => false

/-- Whether the scheme asks for an encrypted connection. -/
def encrypted (connection : Connection) : Bool :=
  plusSecure (schemeOf connection.uri.toList)

/-- The seconds that all attempts may take. -/
def attemptTime (connection : Connection) : Float :=
  connection.timeout * Float.ofInt connection.attempts

/-- The issue of a pause that is longer than all attempts together. -/
def retryIssues (connection : Connection) : List Issue :=
  if connection.attemptTime < connection.retryDelay then
    let delay := Value.floatFormat.render connection.retryDelay
    let time := Value.floatFormat.render connection.attemptTime
    [⟨none, .refused (s!"retry_delay_seconds ({delay}) should be less than " ++
      s!"connection_timeout * max_connection_retries ({time})")⟩]
  else []

def uriKey : String := "neo4j_uri"

def usernameKey : String := "neo4j_username"

def passwordKey : String := "neo4j_password"

def databaseKey : String := "database"

def poolSizeKey : String := "max_connection_pool_size"

def acquisitionKey : String := "connection_acquisition_timeout"

def transactionKey : String := "max_transaction_retry_time"

def timeoutKey : String := "connection_timeout"

def fetchSizeKey : String := "fetch_size"

def attemptsKey : String := "max_connection_retries"

def delayKey : String := "retry_delay_seconds"

def keys : List String :=
  [uriKey, usernameKey, passwordKey, databaseKey, poolSizeKey, acquisitionKey, transactionKey,
   timeoutKey, fetchSizeKey, attemptsKey, delayKey]

/-- The settings with the given fields and the defaults for all others. -/
def ofEntries (given : Entries Value) : Except (List Issue) Connection :=
  let uri := readField given uriKey "bolt://localhost:7687" readUri
  let username := readField given usernameKey "neo4j" readFilledText
  let password := readField given passwordKey ⟨"neo4j"⟩ readSecret
  let database := readField given databaseKey none (readOptional readText)
  let poolSize := readField given poolSizeKey 10 (readWhole 1 200)
  let acquisition := readField given acquisitionKey 60.0 (readNumber 1.0 300.0)
  let transaction := readField given transactionKey 30.0 (readNumber 1.0 120.0)
  let timeout := readField given timeoutKey 30.0 (readNumber 1.0 120.0)
  let fetchSize := readField given fetchSizeKey 1000 (readWhole 100 10000)
  let attempts := readField given attemptsKey 3 (readWhole 1 10)
  let delay := readField given delayKey 1.0 (readNumber 0.0 30.0)
  let extra := strangers keys given
  match uri, username, password, database, poolSize, acquisition, transaction, timeout, fetchSize,
      attempts, delay, extra with
  | .ok uri, .ok username, .ok password, .ok database, .ok poolSize, .ok acquisitionTimeout,
      .ok transactionRetryTime, .ok timeout, .ok fetchSize, .ok attempts, .ok retryDelay, [] =>
        let connection : Connection :=
          { uri, username, password, database, poolSize, acquisitionTimeout, transactionRetryTime,
            timeout, fetchSize, attempts, retryDelay }
        let issues := connection.retryIssues
        if issues.isEmpty then .ok connection else .error issues
  | _, _, _, _, _, _, _, _, _, _, _, _ =>
      .error (issueOf uriKey uri ++ issueOf usernameKey username ++ issueOf passwordKey password ++
        issueOf databaseKey database ++ issueOf poolSizeKey poolSize ++
        issueOf acquisitionKey acquisition ++ issueOf transactionKey transaction ++
        issueOf timeoutKey timeout ++ issueOf fetchSizeKey fetchSize ++
        issueOf attemptsKey attempts ++ issueOf delayKey delay ++ extra)

/-- The settings that a driver takes. -/
def driverEntries (connection : Connection) : Entries Value :=
  [(poolSizeKey, .int connection.poolSize),
   (acquisitionKey, .float connection.acquisitionTimeout),
   (transactionKey, .float connection.transactionRetryTime),
   (timeoutKey, .float connection.timeout)]

/-- The fields by their keys, the password in the open. -/
def entries (connection : Connection) : Entries Value :=
  [(uriKey, .text connection.uri), (usernameKey, .text connection.username),
   (passwordKey, .text connection.password.text),
   (databaseKey, .textOrNull connection.database)] ++ connection.driverEntries ++
  [(fetchSizeKey, .int connection.fetchSize), (attemptsKey, .int connection.attempts),
   (delayKey, .float connection.retryDelay)]

/-- Sets one field if its value is fit for it. -/
def assignField (connection : Connection) (name : String) (value : Value) :
    Connection × List Issue :=
  if name = uriKey then
    assigned connection name (readUri value) fun uri => { connection with uri }
  else if name = usernameKey then
    assigned connection name (readFilledText value) fun username => { connection with username }
  else if name = passwordKey then
    assigned connection name (readSecret value) fun password => { connection with password }
  else if name = databaseKey then
    assigned connection name (readOptional readText value) fun database =>
      { connection with database }
  else if name = poolSizeKey then
    assigned connection name (readWhole 1 200 value) fun poolSize => { connection with poolSize }
  else if name = acquisitionKey then
    assigned connection name (readNumber 1.0 300.0 value) fun acquisitionTimeout =>
      { connection with acquisitionTimeout }
  else if name = transactionKey then
    assigned connection name (readNumber 1.0 120.0 value) fun transactionRetryTime =>
      { connection with transactionRetryTime }
  else if name = timeoutKey then
    assigned connection name (readNumber 1.0 120.0 value) fun timeout => { connection with timeout }
  else if name = fetchSizeKey then
    assigned connection name (readWhole 100 10000 value) fun fetchSize =>
      { connection with fetchSize }
  else if name = attemptsKey then
    assigned connection name (readWhole 1 10 value) fun attempts => { connection with attempts }
  else if name = delayKey then
    assigned connection name (readNumber 0.0 30.0 value) fun retryDelay =>
      { connection with retryDelay }
  else (connection, [⟨some name, .noSuchField⟩])

/-- Sets one field, then looks at the settings as a whole.  A field that is fit stays set even if
the whole has an issue. -/
def assignChecked (connection : Connection) (name : String) (value : Value) :
    Connection × List Issue :=
  match connection.assignField name value with
  | (changed, []) => (changed, changed.retryIssues)
  | refused => refused

def assign (connection : Connection) (name : String) (value : Value) :
    Connection × Option Rejection :=
  assignedTo ["encrypted"] connection name (connection.assignChecked name value)

def overrides : List Override :=
  [⟨"RELGRAPH_NEO4J_URI", uriKey, readWord⟩,
   ⟨"RELGRAPH_NEO4J_USERNAME", usernameKey, readWord⟩,
   ⟨"RELGRAPH_NEO4J_PASSWORD", passwordKey, readWord⟩,
   ⟨"RELGRAPH_NEO4J_DATABASE", databaseKey, readWord⟩,
   ⟨"RELGRAPH_MAX_POOL_SIZE", poolSizeKey, readCount⟩,
   ⟨"RELGRAPH_CONNECTION_TIMEOUT", timeoutKey, readSeconds⟩,
   ⟨"RELGRAPH_FETCH_SIZE", fetchSizeKey, readCount⟩,
   ⟨"RELGRAPH_MAX_CONNECTION_RETRIES", attemptsKey, readCount⟩,
   ⟨"RELGRAPH_RETRY_DELAY", delayKey, readSeconds⟩,
   ⟨"RELGRAPH_CONNECTION_ACQUISITION_TIMEOUT", acquisitionKey, readSeconds⟩,
   ⟨"RELGRAPH_MAX_TRANSACTION_RETRY_TIME", transactionKey, readSeconds⟩]

/-- The settings with what the environment says of them, and the warnings of the reading. -/
def ofEnvironment (environment : Entries String) (base : Option Connection := none) :
    Except (List Issue) Connection × List String :=
  let (given, warnings) :=
    overridden overrides environment ((base.map Connection.entries).getD [])
  (ofEntries given, warnings)

end Connection

end GraphGateway.Settings
