/-
# Courier.Store.Connection -- opening a database

A database is reached at its location, brought up to date, and from then on protected.  What
the way to the server and the server itself do is an argument.

The address of a database is a URL whose query holds settings by name.  The server is reached
over the network, or by a socket in the file system if the host or the setting `host` is a
path.  User and password have to be text once they are decoded; of the settings only those
that can be wrong are looked at, in their order.

A database remembers which migrations were applied to it, with a checksum of each, and which
of them broke off.  One that broke off stops everything, then one that is no longer known,
then one that has changed since; what is left is applied.
-/
import Courier.Pipeline
import Courier.ServiceError
import Courier.Store.Fault
import Courier.Text.Escape
import Courier.Url

namespace Courier.Store

set_option autoImplicit false

/-! ## Locations -/

/-- Where a database is. -/
structure Location where
  url : Url
  /-- Whether the server is reached by a socket in the file system. -/
  socket : Bool

namespace Location

/-- Security modes of a connection. -/
def sslModes : List String := ["disable", "allow", "prefer", "require", "verify-ca", "verify-full"]

/-- The fault in a number, if it has one. -/
def numberFault (bound : Nat) (value : List Char) : Option Fault :=
  match Text.Integer.read bound value with
  | .ok _ => none
  | .error e => some (.configuration e.message)

/-- The fault in a setting, if it has one. -/
def settingFault (name value : List Char) : Option Fault :=
  let name := String.ofList name
  if name = "sslmode" ∨ name = "ssl-mode" then
    if sslModes.contains (String.ofList (value.map Char.toLower)) then none
    else
      let inner := Fault.configuration
        ("unknown value " ++ Text.quoted (String.ofList value) ++ " for `ssl_mode`")
      some (.configuration inner.message)
  else if name = "port" then numberFault 65535 value
  else if name = "statement-cache-capacity" then numberFault (UInt64.size - 1) value
  else if name = "hostaddr" && !Ip.isAddress value then
    some (.configuration "invalid IP address syntax")
  else none

/-- The fault in a text that is written with percent signs, if it has one. -/
def textFault (text : List Char) : Option Fault :=
  match Url.Percent.decodeText text with
  | .ok _ => none
  | .error e => some (.configuration e.message)

/-- The host that is the path of a socket: one that begins with a slash. -/
def socketPath? : Url.Host → Option (List Char)
  | .name text => if (Url.Percent.decode text).head? == some 0x2F then some text else none
  | _ => none

/-- Whether a setting is the path of a socket. -/
def isSocketSetting (name value : List Char) : Bool :=
  String.ofList name == "host" && value.head? == some '/'

/-- The first fault in the address of a database. -/
def fault? (url : Url) : Option Fault :=
  ((url.host.bind socketPath?).bind textFault).or <| (textFault url.user).or <|
    (textFault url.password).or <|
      (Url.Query.settings url.query).findSome? fun (name, value) => settingFault name value

/-- The location that a URL with such settings tells. -/
def ofUrl (url : Url) : Location where
  url := url
  socket := (url.host.bind socketPath?).isSome ||
    (Url.Query.settings url.query).any fun (name, value) => isSocketSetting name value

/-- Reads the address of a database. -/
def read (text : String) : Except Fault Location :=
  match Url.read text with
  | .error e => .error (.configuration e.message)
  | .ok url =>
      match fault? url with
      | some fault => .error fault
      | none => .ok (ofUrl url)

/-- What comes of looking for a server where there is neither a network, for the
reason given, nor a socket. -/
def unreachable (reason : String) (l : Location) : Fault :=
  .communication (if l.socket then "No such file or directory (os error 2)" else reason)

end Location

/-! ## Migrations -/

/-- A change to the tables. -/
structure Migration where
  version : Int
  statements : List String

/-- A migration that a database remembers. -/
structure Applied where
  version : Int
  /-- Whether it is the one known today. -/
  unchanged : Bool

/-- What a database remembers of migrations. -/
structure Ledger where
  applied : List Applied
  /-- The version that broke off. -/
  broken : Option Int

namespace Migration

/-- The table of notifications and its indexes. -/
def createNotifications : Migration where
  version := 20240101000000
  statements :=
    ["CREATE TABLE IF NOT EXISTS notifications ( id TEXT PRIMARY KEY, to_email TEXT NOT NULL, " ++
        "subject TEXT NOT NULL, body TEXT NOT NULL, status TEXT NOT NULL DEFAULT 'pending', " ++
        "type TEXT NOT NULL, retry_count INTEGER NOT NULL DEFAULT 0, created_at TIMESTAMPTZ " ++
        "NOT NULL DEFAULT NOW(), sent_at TIMESTAMPTZ, error TEXT )",
      "CREATE INDEX IF NOT EXISTS idx_notifications_to_email ON notifications (to_email)",
      "CREATE INDEX IF NOT EXISTS idx_notifications_status ON notifications (status)"]

def known : List Migration := [createNotifications]

/-- The migrations that are still to be applied. -/
def outstanding (ledger : Ledger) : Except MigrationFault (List Migration) :=
  match ledger.broken with
  | some version => .error (.partly version)
  | none =>
      match ledger.applied.find? fun a => !known.any (·.version == a.version) with
      | some a => .error (.missing a.version)
      | none =>
          match ledger.applied.find? fun a => !a.unchanged with
          | some a => .error (.modified a.version)
          | none => .ok (known.filter fun m => !ledger.applied.any (·.version == m.version))

end Migration

/-! ## Connections -/

/-- An open database. -/
structure Connection where
  maxConnections : UInt32
  protection : Circuit.Config

/-- Opens a database; answers also how many migrations were applied.  `reach` is what
comes of connecting to a server: what it remembers of migrations, or a fault. -/
def Connection.establish (url : String) (maxConnections : UInt32)
    (reach : Location → Except Fault Ledger) : Except ServiceError Connection × Nat :=
  match (Location.read url).bind reach with
  | .error fault => (.error (.ofFault fault), 0)
  | .ok ledger =>
      match Migration.outstanding ledger with
      | .error fault => (.error (.ofMigrationFault fault), 0)
      | .ok migrations =>
          (.ok ⟨maxConnections, Pipeline.Config.database.circuit⟩, migrations.length)

end Courier.Store
