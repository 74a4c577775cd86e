/-
# Courier.Store.Fault -- what can go wrong with a database

Faults of the database and of bringing its tables up to date, each with the text it
is told by.
-/

namespace Courier.Store

set_option autoImplicit false

/-- A fault of a database or of the way to it. -/
inductive Fault where
  /-- A row was expected and there is none. -/
  | rowNotFound
  | poolClosed
  | poolTimedOut
  | workerCrashed
  /-- The server's answer makes no sense. -/
  | protocol (detail : String)
  | columnNotFound (name : String)
  /-- The server answered with an error. -/
  | server (detail : String)
  /-- The server cannot be talked to. -/
  | communication (detail : String)
  /-- The address of the database is wrong. -/
  | configuration (detail : String)
  deriving DecidableEq

def Fault.message : Fault → String
  | .rowNotFound => "no rows returned by a query that expected to return at least one row"
  | .poolClosed => "attempted to acquire a connection on a closed pool"
  | .poolTimedOut => "pool timed out while waiting for an open connection"
  | .workerCrashed => "attempted to communicate with a crashed background worker"
  | .protocol detail => "encountered unexpected or invalid data: " ++ detail
  | .columnNotFound name => "no column found for name: " ++ name
  | .server detail => "error returned from database: " ++ detail
  | .communication detail => "error communicating with database: " ++ detail
  | .configuration detail => "error with configuration: " ++ detail

/-- A fault in bringing tables up to date. -/
inductive MigrationFault where
  /-- A migration that was applied is no longer known. -/
  | missing (version : Int)
  /-- A migration has changed since it was applied. -/
  | modified (version : Int)
  /-- A migration was applied in part. -/
  | partly (version : Int)
  /-- A statement failed. -/
  | execution (fault : Fault)
  deriving DecidableEq

def MigrationFault.message : MigrationFault → String
  | .missing version =>
      "migration " ++ toString version ++
        " was previously applied but is missing in the resolved migrations"
  | .modified version =>
      "migration " ++ toString version ++ " was previously applied but has been modified"
  | .partly version =>
      "migration " ++ toString version ++
        " is partially applied; fix and remove row from `_sqlx_migrations` table"
  | .execution fault => "while executing migrations: " ++ fault.message

end Courier.Store
