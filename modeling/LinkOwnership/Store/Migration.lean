/-
# LinkOwnership.Store.Migration -- bringing the table into shape

Migrations are the files of a directory whose names end in `.sql`, hidden ones included, in
the order of their names.  `Migration.run` executes them one after the other and stops at the
first that fails.  Its `Report` holds the log, the statements that were executed, and the name
of the migration that failed, if one did.

A line of a file may end in a carriage return, a line feed, or both; the statement has line
feeds only.
-/
import LinkOwnership.Log
import LinkOwnership.Text.Quoted
import Std.Data.ExtTreeMap

namespace LinkOwnership.Migration

set_option autoImplicit false

/-- What a name in the directory stands for. -/
inductive Entry where
  | file (text : String)
  | directory
  deriving DecidableEq, Repr

abbrev Directory := Std.ExtTreeMap String Entry

/-- How a database takes statements: not at all when it is down, and not those in which a
certain text occurs. -/
structure Target where
  down : Bool
  failOn : Option String
  deriving DecidableEq, Repr

structure Report where
  logs : List LogEntry
  executed : List String
  failed : Option String
  deriving DecidableEq, Repr

def failureMessage (name : String) : String := "Database migration failed: " ++ name

/-- How the directory is written in the log. -/
def directoryName : String := "<DIR>"

def occursIn (needle : List Char) : List Char → Bool
  | [] => needle.isEmpty
  | c :: rest => needle.isPrefixOf (c :: rest) || occursIn needle rest

def lineFeeds : List Char → List Char
  | [] => []
  | '\r' :: '\n' :: rest => '\n' :: lineFeeds rest
  | '\r' :: rest => '\n' :: lineFeeds rest
  | c :: rest => c :: lineFeeds rest

def isMigrationName (name : String) : Bool := ".sql".toList.isSuffixOf name.toList

/-- Read and execute one migration: the statement, or the words for what went wrong. -/
def execute (target : Target) (name : String) : Entry → Except String String
  | .directory =>
      .error ("[Errno 21] Is a directory: " ++ Text.quoteString (directoryName ++ "/" ++ name))
  | .file text =>
      let statement := lineFeeds text.toList
      if target.down then .error "database is down"
      else if target.failOn.any (fun needle => occursIn needle.toList statement) then
        .error "statement failed"
      else .ok (String.ofList statement)

def runEach (target : Target) : List (String × Entry) → Report
  | [] => ⟨[], [], none⟩
  | (name, entry) :: rest =>
      let started := LogEntry.info ("Executing migration: " ++ name)
      match execute target name entry with
      | .error why =>
          ⟨[started, .error ("Migration failed: " ++ name ++ " - " ++ why)], [], some name⟩
      | .ok statement =>
          let report := runEach target rest
          { report with
            logs := started :: .info ("Migration complete: " ++ name) :: report.logs
            executed := statement :: report.executed }

/-- Execute the migrations of a directory, if the directory exists. -/
def run (target : Target) : Option Directory → Report
  | none => ⟨[.warning ("Migrations directory not found: " ++ directoryName)], [], none⟩
  | some directory =>
      match directory.toList.filter (fun entry => isMigrationName entry.1) with
      | [] => ⟨[.info "No migration files found"], [], none⟩
      | migrations =>
          let report := runEach target migrations
          let count := LogEntry.info ("Running " ++ toString migrations.length ++ " migration(s)")
          { report with logs := count :: report.logs }

/-- The migrations of the program itself. -/
def builtIn : Directory := .ofList [
  ("001_create_package_user_states.sql", Entry.file
    ("CREATE TABLE IF NOT EXISTS package_user_states (\n"
      ++ "    user_id INTEGER NOT NULL,\n"
      ++ "    package_name TEXT NOT NULL,\n"
      ++ "    record BYTEA NOT NULL,\n"
      ++ "    updated_at TIMESTAMPTZ NOT NULL DEFAULT NOW(),\n"
      ++ "    PRIMARY KEY (user_id, package_name)\n"
      ++ ");\n")),
  ("002_add_approved_hosts.sql", Entry.file
    ("ALTER TABLE package_user_states\n"
      ++ "    ADD COLUMN IF NOT EXISTS approved_hosts TEXT[] NOT NULL DEFAULT '\x7b\x7d';\n"))]

end LinkOwnership.Migration
