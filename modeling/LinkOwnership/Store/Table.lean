/-
# LinkOwnership.Store.Table -- the records that outlive a run

The table has one row for each package of each user, with the stored form of its record and
the hosts it is approved for.  A `Database` is the table, whether it can be reached, and the
`Engine` that keeps it: the order in which names come is the engine's, and so are the texts that
it refuses.

`Database.save`, `delete` and `deleteUser` write; a record that has no stored form is noticed
before the database is asked.  `Table.load` reads the rows by user, and those of one user in the
engine's order of their names.  A row whose bytes are no record, or whose record belongs under
another key, is passed over with a warning, so it does not keep the others from being read.
-/
import LinkOwnership.Log
import LinkOwnership.Wire.Record
import Std.Data.ExtTreeMap
import Std.Data.ExtTreeSet

namespace LinkOwnership

set_option autoImplicit false

open LinkOwnership.Text (LooseString)

structure RowKey where
  user : Int
  package : String
  deriving DecidableEq, Repr

namespace RowKey

-- The order in which a table is kept here.  It is not the one in which rows are read.
instance : Ord RowKey := ⟨compareLex (compareOn RowKey.user) (compareOn RowKey.package)⟩

instance : Std.TransOrd RowKey :=
  inferInstanceAs (Std.TransCmp (compareLex (compareOn RowKey.user) (compareOn RowKey.package)))

instance : Std.LawfulEqOrd RowKey where
  eq_of_compare {a b} h := by
    have h : (compare a.user b.user).then (compare a.package b.package) = .eq := h
    rw [Ordering.then_eq_eq] at h
    obtain ⟨u, p⟩ := a
    obtain ⟨v, q⟩ := b
    have users : u = v := Std.LawfulEqOrd.eq_of_compare h.1
    have packages : p = q := Std.LawfulEqOrd.eq_of_compare h.2
    rw [users, packages]

end RowKey

/-- One row: the stored form of a record, and the hosts it is approved for. -/
structure Row where
  record : List UInt8
  approved : List (Option LooseString)
  deriving DecidableEq, Repr

abbrev Table := Std.ExtTreeMap RowKey Row

/-! ## What is the database's own -/

/-- What a database brings to the tables it keeps. -/
structure Engine where
  /-- Whether a name comes no later than another in the collation of the column. -/
  le : String → String → Bool
  le_trans : ∀ p q r, le p q = true → le q r = true → le p r = true
  le_total : ∀ p q, (le p q || le q p) = true
  le_antisymm : ∀ p q, le p q = true → le q p = true → p = q
  /-- In which words a text is refused in any statement, if it is. -/
  refusesText : LooseString → Option String
  /-- In which words a name is refused in the key of a new row, if it is. -/
  refusesName : String → Option String

namespace Engine

variable (e : Engine)

/-- A name that comes before another one. -/
def Lesser (p q : String) : Prop := e.le p q = true ∧ p ≠ q

/-- Whether the row of a key is read no later than that of another. -/
def keyLe (a b : RowKey) : Bool :=
  a.user < b.user || a.user = b.user && e.le a.package b.package

/-- The row of a key is read before that of another one. -/
def Precedes (a b : RowKey) : Prop := e.keyLe a b = true ∧ a ≠ b

/-- In which words a row is refused, if it is: for its key, or for a host it is approved for. -/
def refusesRow (package : String) (approved : List LooseString) : Option String :=
  e.refusesText package <|> e.refusesName package <|> approved.findSome? e.refusesText

/-- Names in the order of their code points.  A text must not have the character zero. -/
def byCodePoint : Engine where
  le p q := p ≤ q
  le_trans p q r first second :=
    decide_eq_true (String.le_trans (of_decide_eq_true first) (of_decide_eq_true second))
  le_total p q := by
    rw [Bool.or_eq_true, decide_eq_true_eq, decide_eq_true_eq]
    exact String.le_total p q
  le_antisymm p q first second :=
    String.le_antisymm (of_decide_eq_true first) (of_decide_eq_true second)
  refusesText s :=
    if .char '\x00' ∈ s.points then some "PostgreSQL text fields cannot contain NUL (0x00) bytes"
    else none
  refusesName _ := none

end Engine

/-! ## Reading -/

/-- A record that was read from a row, with the hosts it is approved for. -/
structure Stored where
  record : Record
  approved : List (Option LooseString)

/-- Read one row, or say why it is passed over. -/
def Row.load (key : RowKey) (row : Row) : Except LogEntry Stored :=
  match Record.decode row.record with
  | .error fault =>
      .error (.warning ("Skipping undecodable record for " ++ key.package ++ " in user "
        ++ toString key.user ++ ": " ++ fault.message))
  | .ok record =>
      if record.user = key.user ∧ record.packageName = key.package then
        .ok ⟨record, row.approved⟩
      else
        .error (.warning ("Skipping record keyed (" ++ toString key.user ++ ", " ++ key.package
          ++ ") holding state for (" ++ toString record.user ++ ", " ++ record.packageName
          ++ ")"))

namespace Table

/-- The rows in the order in which they are read. -/
def rows (e : Engine) (t : Table) : List (RowKey × Row) :=
  t.toList.mergeSort fun a b => e.keyLe a.1 b.1

/-- The rows in that order, each read or passed over. -/
def load (e : Engine) (t : Table) : List (Except LogEntry Stored) :=
  (t.rows e).map fun entry => entry.2.load entry.1

def eraseUser (t : Table) (user : Int) : Table := t.filter fun key _ => key.user ≠ user

end Table

/-! ## Writing -/

inductive StoreFault where
  | unwritable (why : Wire.Unwritable)
  | databaseDown
  | refused (words : String)
  deriving DecidableEq, Repr

def StoreFault.message : StoreFault → String
  | .unwritable why => why.message
  | .databaseDown => "database is down"
  | .refused words => words

/-- A table with the engine that keeps it, and whether it is out of reach. -/
structure Database where
  engine : Engine
  table : Table
  down : Bool

namespace Database

def connect (db : Database) : Except StoreFault Table :=
  if db.down then .error .databaseDown else .ok db.table

def accept : Option String → Except StoreFault Unit
  | some words => .error (.refused words)
  | none => .ok ()

def save (db : Database) (r : Record) (approved : List LooseString) :
    Except StoreFault Database := do
  let bytes ← r.encode.mapError .unwritable
  let table ← db.connect
  accept (db.engine.refusesRow r.packageName approved)
  return { db with table := table.insert ⟨r.user, r.packageName⟩ ⟨bytes, approved.map some⟩ }

def delete (db : Database) (user : Int) (package : String) : Except StoreFault Database := do
  let table ← db.connect
  accept (db.engine.refusesText package)
  return { db with table := table.erase ⟨user, package⟩ }

def deleteUser (db : Database) (user : Int) : Except StoreFault Database := do
  let table ← db.connect
  return { db with table := table.eraseUser user }

end Database

end LinkOwnership
