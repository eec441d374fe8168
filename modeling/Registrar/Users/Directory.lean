import Registrar.Error
import Registrar.Text.WhiteSpace
import Registrar.Users.Record
/-!
The table of registered users.

A login has one row and an identifier has one row. Entering a user under a login that is there merges
the two: the row keeps its identifier and its time of creation, gains the new roles, and takes the new
messenger identity if one is given.
-/

namespace Registrar

/-- The rows of the table, in the order in which they were entered. -/
structure Directory where
  rows : List UserRecord
deriving DecidableEq

namespace Directory

def empty : Directory := ⟨[]⟩

def byLogin? (d : Directory) (login : String) : Option UserRecord :=
  d.rows.find? fun r => r.login = login

def byId? (d : Directory) (id : String) : Option UserRecord :=
  d.rows.find? fun r => r.id = id

/-- The row of a login after a record with that login has been entered. -/
def merge (now : Instant) (row given : UserRecord) : UserRecord :=
  { row with
    telegramId := given.telegramId.or row.telegramId
    roles := row.roles.union given.roles
    updatedAt := now }

/-- The reason for which an identifier cannot be entered twice. -/
def duplicateId : UsersError :=
  .database "error returned from database: (code: 1555) UNIQUE constraint failed: users.id"

/-- The reason for which a login without visible characters is refused. -/
def blankLogin : UsersError := .invalid "login must not be empty"

/-- Enters a record, or merges it with the row of its login; the answer is the row as it then is. -/
def enter (now : Instant) (given : UserRecord) (d : Directory) :
    Except UsersError UserRecord × Directory :=
  if Text.isBlank given.login then (.error blankLogin, d)
  else
    match d.byLogin? given.login with
    | some row =>
      let merged := merge now row given
      (.ok merged, ⟨d.rows.map fun r => if r.login = given.login then merged else r⟩)
    | none =>
      match d.byId? given.id with
      | some _ => (.error duplicateId, d)
      | none =>
        let row := { given with updatedAt := now }
        (.ok row, ⟨d.rows ++ [row]⟩)

end Directory

end Registrar
