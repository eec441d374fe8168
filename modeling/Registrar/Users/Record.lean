import Registrar.Users.Roles
/-!
What is kept about a registered user.
-/

namespace Registrar

/-- A registered user. The login identifies a user; the identifier is given once and kept. -/
structure UserRecord where
  id : String
  login : String
  telegramId : Option Int64
  roles : Roles
  createdAt : Instant
  updatedAt : Instant
deriving DecidableEq

namespace UserRecord

/-- An identifier of 36 characters, a different one for each number. -/
def identifier (n : Nat) : String :=
  let digits := Nat.toDigits 16 n
  "00000000-0000-4000-8000-" ++ String.ofList (List.replicate (12 - digits.length) '0' ++ digits)

def shape : Decode.Shape :=
  ⟨"struct UserRecord", ["id", "login", "telegram_id", "roles", "created_at", "updated_at"]⟩

def toJson (u : UserRecord) : Json :=
  .ofMembers [("id", .string u.id), ("login", .string u.login),
    ("telegram_id", .optional .int u.telegramId), ("roles", u.roles.toJson),
    ("created_at", .string (Rfc3339.write u.createdAt)),
    ("updated_at", .string (Rfc3339.write u.updatedAt))]

def ofJson (v : Json) : Except DecodeError UserRecord := do
  let ms ← Decode.record shape (fun
    | "id", v | "login", v => Decode.accepts (Decode.string v)
    | "telegram_id", v => Decode.accepts (Decode.option Decode.int64 v)
    | "roles", v => Decode.accepts (Roles.ofJson v)
    | "created_at", v | "updated_at", v => Decode.accepts (Decode.instant v)
    | _, _ => .ok ()) v
  let id ← Decode.required ms "id" Decode.string
  let login ← Decode.required ms "login" Decode.string
  let telegramId ← Decode.optional ms "telegram_id" Decode.int64
  let roles ← Decode.required ms "roles" Roles.ofJson
  let createdAt ← Decode.required ms "created_at" Decode.instant
  let updatedAt ← Decode.required ms "updated_at" Decode.instant
  .ok ⟨id, login, telegramId, roles, createdAt, updatedAt⟩

end UserRecord

end Registrar
