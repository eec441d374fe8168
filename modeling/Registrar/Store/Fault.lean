import Registrar.Json.Access
import Registrar.Store.Call
/-!
Rules by which a store refuses calls, for trying out what the bot does when its store fails.
-/

namespace Registrar

/-- Refuses the calls of one kind, perhaps only those that name one field, perhaps only the one with
a given number among them. -/
structure FaultRule where
  kind : StoreCall.Kind
  subject : Option String
  nth : Option Nat
  reason : String
  seen : Nat
deriving DecidableEq

def StoreCall.Kind.ofName : String → StoreCall.Kind
  | "get" => .get
  | "set" => .set
  | "delete" => .delete
  | "get_data" => .getData
  | "set_data" => .setData
  | _ => .clearData

namespace FaultRule

def ofJson (v : Json) : FaultRule :=
  ⟨.ofName (Json.Access.text v "op"), Json.Access.text? v "field", Json.Access.nat? v "nth",
    Json.Access.text v "message", 0⟩

def concerns (rule : FaultRule) (call : StoreCall) : Bool :=
  rule.kind = call.kind &&
    match rule.subject with
    | some s => call.subject? == some s
    | none => true

/-- The reason for which the first rule that applies refuses a call, and the rules after they have
counted the call. A rule that comes after it does not count. -/
def judge (call : StoreCall) : List FaultRule → Option String × List FaultRule
  | [] => (none, [])
  | rule :: rules =>
    if rule.concerns call then
      let counted := { rule with seen := rule.seen + 1 }
      let applies : Bool :=
        match rule.nth with
        | some n => counted.seen = n
        | none => true
      if applies then (some rule.reason, counted :: rules)
      else
        let (verdict, rules) := judge call rules
        (verdict, counted :: rules)
    else
      let (verdict, rules) := judge call rules
      (verdict, rule :: rules)

end FaultRule

end Registrar
