import Registrar.Text.Printable
import Registrar.Time.Rfc3339
/-!
The lines of the log: a time stamp, a level, where the event belongs, a message, and named values.

    2024-01-02 03:04:05   WARN outer{login=alice}: orders: not delivered attempt=3

Only events from the level `info` upwards are written.
-/

namespace Registrar.Log

/-- How grave an event is. -/
inductive Level where
  | error
  | warn
  | info
  | debug
  | trace
deriving DecidableEq

inductive Value where
  /-- A text as it is. -/
  | plain (text : String)
  /-- A text between quotes. -/
  | quoted (text : String)
  | number (value : Int64)
  | numbers (values : List Int64)
  | flag (value : Bool)
deriving DecidableEq

/-- Something that goes on while events happen. -/
structure Span where
  name : String
  fields : List (String × Value)
deriving DecidableEq

structure Event where
  level : Level
  /-- The part of the program that tells of it. -/
  target : String
  message : Option String
  fields : List (String × Value)
  span : Option Span
deriving DecidableEq

namespace Level

def word : Level → String
  | error => "ERROR"
  | warn => "WARN"
  | info => "INFO"
  | debug => "DEBUG"
  | trace => "TRACE"

/-- The word for a level, as wide as the longest of them. -/
def column (l : Level) : String :=
  String.ofList (List.replicate (5 - l.word.length) ' ') ++ l.word

def isShown : Level → Bool
  | error => true
  | warn => true
  | info => true
  | debug => false
  | trace => false

end Level

namespace Value

def write : Value → String
  | plain text => text
  | quoted text => Text.quoted text
  | number value => toString value.toInt
  | numbers values => "[" ++ ", ".intercalate (values.map fun n => toString n.toInt) ++ "]"
  | flag value => if value then "true" else "false"

end Value

def writeFields (fields : List (String × Value)) : List String :=
  fields.map fun f => f.1 ++ "=" ++ f.2.write

def Span.write (s : Span) : String :=
  s.name ++ "\x7b" ++ " ".intercalate (writeFields s.fields) ++ "\x7d: "

/-- The time stamp of an instant, in 19 characters for years of four digits. -/
def stamp (t : Instant) : String :=
  let date := Calendar.Date.ofDays (t.seconds / 86400)
  let second := (t.seconds % 86400).toNat
  String.ofList (Rfc3339.writeYear date.year ++ '-' :: Rfc3339.padded 2 date.month ++
    '-' :: Rfc3339.padded 2 date.day ++ ' ' :: Rfc3339.padded 2 (second / 3600) ++
    ':' :: Rfc3339.padded 2 (second / 60 % 60) ++ ':' :: Rfc3339.padded 2 (second % 60))

/-- An event as it is written after a time stamp. -/
def Event.write (stamp : String) (e : Event) : String :=
  let span := e.span.elim "" Span.write
  stamp ++ "  " ++ e.level.column ++ " " ++ span ++ e.target ++ ": " ++
    " ".intercalate (e.message.toList ++ writeFields e.fields)

/-- What is written of an event, line by line. -/
def Event.lines (stamp : String) (e : Event) : List String :=
  if e.level.isShown then (e.write stamp).splitOn "\n" else []

end Registrar.Log
