import Autograder.Text.Lowercase

/-!
# Log records

A record says what happened, where, and how grave it is. Which records are kept is a matter of the
log level.
-/

namespace Autograder.Log

open Autograder.Text

inductive Severity where
  | error
  | warn
  | info
  | debug
  | trace
deriving DecidableEq, Repr

namespace Severity

def name : Severity → String
  | error => "ERROR"
  | warn => "WARN"
  | info => "INFO"
  | debug => "DEBUG"
  | trace => "TRACE"

/-- The place of a severity among all, the gravest first. -/
def rank : Severity → Nat
  | error => 1
  | warn => 2
  | info => 3
  | debug => 4
  | trace => 5

def all : List Severity :=
  [error, warn, info, debug, trace]

end Severity

/-- The least grave records that are kept. -/
inductive Level where
  /-- No record is kept. -/
  | off
  | upTo (severity : Severity)
deriving DecidableEq, Repr

namespace Level

def name : Level → String
  | off => "OFF"
  | upTo severity => severity.name

def all : List Level :=
  off :: Severity.all.map upTo

/-- The level that a text names in any case; a text that names none stands for `INFO`. -/
def ofText (text : String) : Level :=
  let plain := lowercase text.toList
  (all.find? fun level => lowercase level.name.toList == plain).getD (.upTo .info)

/-- Whether records of this severity are kept. -/
def keeps (level : Level) (severity : Severity) : Bool :=
  match level with
  | off => false
  | upTo least => severity.rank ≤ least.rank

end Level

/-- A log record, with the part of the program that it comes from. -/
structure Record where
  severity : Severity
  source : String
  message : String
deriving DecidableEq

namespace Record

/-- The record as a line of a log. -/
def line (record : Record) : String :=
  "[" ++ record.severity.name ++ "][" ++ record.source ++ "] " ++ record.message

def summary (record : Record) : String :=
  record.severity.name ++ " " ++ record.source ++ " " ++ record.message

end Record

/-- The records that are kept at a level. -/
def Level.select (level : Level) (records : List Record) : List Record :=
  records.filter fun record => level.keeps record.severity

end Autograder.Log
