import Overseer.Pattern.Regex
import Overseer.Text.Octets

/-!
# Record programs

A record program is a list of rules. Each says which records it is for and what is done
with them; a record is a line, or what else the input is divided into, and has numbered
fields.
-/

namespace Overseer.Records

inductive Arithmetic
  | add
  | subtract
  | multiply
  | divide
  | remainder
  | power

inductive Comparison
  | less
  | atMost
  | equal
  | different
  | atLeast
  | more

/-- The functions that are there without being written. -/
inductive Builtin
  | length
  | part
  | index
  | split
  | replace
  | replaceAll
  | search
  | format
  | lower
  | upper
  | whole
  | sine
  | cosine
  | angle
  | exponential
  | logarithm
  | root
  | random
  | seed
  | run
  | close
  | flush
  | seconds
  | date
  deriving DecidableEq

mutual

inductive Expr
  | number (value : Float)
  | text (octets : Octets)
  /-- Whether the record has a match. -/
  | regex (regex : Regex)
  | place (place : Place)
  /-- Puts a value in a place, or the value that comes of it and the one that was there. -/
  | assign (place : Place) (operation : Option Arithmetic) (value : Expr)
  /-- Adds an amount to a place, and comes to what was there before or is there afterwards. -/
  | step (place : Place) (amount : Float) (showsBefore : Bool)
  | arithmetic (operation : Arithmetic) (left right : Expr)
  | negated (inner : Expr)
  | positive (inner : Expr)
  | opposite (inner : Expr)
  | compare (comparison : Comparison) (left right : Expr)
  /-- Whether a text has a match, or whether it has none. -/
  | match (isWanted : Bool) (subject pattern : Expr)
  | both (left right : Expr)
  | either (left right : Expr)
  | choice (test yes no : Expr)
  | joined (left right : Expr)
  | isKey (subscripts : List Expr) (table : Octets)
  | call (name : Octets) (arguments : List Expr)
  | apply (builtin : Builtin) (arguments : List Expr)
  /-- Reads a record, into a place if there is one. -/
  | readRecord (source : Source) (place : Option Place)
  /-- Expressions in brackets, which have no value of their own. -/
  | row (items : List Expr)

inductive Place
  | named (name : Octets)
  | element (table : Octets) (subscripts : List Expr)
  | field (number : Expr)

/-- Where a record is read from. -/
inductive Source
  | input
  | file (path : Expr)
  | command (line : Expr)

end

/-- What output goes to. -/
inductive Outlet
  | file
  | endOfFile
  | command
  deriving DecidableEq

inductive Statement
  | nothing
  | evaluate (value : Expr)
  | print (values : List Expr) (target : Option (Outlet × Expr))
  | printFormatted (values : List Expr) (target : Option (Outlet × Expr))
  | block (statements : List Statement)
  | choice (test : Expr) (yes no : Statement)
  /-- Repeats a body, and a step after it, while a test holds. -/
  | loop (test : Option Expr) (step body : Statement)
  | loopAfter (body : Statement) (test : Expr)
  | overKeys (place : Place) (table : Octets) (body : Statement)
  /-- Takes an element out of a table, or all of them. -/
  | delete (table : Octets) (subscripts : Option (List Expr))
  | next
  | nextFile
  | leave
  | again
  | exit (status : Option Expr)
  | return (value : Option Expr)

/-- The records that a rule is for. -/
inductive Selector
  | beginning
  | ending
  | every
  | when (test : Expr)
  | range (first last : Expr)

structure Rule where
  selector : Selector
  /-- What is done; without it, the record is put out. -/
  action : Option Statement

structure Function where
  name : Octets
  parameters : List Octets
  body : Statement

structure Program where
  rules : List Rule := []
  functions : List Function := []

end Overseer.Records
