import ImageRequest.Options
import ImageRequest.Token

/-!
# Handlers

A handler carries out one directive: it reads tokens and changes the options in place. On the way it
may give warnings, and it may end with a rejection. What it changed before a rejection stands, so
handlers live in `EStateM`, where the state survives an error.

A handler sees the options it is run on and may do one thing or another because of them.
-/

namespace ImageRequest

/-- Options after a run, the warnings of the run, and the rejection that ended it, if any. -/
structure Outcome where
  options : Options
  warnings : List Warning
  rejection? : Option Rejection
deriving Repr, DecidableEq

/-- What a handler works on: the options, and the warnings given so far. -/
structure Progress where
  options : Options
  warnings : List Warning

/-- A step in carrying out a directive. -/
abbrev Handler := EStateM Rejection Progress

namespace Handler

/-- Run a handler on some options. -/
def run (handler : Handler Unit) (options : Options) : Outcome :=
  match EStateM.run handler { options, warnings := [] } with
  | .ok _ progress => { progress with rejection? := none }
  | .error rejection progress => { progress with rejection? := some rejection }

/-- The options as they are now. -/
def options : Handler Options := do
  return (← get).options

/-- Change the options. -/
def change (f : Options → Options) : Handler Unit :=
  modify fun progress => { progress with options := f progress.options }

/-- Give some warnings. -/
def warn (warnings : List Warning) : Handler Unit :=
  modify fun progress => { progress with warnings := progress.warnings ++ warnings }

/-- Take a value that was read, or end with the rejection of its token. -/
def read {α : Type} : Except Rejection α → Handler α
  | .ok value => pure value
  | .error rejection => throw rejection

/-- Read a token as a truth value, with a warning if it is none. -/
def flag (token : String) : Handler Bool := do
  warn (Token.boolWarnings token)
  return Token.bool token

/-- The only argument of a directive that takes one. -/
def single (label : String) (arguments : List String) : Handler String :=
  match arguments with
  | [token] => pure token
  | _ => throw (.invalidArguments label arguments)

/-- Use an argument, unless it is missing or empty. -/
def slot (arguments : List String) (index : Nat) (use : String → Handler Unit) : Handler Unit :=
  match arguments[index]? with
  | none => pure ()
  | some "" => pure ()
  | some token => use token

end Handler

end ImageRequest
