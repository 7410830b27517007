/-!
# Log entries

What the stages of a compilation report about their work, in order. A stage is a computation in
`Logged`: it appends entries and may fail, and the entries before a failure are kept.
-/
set_option autoImplicit false

namespace SceneGraph

/-- The weight of an entry. -/
inductive LogLevel where
  | debug
  | info
  | warn
  | error
deriving Repr, DecidableEq

def LogLevel.name : LogLevel → String
  | .debug => "DEBUG"
  | .info => "INFO"
  | .warn => "WARN"
  | .error => "ERROR"

/-- One report: a message and named values. -/
structure LogEntry where
  level : LogLevel
  message : String
  fields : List (String × String) := []
deriving Repr, DecidableEq

def LogEntry.render (e : LogEntry) : String :=
  e.fields.foldl (fun line f => line ++ " " ++ f.1 ++ "=" ++ f.2) (e.level.name ++ " " ++ e.message)

def LogEntry.names (ids : List String) : String := "[" ++ " ".intercalate ids ++ "]"

/-- Computations that report entries and may fail with a cause. -/
abbrev Logged (ε α : Type) := ExceptT ε (StateM (List LogEntry)) α

namespace Logged

variable {ε α : Type}

def report (e : LogEntry) : Logged ε Unit := modify fun log => log ++ [e]

def debug (message : String) (fields : List (String × String)) : Logged ε Unit :=
  report ⟨.debug, message, fields⟩

/-- A result with a cause of failure, without entries. -/
def ofExcept (r : Except ε α) : Logged ε α := ExceptT.mk (pure r)

/-- A computation with its cause of failure reworded. -/
def adapt {ε' : Type} (f : ε → ε') (x : Logged ε α) : Logged ε' α :=
  ExceptT.mk (do return (← ExceptT.run x).mapError f)

/-- The outcome of a computation and the entries it reported. -/
def outcome (x : Logged ε α) : Except ε α × List LogEntry := (ExceptT.run x).run []

/-- A computation that reports given entries and ends with a given result. -/
def replay (r : Except ε α) (entries : List LogEntry) : Logged ε α := do
  modify (· ++ entries)
  ofExcept r

end Logged

end SceneGraph
