import GoLiteral.Program.Surroundings

/-!
# Machines in memory

A `Machine` is all that surrounds a run, as a value: what the run reads, and what it has written
so far. So a whole run is a function, from machines to machines.
-/

namespace GoLiteral.Program

/-- What surrounds a run, at one moment. -/
structure Machine where
  /-- The directory that the run was started in. -/
  files : FileTree := {}
  /-- The standard input. -/
  stdin : ByteArray := .empty
  /-- What is on the standard output. -/
  printed : String := ""
  /-- The lines of the log among the messages. -/
  messages : List String := []

namespace Machine

/-- Adds a line to the log. -/
def log (machine : Machine) (path : Option String) (line : String) : Machine :=
  match path with
  | some path =>
    { machine with files := machine.files.append path (line ++ "\n").toUTF8 }
  | none => { machine with messages := machine.messages ++ [line] }

/-- The surroundings of a run on a machine in memory. -/
def surroundings : Surroundings (StateM Machine) where
  readText path := do return ((← get).files.read path).bind decodeText
  contains path := do return (← get).files.contains path
  openLog path := do
    match (← get).files.open? path with
    | some files =>
      modify fun machine ↦ { machine with files := files }
      return true
    | none => return false
  log path line := modify fun machine ↦ machine.log path line
  stdin := do return (← get).stdin
  print text := modify fun machine ↦ { machine with printed := machine.printed ++ text }

end Machine

end GoLiteral.Program
