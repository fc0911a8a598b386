import GoLiteral.Program.FileTree

/-!
# What surrounds a run

A run of the program meets the outside in few places, and `Surroundings` lists them, over any
monad in which they can be had. An `Environment` holds what it is told before it starts.
-/

namespace GoLiteral.Program

/-- The places where a run meets the outside. -/
structure Surroundings (m : Type → Type) where
  /-- The text of the file at a path. -/
  readText : String → m (Except FileFault String)
  /-- Whether there is anything at a path. -/
  contains : String → m Bool
  /-- Opens a file for the log, making it where there is none; answers whether that worked. -/
  openLog : String → m Bool
  /-- Adds a line to the log, in a file that is open or else among the messages. -/
  log : Option String → String → m Unit
  /-- All of the standard input. -/
  stdin : m ByteArray
  /-- Writes to the standard output. -/
  print : String → m Unit

/-- What a run is told before it starts. -/
structure Environment where
  /-- The directory of the settings, if it is named outright. -/
  configDir : Option String := none
  /-- The directory for the settings of all programs. -/
  configHome : Option String := none
  /-- The home directory. -/
  home : Option String := none

/-- The path of something in a directory. -/
def joinPath (directory name : String) : String :=
  if directory.isEmpty || directory.toList.getLast? = some '/' then directory ++ name
  else directory ++ "/" ++ name

namespace Environment

/-- The directory for the settings of all programs: the one that is named, by an absolute path, or
else the usual one in the home directory. -/
def sharedConfigHome? (env : Environment) : Option String :=
  match env.configHome with
  | some directory =>
    if directory.toList.head? = some '/' then some directory
    else env.home.map (joinPath · ".config")
  | none => env.home.map (joinPath · ".config")

/-- The file with the settings of the user. -/
def configFile? (env : Environment) : Option String :=
  let directory? :=
    match env.configDir with
    | some directory => some directory
    | none => env.sharedConfigHome?.map (joinPath · "the-literal")
  directory?.map (joinPath · "config.toml")

end Environment

end GoLiteral.Program
