import GoLiteral.Program

/-!
# The command line

The program in the surroundings that the operating system gives it.
-/

namespace GoLiteral.Program

/-- Reads a stream to its end. -/
partial def readAll (stream : IO.FS.Stream) (read : ByteArray) : IO ByteArray := do
  let chunk ← stream.read 65536
  if chunk.isEmpty then return read else readAll stream (read ++ chunk)

/-- What the operating system says about a file that cannot be read. The number of an error may
come with its sign changed. -/
def faultOfError : IO.Error → FileFault
  | .noFileOrDirectory .. => .notFound
  | .inappropriateType _ code _ =>
    if code = 21 || code = 0 - 21 then .isDirectory else .notADirectory
  | e@(.invalidArgument _ code _) =>
    if code = 36 || code = 0 - 36 then .nameTooLong else .other (toString e)
  | e => .other (toString e)

/-- The files and streams of the operating system. -/
def systemSurroundings : Surroundings IO where
  readText path := do
    match ← (IO.FS.readBinFile path).toBaseIO with
    | .ok content => return decodeText content
    | .error e => return .error (faultOfError e)
  contains path := do
    match ← (IO.FS.Handle.mk path .read).toBaseIO with
    | .ok _ => return true
    | .error e => return !(faultOfError e matches .notFound | .notADirectory | .nameTooLong)
  openLog path := do
    match ← (IO.FS.Handle.mk path .append).toBaseIO with
    | .ok _ => return true
    | .error _ => return false
  log path line := do
    match path with
    | some path => (← IO.FS.Handle.mk path .append).putStrLn line
    | none => (← IO.getStderr).putStrLn line
  stdin := do readAll (← IO.getStdin) .empty
  print text := do
    let out ← IO.getStdout
    out.putStr text
    out.flush

end GoLiteral.Program

open GoLiteral.Program in
/-- Runs the program and answers with its exit status. -/
def main (words : List String) : IO UInt32 := do
  let env : Environment :=
    { configDir := ← IO.getEnv "THE_LITERAL_CONFIG_DIR"
      configHome := ← IO.getEnv "XDG_CONFIG_HOME"
      home := ← IO.getEnv "HOME" }
  let ending ← run systemSurroundings env words
  match ending with
  | .failure failure => IO.eprintln ("Error: " ++ failure.message)
  | .usage .helpAsked => pure ()
  | .usage .versionAsked => pure ()
  | .usage _ => IO.eprint helpText
  | .success => pure ()
  return ending.exitCode.toUInt32
