import LateBinding.CommandLine.Execution

/-!
# The program

The command line on the files of the machine that it runs on.
-/

namespace LateBinding

/-- The text of a failure of the machine's file system. -/
def failureText : IO.Error → String
  | .noFileOrDirectory _ code details => s!"{details} (os error {code})"
  | .permissionDenied _ code details => s!"{details} (os error {code})"
  | .alreadyExists _ code details => s!"{details} (os error {code})"
  | .inappropriateType _ code details => s!"{details} (os error {code})"
  | .invalidArgument _ code details => s!"{details} (os error {code})"
  | .unsatisfiedConstraints code details => s!"{details} (os error {code})"
  | .resourceExhausted _ code details => s!"{details} (os error {code})"
  | .resourceBusy code details => s!"{details} (os error {code})"
  | failure => toString failure

/-- The failure of a file operation at a path. -/
def fileFailure (path : String) (failure : IO.Error) : FileError :=
  match failure with
  | .noFileOrDirectory .. => .notFound path
  | .permissionDenied .. => .permissionDenied path
  | _ => .other s!"{path}: {failureText failure}"

/-- The result of a file operation at a path. -/
def attempt (path : String) (operation : IO Result) : BaseIO (Except FileError Result) := do
  match ← EIO.toBaseIO operation with
  | .ok result => return .ok result
  | .error failure => return .error (fileFailure path failure)

/-- The result of an operation, or the text of its failure. -/
def attemptText (operation : IO Result) : BaseIO (Except String Result) := do
  match ← EIO.toBaseIO operation with
  | .ok result => return .ok result
  | .error failure => return .error (failureText failure)

/-- The content of a file of the machine. -/
def readContent (path : String) : IO Bytes := do
  return (← IO.FS.readBinFile path).toList

/-- The files of the machine. -/
def machineFiles : FileOperations BaseIO where
  read path := attempt path (readContent path)
  write path content := attempt path (IO.FS.writeBinFile path ⟨content.toArray⟩)
  createDirectories path := attempt path (unless path = "" do IO.FS.createDirAll path)
  rename source target := attempt target (IO.FS.rename source target)
  remove path := attempt path (IO.FS.removeFile path)
  isFile path := do
    let content ← EIO.toBaseIO (readContent path)
    return content.toOption.isSome
  isDirectory path := (System.mkFilePath [path]).isDir

/-- The command line on the files of the machine. -/
def machineEnvironment : CommandEnvironment BaseIO where
  files := machineFiles
  readSettings path := attemptText (readContent path)
  openLog path := attemptText (discard (IO.FS.Handle.mk path .append))

end LateBinding

/-- Carries out what the arguments of the command line ask for. -/
def main (arguments : List String) : IO UInt32 := do
  let result ← LateBinding.machineEnvironment.execute arguments
  (← IO.getStdout).putStr result.output
  (← IO.getStderr).putStr result.errors
  return result.exitCode
