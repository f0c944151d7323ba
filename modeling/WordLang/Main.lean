import WordLang.Shell.Script

namespace WordLang

def OsError.ofIOError : IO.Error → OsError
  | .noFileOrDirectory _ code _ => { OsError.notFound with code := code.toNat }
  | .inappropriateType _ code _ => { OsError.isDirectory with code := code.toNat }
  | .permissionDenied _ code _ => ⟨code.toNat, "PermissionDenied", "Permission denied"⟩
  | e => ⟨0, "Other", toString e⟩

def ScriptFile.read (path : String) : IO ScriptFile := do
  try
    return .bytes (← IO.FS.readBinFile path)
  catch e =>
    return .unreadable (OsError.ofIOError e)

end WordLang

open WordLang in
def main (args : List String) : IO UInt32 := do
  let file ← match args with
    | path :: _ => ScriptFile.read path
    | [] => pure (.unreadable .notFound)
  let result := ScriptCall.run
    { args := args, file := file,
      logSetting := ← IO.getEnv "KORE_LOG", fallbackLogSetting := ← IO.getEnv "RUST_LOG" }
  let out ← IO.getStdout
  out.putStr result.stdout
  out.flush
  let err ← IO.getStderr
  err.putStr result.stderr
  err.flush
  return result.status.toUInt32
