import WordLang.Diagnostic.Errors
import WordLang.Log.Filter
import WordLang.Shell.Process

namespace WordLang

inductive ScriptFile
  | unreadable (e : OsError)
  | bytes (b : ByteArray)

structure ScriptCall where
  args : List String
  file : ScriptFile
  outputClosed : Bool := false
  logSetting : Option String := none
  fallbackLogSetting : Option String := none

def ScriptCall.run (c : ScriptCall) : ProcessResult :=
  let (filter, warnings) := LogFilter.ofSettings c.logSetting c.fallbackLogSetting
  let pre := joinLines warnings
  match c.args with
  | [] => ⟨2, "", pre ++ "Usage: kore <script.kore>\n"⟩
  | path :: _ =>
    let cannotRead := fun (why : String) ↦
      (⟨1, "", pre ++ "Cannot read '" ++ path ++ "': " ++ why ++ "\n"⟩ : ProcessResult)
    match c.file with
    | .unreadable e => cannotRead e.describe
    | .bytes b =>
      match String.fromUTF8? b with
      | none => cannotRead "stream did not contain valid UTF-8"
      | some src =>
        let verbosity := (filter.map LogFilter.verbosity).getD {}
        let it : Interpreter := { verbosity := verbosity, outputClosed := c.outputClosed }
        let (o, _) := it.run src
        let logs := joinLines (o.events.toList.map Event.line)
        match o.result with
        | .ok v =>
          let done : Event := .programFinished (v.map (·.var))
          let last := if filter.any (·.allowsEvent done) then done.line ++ "\n" else ""
          ⟨0, o.output, pre ++ logs ++ last⟩
        | .error e => ⟨1, o.output, pre ++ logs ++ e.render path src⟩

end WordLang
