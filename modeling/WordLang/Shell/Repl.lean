import WordLang.Diagnostic.Errors
import WordLang.Log.Filter
import WordLang.Shell.History
import WordLang.Shell.LineReader
import WordLang.Shell.Process

namespace WordLang

structure ReplCall where
  input : String
  historyFile : Option String := none
  saveFailure : Option OsError := none
  logSetting : Option String := none
  fallbackLogSetting : Option String := none

structure ReplResult where
  process : ProcessResult
  historyFile : Option String
deriving Repr, Inhabited

structure ReplState where
  interp : Interpreter
  history : History
  filter : Option LogFilter
  stdout : String := ""
  stderr : String := ""
  pending : String := ""
  stopped : Bool := false

namespace ReplState

def log (s : ReplState) (evs : List Event) : ReplState :=
  let shown := evs.filter fun e ↦ s.filter.any (·.allowsEvent e)
  { s with stderr := s.stderr ++ joinLines (shown.map Event.line) }

def beginRead (s : ReplState) : ReplState := s.log [.pipedInput]

def handle (s : ReplState) (entry : String) : ReplState :=
  let s := { s with history := s.history.record entry }
  let trimmed := Text.trimBlank entry
  if trimmed.isEmpty then s.beginRead
  else if trimmed.toList.map Char.toLower == "exit".toList then { s with stopped := true }
  else
    let (o, it) := s.interp.run trimmed
    let s := { s with interp := it, stdout := s.stdout ++ o.output }
    let s := s.log o.events.toList
    let s := match o.result with
      | .ok (some c) =>
        { s with stdout := s.stdout ++ c.var.render ++ " : " ++ c.var.kind.name ++ "\n" }
      | .ok none => s
      | .error e => { s with stderr := s.stderr ++ e.render "REPL" trimmed }
    s.beginRead

def feed (s : ReplState) (line : String) : ReplState :=
  if s.stopped then s
  else
    match readMore s.pending line with
    | (some entry, _, _) => { s with pending := "" }.handle entry
    | (none, pending, msg) => { s with pending := pending, stderr := s.stderr ++ msg }

end ReplState

def ReplCall.banner : String := "Kore REPL v0.1.0\nType 'exit' or press Ctrl-D to quit.\n"

def ReplCall.run (c : ReplCall) : ReplResult :=
  let (filter, warnings) := LogFilter.ofSettings c.logSetting c.fallbackLogSetting
  let (history, loadEvents, greeting) := match c.historyFile with
    | some text => let (h, evs) := History.load text; (h, evs, ReplCall.banner)
    | none => (({} : History), [], ReplCall.banner ++ "No previous history.\n")
  let s : ReplState :=
    { interp := { verbosity := (filter.map LogFilter.verbosity).getD {} }
      history := history
      filter := filter
      stdout := greeting
      stderr := joinLines warnings }
  let s := ((s.log [.editorStarted]).log loadEvents).beginRead
  let s := (inputLines c.input).foldl ReplState.feed s
  let s := if s.stopped then s else { s with stdout := s.stdout ++ "\nExiting.\n" }
  match s.history.save? with
  | none => ⟨⟨0, s.stdout, s.stderr⟩, c.historyFile⟩
  | some text =>
    match c.saveFailure with
    | some e => ⟨⟨1, s.stdout, s.stderr ++ "Error: " ++ e.structView ++ "\n"⟩, c.historyFile⟩
    | none => ⟨⟨0, s.stdout, s.stderr⟩, some text⟩

end WordLang
