import WordLang.Eval.Forms
import WordLang.Syntax.Parser

namespace WordLang

namespace Exec

def eval : Nat → Node → Exec (Option Cell)
  | 0, _ => throw .outOfFuel
  | _ + 1, .int v span => fail (.missingSuffix (toString v.toInt) span)
  | _ + 1, .atom t span => some <$> resolveAtom t span
  | n + 1, .list items span => inFrame (dispatch (eval n) n items span)

def program (fuel : Nat) (prog : List Node) : Exec (Option Cell) :=
  prog.foldlM (fun _ node ↦ do releaseSince 0 none; eval fuel node) none

end Exec

inductive RunError
  | parse (e : ParseError)
  | eval (e : EvalError)
  | outOfFuel
deriving Repr, Inhabited

namespace RunError

def message : RunError → String
  | .parse e => e.message
  | .eval e => e.message
  | .outOfFuel => "Evaluation ran out of fuel"

def ofFault : Fault → RunError
  | .error e => .eval e
  | .outOfFuel => .outOfFuel

end RunError

/-- An interpreter: an environment that programs share, and the settings they run under. -/
structure Interpreter where
  env : Env := Env.initial
  calls : Nat := 0
  store : Store := Store.arenas
  callLimit : Nat := 10000
  verbosity : Verbosity := {}
  outputClosed : Bool := false
deriving Inhabited

/-- What one run of a source text did. -/
structure Outcome where
  result : Except RunError (Option Cell)
  output : String
  events : Array Event
deriving Inhabited

namespace Interpreter

def fuel : Nat := 4611686018427387904

def config (it : Interpreter) : Config :=
  { store := it.store, callLimit := it.callLimit, verbosity := it.verbosity
    outputClosed := it.outputClosed }

def machine (it : Interpreter) : Machine := { env := it.env, calls := it.calls }

def runProgram (it : Interpreter) (prog : List Node) : Outcome × Interpreter :=
  let (r, m) := (Exec.program fuel prog).execute it.config it.machine
  (⟨r.mapError RunError.ofFault, m.output, m.events⟩, { it with env := m.env, calls := m.calls })

def run (it : Interpreter) (src : String) : Outcome × Interpreter :=
  match parseProgram src with
  | .error e => (⟨.error (.parse e), "", #[]⟩, it)
  | .ok prog => it.runProgram prog

end Interpreter

end WordLang
