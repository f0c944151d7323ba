import WordLang.Env
import WordLang.Log.Event

namespace WordLang

/-- How an evaluator keeps the temporaries it makes. -/
structure Store where
  temporary : Env → Nat → Variable → Cell × Env
  releaseSince : Env → Nat → Option Nat → Env × Option Nat
  popFrame : Env → Option Nat → Env × Option Nat

def Store.arenas : Store := ⟨Env.temporary, Env.releaseSince, Env.popFrame⟩

instance : Inhabited Store := ⟨Store.arenas⟩

/-- What an evaluation reads and does not change. -/
structure Config where
  store : Store := Store.arenas
  callLimit : Nat := 10000
  verbosity : Verbosity := {}
  outputClosed : Bool := false
  depth : Nat := 0
deriving Inhabited

/-- What an evaluation changes. -/
structure Machine where
  env : Env := Env.initial
  calls : Nat := 0
  output : String := ""
  events : Array Event := #[]
deriving Inhabited

/-- Why an evaluation stopped early. -/
inductive Fault
  | error (e : EvalError)
  | outOfFuel
deriving Repr, Inhabited

/-- Evaluation steps. -/
abbrev Exec := ReaderT Config (ExceptT Fault (StateM Machine))

namespace Exec

def execute {α : Type} (x : Exec α) (cfg : Config) (m : Machine) : Except Fault α × Machine :=
  ((x.run cfg).run).run m

def fail {α : Type} (e : EvalError) : Exec α := throw (.error e)

def attempt {α : Type} (x : Exec α) : Exec (Except Fault α) :=
  tryCatch (Except.ok <$> x) (fun f ↦ pure (.error f))

def resume {α : Type} : Except Fault α → Exec α
  | .ok a => pure a
  | .error f => throw f

def emit (e : Event) : Exec Unit := do
  if (← read).verbosity.records e then modify fun m ↦ { m with events := m.events.push e }

def env : Exec Env := do return (← get).env

def modifyEnv (f : Env → Env) : Exec Unit :=
  modify fun m ↦ { m with env := f m.env }

def depth : Exec Nat := do return (← read).depth

def temporary (v : Variable) : Exec Cell := do
  let (c, e) := (← read).store.temporary (← env) (← depth) v
  modifyEnv fun _ ↦ e
  return c

def reportRelease (count : Option Nat) : Exec Unit := do
  match count with
  | some n => emit (.released (← depth) n)
  | none => pure ()

def releaseSince (mark : Nat) (keep : Option Cell) : Exec Unit := do
  let (e, count) := (← read).store.releaseSince (← env) mark (keep.map Cell.id)
  modifyEnv fun _ ↦ e
  reportRelease count

def keptId : Except Fault (Option Cell) → Option Nat
  | .ok (some c) => some c.id
  | _ => none

def inFrame (body : Exec (Option Cell)) : Exec (Option Cell) := do
  let d := (← depth) + 1
  modifyEnv Env.pushFrame
  emit (.frameEntered d)
  let r ← attempt (withReader (fun c ↦ { c with depth := d }) body)
  emit (.frameExited d (r matches .ok _))
  let (e, count) := (← read).store.popFrame (← env) (keptId r)
  modifyEnv fun _ ↦ e
  reportRelease count
  resume r

def printLine (text : String) (span : Span) : Exec Unit := do
  if (← read).outputClosed then fail (.output "Broken pipe (os error 32)" span)
  else modify fun m ↦ { m with output := m.output ++ text ++ "\n" }

end Exec

end WordLang
