import Std.Data.TreeMap.Basic
import WordLang.Builtin
import WordLang.Syntax.Node

namespace WordLang

/-- A variable made by the program, with the identity of the cell that holds it. -/
structure Cell where
  id : Nat
  var : Variable
deriving DecidableEq, Repr, Inhabited

/-- What a call can invoke: a built-in, or a user function with its parameter names and its
body expressions. -/
inductive Callable
  | builtin (b : Builtin)
  | user (params : List String) (body : List Node)
deriving Repr, Inhabited

/-- Bindings, callables and the arenas of temporaries. -/
structure Env where
  vars : Std.TreeMap String Cell := {}
  funcs : Std.TreeMap String Callable := {}
  top : List String := []
  frames : List (List String) := []
  made : Nat := 0
  fresh : Nat := 0
deriving Inhabited

namespace Env

def tempKey (n : Nat) : String := "#tmp" ++ toString n

def initial : Env :=
  { funcs := Builtin.all.foldl (fun m b ↦ m.insert b.name (.builtin b)) {} }

def depth (e : Env) : Nat := e.frames.length

def arena (e : Env) : List String :=
  match e.frames with
  | [] => e.top
  | a :: _ => a

def setArena (e : Env) (a : List String) : Env :=
  match e.frames with
  | [] => { e with top := a }
  | _ :: rest => { e with frames := a :: rest }

def temporaryCount (e : Env) : Nat :=
  e.frames.foldl (fun n f => n + f.length) e.top.length

def lookup (e : Env) (name : String) : Option Cell := e.vars[name]?

def alloc (e : Env) (v : Variable) : Cell × Env :=
  (⟨e.fresh, v⟩, { e with fresh := e.fresh + 1 })

def declare (e : Env) (name : String) (v : Variable) : Env :=
  let (c, e) := e.alloc v
  { e with vars := e.vars.insert name c }

def rebind (e : Env) (name : String) (c : Cell) : Env :=
  if e.vars.contains name then { e with vars := e.vars.insert name c } else e

def bindLocal (e : Env) (name : String) (v : Variable) : Option Cell × Env :=
  let (c, e') := e.alloc v
  (e.vars[name]?, { e' with vars := e'.vars.insert name c })

def restore (e : Env) (name : String) : Option Cell → Env
  | some c => { e with vars := e.vars.insert name c }
  | none => { e with vars := e.vars.erase name }

def temporary (e : Env) (d : Nat) (v : Variable) : Cell × Env :=
  let key := tempKey (e.made + 1)
  let c : Cell := ⟨e.fresh, v.inFrame d⟩
  (c, { e.setArena (e.arena ++ [key]) with
    vars := e.vars.insert key c, made := e.made + 1, fresh := e.fresh + 1 })

def pushFrame (e : Env) : Env := { e with frames := [] :: e.frames }

def escapes (vars : Std.TreeMap String Cell) (keep : Option Nat) (key : String) : Bool :=
  match keep, vars[key]? with
  | some id, some c => c.id == id
  | _, _ => false

def release (vars : Std.TreeMap String Cell) (keep : Option Nat) :
    List String → Std.TreeMap String Cell × List String
  | [] => (vars, [])
  | key :: keys =>
    if escapes vars keep key then
      let (vars', kept) := release vars keep keys
      (vars', key :: kept)
    else release (vars.erase key) keep keys

def popFrame (e : Env) (keep : Option Nat) : Env × Option Nat :=
  match e.frames with
  | [] => (e, none)
  | a :: rest =>
    let (vars, kept) := release e.vars keep a
    let e' : Env := { e with vars := vars, frames := rest }
    (e'.setArena (e'.arena ++ kept), some (a.length - kept.length))

def mark (e : Env) : Nat := e.arena.length

def releaseSince (e : Env) (mark : Nat) (keep : Option Nat) : Env × Option Nat :=
  let a := e.arena
  if a.length ≤ mark then (e, none)
  else
    let (vars, kept) := release e.vars keep (a.drop mark)
    ({ e.setArena (a.take mark ++ kept) with vars := vars },
      some (a.length - mark - kept.length))

def callable? (e : Env) (name : String) : Option Callable := e.funcs[name]?

def defineFunction (e : Env) (name : String) (params : List String) (body : List Node) : Env :=
  { e with funcs := e.funcs.insert name (.user params body) }

end Env

end WordLang
