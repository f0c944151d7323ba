import WordLang.Eval.Machine
import WordLang.Syntax.Numeral

namespace WordLang

namespace Exec

def expectName (form : String) (n : Node) : Exec String :=
  match n with
  | .atom t _ => pure t
  | _ => fail (.illFormed ("'" ++ form ++ "' expects a name, found " ++ n.shapeName ++ " '" ++
      n.render ++ "'") n.span)

def immediate (text : String) (span : Span) : Exec Cell :=
  match text.toList.getLast? with
  | none => fail (.malformedLiteral text span)
  | some suffix =>
    match Kind.ofSuffix? suffix with
    | none => fail (.unknownSuffix suffix text span)
    | some k =>
      match readInt64? (String.ofList text.toList.dropLast) with
      | none => fail (.malformedLiteral text span)
      | some n => temporary ⟨k, .int n, 0⟩

def literalText (cs : List Char) : String :=
  String.ofList (if cs.getLast? == some '"' then cs.dropLast else cs)

def resolveAtom (text : String) (span : Span) : Exec Cell := do
  match (← env).lookup text with
  | some c => pure c
  | none =>
    match text.toList with
    | '"' :: rest => temporary ⟨.string, .text (literalText rest), 0⟩
    | c :: _ => if c.isDigit then immediate text span else fail (.unboundSymbol text span)
    | [] => fail (.unboundSymbol text span)

def paramName : Node → Option String
  | .atom t _ => some t
  | .int n _ => some (toString n.toInt)
  | .list .. => none

def isList : Node → Bool
  | .list .. => true
  | _ => false

def defineFunction (operands : List Node) (span : Span) : Exec (Option Cell) :=
  match operands with
  | [] => fail (.arity "function" "at least 2 elements" 1 span)
  | nameNode :: rest => do
    let name ← expectName "function" nameNode
    let params := rest.filterMap paramName
    let body := rest.filter isList
    emit (.functionDefined name params body.length)
    modifyEnv (·.defineFunction name params body)
    return none

def declare (operands : List Node) (span : Span) : Exec (Option Cell) :=
  match operands with
  | [nameNode, kindNode] => do
    let name ← expectName "declare" nameNode
    match Kind.ofName? kindNode.render with
    | none => fail (.unknownKind kindNode.render kindNode.span)
    | some k =>
      emit (.variableDeclared name k)
      modifyEnv (·.declare name (Variable.declared k))
      return none
  | _ => fail (.arity "declare" "exactly 3 elements" (operands.length + 1) span)

def assign (ev : Node → Exec (Option Cell)) (operands : List Node) (span : Span) :
    Exec (Option Cell) :=
  match operands with
  | [nameNode, expr] => do
    let name ← expectName "set" nameNode
    if !(← env).vars.contains name then fail (.notDeclared name nameNode.span)
    else
      match ← ev expr with
      | none => fail (.noValue ("the value assigned to '" ++ name ++ "'") expr.span)
      | some c =>
        emit (.variableSet name c.var.render)
        modifyEnv (·.rebind name c)
        return none
  | _ => fail (.arity "set" "exactly 3 elements" (operands.length + 1) span)

def holds (ev : Node → Exec (Option Cell)) (cond : Node) : Exec Bool := do
  match ← ev cond with
  | some c => return c.var.isTrue
  | none => return false

def sequence (ev : Node → Exec (Option Cell)) (body : List Node) : Exec (Option Cell) :=
  body.foldlM (fun _ e ↦ ev e) none

def loop (ev : Node → Exec (Option Cell)) (mark : Nat) (cond : Node) (body : List Node) :
    Nat → Option Cell → Nat → Exec (Option Cell × Nat)
  | 0, _, _ => throw .outOfFuel
  | fuel + 1, result, n => do
    releaseSince mark result
    if ← holds ev cond then
      let r ← sequence ev body
      loop ev mark cond body fuel r (n + 1)
    else return (result, n)

def whileLoop (ev : Node → Exec (Option Cell)) (fuel : Nat) (operands : List Node)
    (span : Span) : Exec (Option Cell) :=
  match operands with
  | cond :: body@(_ :: _) => do
    let (result, n) ← loop ev (← env).mark cond body fuel none 0
    emit (.loopFinished n)
    return result
  | _ => fail (.arity "while" "at least 3 elements" (operands.length + 1) span)

def branch (ev : Node → Exec (Option Cell)) (operands : List Node) (span : Span) :
    Exec (Option Cell) :=
  match operands with
  | [cond, thenNode] => do if ← holds ev cond then ev thenNode else return none
  | [cond, thenNode, elseNode] => do if ← holds ev cond then ev thenNode else ev elseNode
  | _ => fail (.arity "if" "3 or 4 elements" (operands.length + 1) span)

def arguments (ev : Node → Exec (Option Cell)) (name : String) :
    Nat → List Node → Exec (List Cell)
  | _, [] => return []
  | position, a :: rest => do
    match ← ev a with
    | none => fail (.noValue ("argument " ++ toString position ++ " of '" ++ name ++ "'") a.span)
    | some c => return c :: (← arguments ev name (position + 1) rest)

def bindParams (d : Nat) : List (String × Cell) → List (String × Option Cell) → Exec (List (String × Option Cell))
  | [], shadowed => return shadowed
  | (p, a) :: rest, shadowed => do
    let (prev, e) := (← env).bindLocal p (a.var.inFrame d)
    modifyEnv fun _ ↦ e
    bindParams d rest ((p, prev) :: shadowed)

def restoreParams : List (String × Option Cell) → Exec Unit
  | [] => return ()
  | (p, prev) :: rest => do
    modifyEnv (·.restore p prev)
    restoreParams rest

def callUser (ev : Node → Exec (Option Cell)) (name : String) (params : List String)
    (body : List Node) (args : List Cell) (span : Span) : Exec (Option Cell) := do
  if args.length != params.length then
    fail (.arity name (toString params.length ++ " arguments") args.length span)
  else
    let limit := (← read).callLimit
    if (← get).calls ≥ limit then fail (.recursionLimit name limit span)
    else
      let shadowed ← bindParams (← depth) (params.zip args) []
      modify fun m ↦ { m with calls := m.calls + 1 }
      let r ← attempt (sequence ev body)
      modify fun m ↦ { m with calls := m.calls - 1 }
      restoreParams shadowed
      resume r

def call (ev : Node → Exec (Option Cell)) (name : String) (operands : List Node) (span : Span) :
    Exec (Option Cell) := do
  match (← env).callable? name with
  | none => fail (.undefinedFunction name span)
  | some callee =>
    let args ← arguments ev name 1 operands
    emit (.calling name args.length (← depth))
    match callee with
    | .builtin b =>
      match b.apply (args.map (·.var)) span with
      | .error e => fail e
      | .ok (.value v) => some <$> temporary v
      | .ok (.line t) => do printLine t span; return none
    | .user params body => callUser ev name params body args span

def dispatch (ev : Node → Exec (Option Cell)) (fuel : Nat) (items : List Node) (span : Span) :
    Exec (Option Cell) :=
  match items with
  | [] => fail (.illFormed "empty expression" span)
  | head :: rest =>
    match head with
    | .atom name _ =>
      if name == "function" then defineFunction rest span
      else if name == "declare" then declare rest span
      else if name == "set" then assign ev rest span
      else if name == "while" then whileLoop ev fuel rest span
      else if name == "if" then branch ev rest span
      else call ev name rest span
    | _ => fail (.illFormed ("expression head must be a name, found " ++ head.shapeName ++ " '" ++
        head.render ++ "'") head.span)

end Exec

end WordLang
