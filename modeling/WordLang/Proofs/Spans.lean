import WordLang.Eval.Program
import WordLang.Proofs.Scanning

namespace WordLang

namespace EvalError

def mapSpan (g : Span → Span) : EvalError → EvalError
  | .illFormed m s => .illFormed m (g s)
  | .arity form expected found s => .arity form expected found (g s)
  | .notDeclared name s => .notDeclared name (g s)
  | .undefinedFunction name s => .undefinedFunction name (g s)
  | .unboundSymbol name s => .unboundSymbol name (g s)
  | .unknownSuffix suffix literal s => .unknownSuffix suffix literal (g s)
  | .missingSuffix literal s => .missingSuffix literal (g s)
  | .malformedLiteral literal s => .malformedLiteral literal (g s)
  | .unknownKind kind s => .unknownKind kind (g s)
  | .typeMismatch callee position expected found s =>
    .typeMismatch callee position expected found (g s)
  | .uninitialized callee position s => .uninitialized callee position (g s)
  | .overflow callee s => .overflow callee (g s)
  | .noValue context s => .noValue context (g s)
  | .output m s => .output m (g s)
  | .recursionLimit name limit s => .recursionLimit name limit (g s)

@[simp] theorem mapSpan_id (e : EvalError) : e.mapSpan id = e := by
  cases e <;> rfl

end EvalError

def Fault.mapSpan (g : Span → Span) : Fault → Fault
  | .error e => .error (e.mapSpan g)
  | .outOfFuel => .outOfFuel

@[simp] theorem Fault.mapSpan_id (f : Fault) : f.mapSpan id = f := by
  cases f <;> simp [Fault.mapSpan]

def RunError.mapSpan (g : Span → Span) : RunError → RunError
  | .parse e => .parse e
  | .eval e => .eval (e.mapSpan g)
  | .outOfFuel => .outOfFuel

@[simp] theorem RunError.mapSpan_id (e : RunError) : e.mapSpan id = e := by
  cases e <;> simp [RunError.mapSpan]

theorem RunError.ofFault_mapSpan (g : Span → Span) (f : Fault) :
    RunError.ofFault (f.mapSpan g) = (RunError.ofFault f).mapSpan g := by
  cases f <;> rfl

namespace Node

mutual

theorem mapSpans_id : (n : Node) → n.mapSpans id = n
  | .int _ _ => rfl
  | .atom _ _ => rfl
  | .list items _ => by rw [mapSpans, mapSpansAll_id]; rfl

theorem mapSpansAll_id : (ns : List Node) → mapSpansAll id ns = ns
  | [] => rfl
  | n :: rest => by rw [mapSpansAll, mapSpans_id, mapSpansAll_id]

end

theorem map_mapSpans_id (ns : List Node) : ns.map (mapSpans id) = ns := by
  rw [← mapSpansAll_eq, mapSpansAll_id]

mutual

@[simp] theorem render_mapSpans (g : Span → Span) : (n : Node) → (n.mapSpans g).render = n.render
  | .int _ _ => rfl
  | .atom _ _ => rfl
  | .list items _ => by rw [mapSpans, render, render, renderAll_mapSpansAll]

theorem renderAll_mapSpansAll (g : Span → Span) :
    (ns : List Node) → renderAll (mapSpansAll g ns) = renderAll ns
  | [] => rfl
  | [n] => by rw [mapSpansAll, mapSpansAll, renderAll, renderAll, render_mapSpans]
  | n :: m :: rest => by
    rw [mapSpansAll, renderAll, renderAll, render_mapSpans, ← renderAll_mapSpansAll g (m :: rest)]
    -- the two equations for a list of two or more need it to go on after its head
    all_goals simp

end

@[simp] theorem renderAll_map_mapSpans (g : Span → Span) (ns : List Node) :
    renderAll (ns.map (mapSpans g)) = renderAll ns := by
  rw [← mapSpansAll_eq, renderAll_mapSpansAll]

@[simp] theorem shapeName_mapSpans (g : Span → Span) (n : Node) :
    (n.mapSpans g).shapeName = n.shapeName := by
  cases n <;> rfl

end Node

namespace Exec

@[simp] theorem paramName_comp_mapSpans (g : Span → Span) :
    paramName ∘ Node.mapSpans g = paramName := by
  funext n
  cases n <;> rfl

@[simp] theorem isList_comp_mapSpans (g : Span → Span) : isList ∘ Node.mapSpans g = isList := by
  funext n
  cases n <;> rfl

end Exec

def Callable.mapSpans (g : Span → Span) : Callable → Callable
  | .builtin b => .builtin b
  | .user params body => .user params (body.map (Node.mapSpans g))

@[simp] theorem Callable.mapSpans_id (c : Callable) : c.mapSpans id = c := by
  cases c with
  | builtin b => rfl
  | user params body =>
    simp only [Callable.mapSpans]
    rw [List.map_congr_left fun n _ ↦ Node.mapSpans_id n, List.map_id']

namespace Builtin

variable (g : Span → Span) (span : Span)

theorem expectInteger_mapSpan (callee : String) (position : Nat) (v : Variable) :
    expectInteger callee (g span) position v =
      (expectInteger callee span position v).mapError (EvalError.mapSpan g) := by
  unfold expectInteger
  split
  · rfl
  · split <;> rfl

theorem sumFrom_mapSpan : ∀ (args : List Variable) (total : Int64) (position : Nat),
    sumFrom (g span) total position args =
      (sumFrom span total position args).mapError (EvalError.mapSpan g)
  | [], _, _ => rfl
  | v :: rest, total, position => by
    simp only [sumFrom, expectInteger_mapSpan, bind, Except.bind]
    cases expectInteger "add" span position v with
    | error e => rfl
    | ok n =>
      dsimp only [Except.mapError]
      cases checkedAdd total n with
      | none => rfl
      | some t => exact sumFrom_mapSpan rest t (position + 1)

theorem exactly_mapSpan (callee : String) (n : Nat) (args : List Variable) :
    exactly callee n args (g span) =
      (exactly callee n args span).mapError (EvalError.mapSpan g) := by
  unfold exactly
  split <;> rfl

theorem compare_mapSpan (callee : String) (rel : Int64 → Int64 → Bool) (args : List Variable) :
    compare callee rel args (g span) =
      (compare callee rel args span).mapError (EvalError.mapSpan g) := by
  simp only [compare, exactly_mapSpan, bind, Except.bind]
  cases exactly callee 2 args span with
  | error e => rfl
  | ok u =>
    dsimp only [Except.mapError]
    split
    · simp only [expectInteger_mapSpan]
      cases expectInteger callee span 1 _ with
      | error e => rfl
      | ok x =>
        dsimp only [Except.mapError]
        cases expectInteger callee span 2 _ <;> rfl
    · rfl

theorem apply_mapSpan (b : Builtin) (args : List Variable) :
    b.apply args (g span) = (b.apply args span).mapError (EvalError.mapSpan g) := by
  cases b with
  | add =>
    simp only [apply]
    split
    · rfl
    · simp only [sumFrom_mapSpan, bind, Except.bind]
      cases sumFrom span 0 1 args <;> rfl
  | print =>
    simp only [apply, exactly_mapSpan, bind, Except.bind]
    cases exactly "print" 1 args span with
    | error e => rfl
    | ok u =>
      dsimp only [Except.mapError]
      split <;> rfl
  | gt => exact compare_mapSpan g span _ _ _
  | lt => exact compare_mapSpan g span _ _ _
  | address => rfl

end Builtin

theorem EvalError.span_mapSpan (g : Span → Span) (e : EvalError) : (e.mapSpan g).span = g e.span := by
  cases e <;> rfl

theorem Builtin.apply_error_span {b : Builtin} {args : List Variable} {span : Span}
    {e : EvalError} (h : b.apply args span = .error e) : e.span = span := by
  -- relabeling every span to the call's changes nothing, so the error carries the call's span
  have hconst := Builtin.apply_mapSpan (fun _ ↦ span) span b args
  rw [h] at hconst
  simp only [except_mapError_error, Except.error.injEq] at hconst
  rw [hconst, EvalError.span_mapSpan]

end WordLang
