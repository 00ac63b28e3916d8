import FileQuery.Aggregate.Accumulator
import FileQuery.Evaluate.Expr
import FileQuery.Query.Parser
import FileQuery.Tree.Access

/-!
# Reports of a run

A run of a query either has a result or fails, and on its way it reports events: directories it
enters, rows it leaves out, values it cannot compute. Reports are put together like sequences of
actions; a failure ends the sequence but keeps the events before it.

## Main definitions

* `FileQuery.QueryError`: why a query has no result.
* `FileQuery.Event`, `FileQuery.Event.detail`, `FileQuery.Event.message`.
* `FileQuery.Report`, with its monad instance.

## Main results

* `FileQuery.Report.outcome_bind`, `FileQuery.Report.outcome_pure`: the outcome of a sequence does
  not depend on events.
-/

namespace FileQuery

/-- Why a query has no result. -/
inductive QueryError where
  | malformed (e : SyntaxError)
  /-- The directory at the source cannot be listed. -/
  | source (p : Path) (cause : AccessError)
  | evaluation (e : EvalError)
  | aggregate (f : AggregateFunction) (cause : FoldError)

def QueryError.message : QueryError → String
  | .malformed e => e.message
  | .source p cause => s!"cannot read source '{p.toText}': {cause.message}"
  | .evaluation e => s!"evaluation error: {e.message}"
  | .aggregate f cause => s!"evaluation error: aggregate {f.canonicalName}: {cause.message}"

/-- Something that happens during a run. -/
inductive Event where
  /-- The entries of a directory come next. -/
  | entering (p : Path)
  /-- The metadata of an entry cannot be read. -/
  | unreadable (p : Path) (cause : AccessError)
  /-- The entries of a directory cannot be listed. -/
  | unlistable (p : Path) (cause : AccessError)
  /-- A row is left out because its predicate has no value. -/
  | skipping (p : Path) (cause : EvalError)
  /-- An expression counts as null, on the row of an entry or after the last row. -/
  | noValue (p : Option Path) (cause : EvalError)
  | limitReached (limit : Nat)
  | finished (source : Path) (visited rows : Nat)

/-- How much detail an event is. -/
inductive Detail where
  | trace
  | debug
  | info
  deriving DecidableEq, Repr

def Detail.name : Detail → String
  | .trace => "trace"
  | .debug => "debug"
  | .info => "info"

namespace Event

def detail : Event → Detail
  | .entering _ => .trace
  | .finished .. => .info
  | _ => .debug

def message : Event → String
  | .entering p => s!"entering {p.toText}"
  | .unreadable p cause => s!"cannot stat {p.toText}: {cause.message}"
  | .unlistable p cause => s!"cannot list {p.toText}: {cause.message}"
  | .skipping p cause => s!"skipping {p.toText}: {cause.message}"
  | .noValue (some p) cause => s!"{p.toText}: {cause.message}"
  | .noValue none cause => cause.message
  | .limitReached limit => s!"limit {limit} reached, stopping traversal"
  | .finished p visited rows => s!"{p.toText}: visited {visited} entries, {rows} result rows"

end Event

/-- The events of a run and how it ends. -/
structure Report (α : Type) where
  events : List Event
  outcome : Except QueryError α

namespace Report

variable {α β : Type}

instance : Monad Report where
  pure a := ⟨[], .ok a⟩
  bind r f :=
    match r.outcome with
    | .ok a => ⟨r.events ++ (f a).events, (f a).outcome⟩
    | .error e => ⟨r.events, .error e⟩

/-- A run that fails. -/
def fail (e : QueryError) : Report α := ⟨[], .error e⟩

/-- A run that does nothing but report an event. -/
def note (e : Event) : Report Unit := ⟨[e], .ok ()⟩

/-- A run that reports several events. -/
def noteAll (es : List Event) : Report Unit := ⟨es, .ok ()⟩

def ofExcept (r : Except QueryError α) : Report α := ⟨[], r⟩

@[simp] theorem outcome_pure (a : α) : (pure a : Report α).outcome = .ok a := rfl

@[simp] theorem outcome_note (e : Event) : (note e).outcome = .ok () := rfl

@[simp] theorem outcome_noteAll (es : List Event) : (noteAll es).outcome = .ok () := rfl

@[simp] theorem outcome_ofExcept (r : Except QueryError α) : (ofExcept r).outcome = r := rfl

@[simp] theorem outcome_bind (r : Report α) (f : α → Report β) :
    (r >>= f).outcome = r.outcome >>= fun a => (f a).outcome := by
  obtain ⟨events, _ | _⟩ := r <;> rfl

end Report

end FileQuery
