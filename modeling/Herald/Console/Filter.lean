import Herald.Config.Environment
import Herald.Console.Directive
import Herald.Diagnostic
import Herald.Text.Split

/-!
# Console filters

A filter is a list of directives, and for each diagnostic the most specific one
that is about it decides; where none is, the diagnostic is not shown. A directive
about a span, or about the value of a field, is about no diagnostic here, because
the library speaks outside of spans.

The more of a speaker's name a directive gives, the more specific it is, and then
the more fields it names; of two that say the same, the later counts. A filter
without any directive shows nothing.
-/

namespace Herald.Console

/-- A console filter. -/
structure Filter where
  directives : List Directive
deriving DecidableEq

namespace Directive

/-- Whether the directive can be about diagnostics at all. -/
def isPlain (d : Directive) : Bool := d.span.isNone && d.fields.all fun f => f.value.isNone

/-- The names of the fields of a diagnostic. -/
def fieldNames (e : Diagnostic) : List String := "message" :: e.fields.map Prod.fst

/-- Whether the directive is about a diagnostic. -/
def isAbout (d : Directive) (e : Diagnostic) : Bool :=
  d.isPlain
    && (d.target.all fun t => t.toList.isPrefixOf e.target.toList)
    && d.fields.all fun f => (fieldNames e).contains f.name

/-- How much of a name the directive gives; no name is less than an empty one. -/
def reach (d : Directive) : Nat := (d.target.map fun t => t.utf8ByteSize + 1).getD 0

/-- The order of directives, the more specific the greater. -/
def order (a b : Directive) : Ordering :=
  (compare a.reach b.reach).then <|
  (compare a.fields.length b.fields.length).then <|
  (compare (a.target.getD "") (b.target.getD "")).then <|
  compare (a.fields.map (·.name)) (b.fields.map (·.name))

/-- The one of two directives that decides, the later standing second. -/
def stronger (earlier later : Directive) : Directive :=
  if order earlier later = .gt then earlier else later

end Directive

namespace Filter

/-- Reads the pieces in order; the first fault ends it. -/
def readPieces : List (List Char) → Except FilterFault (List Directive)
  | [] => .ok []
  | p :: ps =>
    match Directive.read p with
    | .error e => .error e
    | .ok d =>
      match readPieces ps with
      | .error e => .error e
      | .ok ds => .ok (d :: ds)

/-- The filter that a text spells: directives between commas, empty ones left out. -/
def read (text : String) : Except FilterFault Filter :=
  match readPieces ((Text.splitOn ',' text.toList).filter fun p => !p.isEmpty) with
  | .error e => .error e
  | .ok ds => .ok ⟨ds⟩

/-- The directive that decides about a diagnostic. -/
def decider? (f : Filter) (e : Diagnostic) : Option Directive :=
  (f.directives.filter fun d => d.isAbout e).foldl
    (fun best d => some (best.elim d fun b => b.stronger d)) none

/-- Whether a diagnostic is shown. -/
def shows (f : Filter) (e : Diagnostic) : Bool :=
  match f.decider? e with
  | some d => e.severity.verbosity ≤ d.detail
  | none => false

/-- The variable whose filter, if it is one, goes before that of the settings. -/
def override : String := "RUST_LOG"

/-- What a fault in the filter of the settings means. -/
def refusal : FilterFault → LoggingError
  | .torn t => .breakdown (.torn t)
  | e => .subscriber e.message

/--
The filter in force for these settings. A fault in the variable is passed over,
unless the reading broke off.
-/
def inForce (env : Environment) (settings : ConsoleSettings) : Except LoggingError Filter :=
  match (env override).map read with
  | some (.ok f) => .ok f
  | some (.error (.torn t)) => .error (.breakdown (.torn t))
  | _ => (read settings.filter).mapError refusal

/-- Sets up console output, which can be done once; `done` says whether it has been. -/
def install (done : Bool) (env : Environment) (settings : ConsoleSettings) :
    Except LoggingError Filter :=
  match inForce env settings with
  | .error e => .error e
  | .ok f =>
    if done then .error (.subscriber "a global default trace dispatcher has already been set")
    else .ok f

end Filter

end Herald.Console
