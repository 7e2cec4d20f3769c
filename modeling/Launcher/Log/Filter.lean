import Launcher.Log.Directive

/-! Log filters: which log records are shown. -/

namespace Launcher

/-- Which log records are shown. -/
structure LogFilter where
  /-- The directives, of which the one that says most of a record counts for it. -/
  directives : List LogDirective
  deriving DecidableEq, Repr

namespace LogFilter

/-- The filter in use unless another one is asked for: warnings and errors. -/
def standard : LogFilter := ⟨[{ rank := Level.warn.rank }]⟩

/-- Reads directives between commas, if all of them can be read; empty ones are left out. -/
def read? (text : String) : Option LogFilter :=
  (((text.toList.splitOn ',').filter (!·.isEmpty)).mapM LogDirective.read?).map LogFilter.mk

/-- The directive that counts for a record: of those that say most of it, the last one. -/
def directiveFor? (filter : LogFilter) (record : LogRecord) : Option LogDirective :=
  (filter.directives.filter (·.concerns record)).foldl (fun best directive =>
    match best with
    | none => some directive
    | some other => if directive.isNoBroader other then some directive else best) none

/-- Whether a record is shown; none is where no directive is about it. -/
def admits (filter : LogFilter) (record : LogRecord) : Bool :=
  match filter.directiveFor? record with
  | some directive => record.level.rank ≤ directive.rank
  | none => false

end LogFilter

end Launcher
