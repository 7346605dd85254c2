import TagAudit.Log.Directive
import TagAudit.Log.Event

/-! The filter that decides which log events are shown. -/

namespace TagAudit.Log

structure Filter where
  directives : List Directive
deriving DecidableEq, Repr

namespace Filter

/-- Reads the directives between commas; empty ones are passed over. -/
def read? (text : String) : Option Filter :=
  let pieces := (Text.splitOn ',' text.toList).filter (!·.isEmpty)
  (pieces.mapM Directive.read?).map fun directives => ⟨directives.flatten⟩

def defaultDirective : Nat → String
  | 0 => "tagscope=warn"
  | 1 => "tagscope=info"
  | _ => "tagscope=debug"

/-- The filter of a run: the one that is set, when it can be read, or else the one of
the number of `-v` flags. -/
def ofSettings (setting : Option String) (verbose : Nat) : Filter :=
  ((setting.bind read?).orElse fun _ => read? (defaultDirective verbose)).getD ⟨[]⟩

def directive? (filter : Filter) (event : Event) : Option Directive :=
  let fitting := filter.directives.filter fun directive =>
    directive.fits event.area.target.toList event.hasField
  fitting.foldl (fun best next =>
    match best with
    | some best => if next.decides best then some next else some best
    | none => some next) none

def shows (filter : Filter) (event : Event) : Bool :=
  (filter.directive? event).any fun directive => event.level.rank ≤ directive.most

end Filter

end TagAudit.Log
