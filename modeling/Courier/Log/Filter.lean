/-
# Courier.Log.Filter -- which lines are kept

A filter is a comma-separated list of directives.  A line goes by the most specific
of the directives that are about it: the one with the longest target, then the one
with the most fields.  Without one it is dropped.

No line is written inside a span, so a directive that asks for a span, or for a field
with a value, keeps none.
-/
import Courier.Log
import Courier.Log.Directive

namespace Courier.Log

set_option autoImplicit false

/-- Directives that lines are held against, of two equally specific ones the later
counting. -/
structure Filter where
  directives : List Directive

namespace Filter

/-- The pieces of a text that directives are read from. -/
def pieces (text : String) : List (List Char) :=
  (Text.pieces ',' text.toList).filter (!·.isEmpty)

/-- A filter of some directives. -/
def ofDirectives (directives : List Directive) : Filter :=
  let (dynamic, plain) := directives.partition Directive.isDynamic
  ⟨plain ++ dynamic.filter Directive.isStatic⟩

/-- Reads a filter; `none` when a directive is wrong. -/
def read? (text : String) : Option Filter :=
  (((pieces text).mapM Directive.read).map ofDirectives).toOption

/-- A directive that was left out of a filter. -/
structure Ignored where
  piece : String
  fault : Directive.Fault
  deriving DecidableEq

/-- The directive that keeps errors. -/
def errorsOnly : Directive := ⟨none, none, [], Level.error.rank⟩

/-- Reads what can be read of a filter; answers also the directives that are wrong.
When there is no other it keeps errors. -/
def readLossy (text : String) : Filter × List Ignored :=
  let given := pieces text
  let directives := given.filterMap fun piece => (Directive.read piece).toOption
  (ofDirectives (if directives.isEmpty then [errorsOnly] else directives),
    given.filterMap fun piece => match Directive.read piece with
      | .ok _ => none
      | .error fault => some ⟨String.ofList piece, fault⟩)

/-- Whether a directive is about a line. -/
def concerns (l : Line) (d : Directive) : Bool :=
  d.target.all (·.isPrefixOf l.target.toList) &&
    d.fieldNames.all fun name => l.fieldNames.any (·.toList == name)

/-- The length of the target, one more than its bytes; zero without one. -/
def reach (d : Directive) : Nat := d.target.elim 0 fun name => Text.Utf8.byteLength name + 1

/-- Whether a name comes no later than another, by its characters' numbers. -/
def nameUpTo : List Char → List Char → Bool
  | [], _ => true
  | _ :: _, [] => false
  | a :: as, b :: bs => if a = b then nameUpTo as bs else decide (a.toNat < b.toNat)

/-- Whether a list of names comes no later than another. -/
def namesUpTo : List (List Char) → List (List Char) → Bool
  | [], _ => true
  | _ :: _, [] => false
  | a :: as, b :: bs => if a = b then namesUpTo as bs else nameUpTo a b

/-- Whether a directive goes before another that is about the same line. -/
def precedes (d e : Directive) : Bool :=
  if reach d ≠ reach e then decide (reach e < reach d)
  else if d.fields.length ≠ e.fields.length then decide (e.fields.length < d.fields.length)
  else namesUpTo e.fieldNames d.fieldNames

/-- The directive a line goes by. -/
def governing (f : Filter) (l : Line) : Option Directive :=
  (f.directives.filter (concerns l)).foldl
    (fun best d => match best with
      | none => some d
      | some b => if precedes d b then some d else some b)
    none

/-- Whether a line is kept. -/
def keeps (f : Filter) (l : Line) : Bool :=
  (f.governing l).any fun d => l.level.rank ≤ d.rank

end Filter

end Courier.Log
