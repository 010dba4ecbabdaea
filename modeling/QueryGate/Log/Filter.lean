import QueryGate.Log.Event
import QueryGate.Text.Cut
/-!
# Log filters

Which events are written. A filter is a list of directives, each a level for
the areas below a target or for all of them; the directive with the longest
target that fits decides.
-/

namespace QueryGate.Log

structure Directive where
  /-- The beginning of the targets it is for. -/
  target : List Char
  /-- The rank up to which events pass; zero lets none pass. -/
  rank : Nat
  deriving Repr, DecidableEq

namespace Directive

/-- The levels a directive may name, by name or by number. -/
def levels : List (String × Nat) :=
  [("off", 0), ("error", 1), ("warn", 2), ("info", 3), ("debug", 4), ("trace", 5),
   ("0", 0), ("1", 1), ("2", 2), ("3", 3), ("4", 4), ("5", 5)]

def level? (s : List Char) : Option Nat := levels.lookup (.ofList (s.map Char.toLower))

/-- Reads `target=level`, a level, or a target, of which everything passes. -/
def read (s : List Char) : Option Directive :=
  match Text.cutFirst '=' s with
  | some (target, level) => (level? level).map fun rank => ⟨target, rank⟩
  | none =>
    match level? s with
    | some rank => some ⟨[], rank⟩
    | none => some ⟨s, 5⟩

end Directive

abbrev Filter := List Directive

namespace Filter

/-- A filter of no directives lets errors pass. -/
def read (s : List Char) : Filter :=
  let ds := ((Text.pieces ',' s).filter (!·.isEmpty)).filterMap Directive.read
  if ds.isEmpty then [⟨[], Level.error.rank⟩] else ds

/-- The directive with the longest target that fits, the last of equal ones. -/
def best (f : Filter) (target : List Char) : Option Directive :=
  (f.filter fun d => Text.beginsWith d.target target).foldl
    (fun b d =>
      match b with
      | some b => if d.target.length < b.target.length then some b else some d
      | none => some d)
    none

def passes (f : Filter) (e : Event) : Bool :=
  match f.best e.area.target.toList with
  | some d => e.level.rank ≤ d.rank
  | none => false

end Filter

end QueryGate.Log
