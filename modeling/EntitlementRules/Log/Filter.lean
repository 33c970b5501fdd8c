import EntitlementRules.Log.Event
import EntitlementRules.Text.Blank
import EntitlementRules.Text.Digits
import EntitlementRules.Text.Split

/-! Filters: which events and spans are reported. A filter is a list of directives such as `info`,
`transport=debug` or `[span]=warn`; of those that fit a source, the most particular one decides. -/
namespace EntitlementRules.Log

structure Directive where
  /-- What the paths of its sources begin with. -/
  target : Option String := none
  /-- The span within which it holds. -/
  span : Option String := none
  /-- The least important level that it lets pass, if it lets any. -/
  threshold : Option Level
  deriving Repr, DecidableEq

namespace Directive

/-- How much of a path a directive settles. -/
def particularity (directive : Directive) : Nat :=
  match directive.target with
  | none => 0
  | some target => target.utf8ByteSize + 1

/-- Whether a source is one of those that a directive is about. -/
def covers (directive : Directive) (source : Source) : Bool :=
  directive.target.all fun target => target.toList.isPrefixOf source.path.toList

/-- Whether a directive lets a level pass. -/
def admits (directive : Directive) (level : Level) : Bool :=
  directive.threshold.any fun threshold => level.verbosity ≤ threshold.verbosity

/-! ## Reading -/

/-- The levels by name, and the word for none. -/
def thresholds : List (String × Option Level) :=
  [("off", none), ("error", some .error), ("warn", some .warn), ("info", some .info),
    ("debug", some .debug), ("trace", some .trace)]

/-- The threshold that a text names: in letters of either case, or by the number of its place. -/
def threshold? (text : List Char) : Option (Option Level) :=
  let digits := match text with
    | '+' :: digits => digits
    | digits => digits
  match Text.decimalBelow? thresholds.length digits with
  | some place => (thresholds[place]?).map (·.2)
  | none => thresholds.lookup (String.ofList (text.map Char.toLower))

/-- The threshold after an equals sign. Without a name, everything passes. -/
def thresholdAfter? : List Char → Option (Option Level)
  | [] => some (some .trace)
  | text => threshold? text

/-- Whether a directive can start with a character. -/
def isStart (c : Char) : Bool :=
  c.isAlphanum || c == '-' || c == ':' || c == '_' || 127 < c.toNat

/-- A directive for one target or for all of them. A single word is a level, or else a target. -/
def ofWord? (word : List Char) : Option Directive :=
  if (word.find? (!Text.isBlank ·)).any isStart then
    match threshold? word with
    | some threshold => some { threshold }
    | none => some { target := some (String.ofList word), threshold := some .trace }
  else none

/-- A directive that gives its target a level. -/
def ofPair? (target level : List Char) : Option Directive := do
  if !target.head?.any isStart then none
  return { target := some (String.ofList target), threshold := ← thresholdAfter? level }

/-- A directive for a span, with what stands before and after the opening bracket. -/
def ofSpan? (target rest : List Char) : Option Directive := do
  if target != [] && !target.head?.any isStart then none
  match rest.span (· != ']') with
  | (_, []) => none
  | (name, _ :: after) =>
    if name.contains '\x7b' then none
    let threshold ← match after with
      | [] => some (some .trace)
      | '=' :: level => thresholdAfter? level
      | _ => none
    return {
      target := if target = [] then none else some (String.ofList target)
      span := some (String.ofList name)
      threshold }

def parse? (text : List Char) : Option Directive :=
  match text.span fun c => c != '=' && c != '[' with
  | (word, []) => ofWord? word
  | (target, '=' :: level) => ofPair? target level
  | (target, _ :: rest) => ofSpan? target rest

end Directive

structure Filter where
  directives : List Directive
  deriving Repr, DecidableEq

namespace Filter

/-- The filter that lets a level pass and all that is more important. -/
def ofLevel (level : Level) : Filter := ⟨[{ threshold := some level }]⟩

/-- Reads directives that commas part. The empty text lets nothing pass. -/
def parse? (text : String) : Option Filter := do
  let parts := (Text.split ',' text).filter (· != "")
  return ⟨← parts.mapM fun part => Directive.parse? part.toList⟩

/-- Of two directives, the more particular one; the later one where both are alike. -/
def choose (best : Option Directive) (next : Directive) : Option Directive :=
  match best with
  | none => some next
  | some known => if known.particularity ≤ next.particularity then some next else some known

/-- The directive that decides on a source outside spans. -/
def directiveFor? (filter : Filter) (source : Source) : Option Directive :=
  (filter.directives.filter fun directive => directive.span.isNone && directive.covers source).foldl
    choose none

/-- Whether a level of a source passes outside spans. -/
def admits (filter : Filter) (source : Source) (level : Level) : Bool :=
  (filter.directiveFor? source).any (·.admits level)

/-- The directives about a span. -/
def within (filter : Filter) (span : Span) : List Directive :=
  filter.directives.filter fun directive =>
    directive.span == some span.name && directive.covers span.source

/-- Whether a span is reported: one that a directive is about, if its level passes anywhere at all, or one
that passes like an event. -/
def admitsSpan (filter : Filter) (span : Span) : Bool :=
  (!(filter.within span).isEmpty && filter.directives.any (·.admits span.level))
    || filter.admits span.source span.level

/-- What is reported of an event, with the span that it happens in if that is reported too. -/
def report? (filter : Filter) (span : Option Span) (event : Event) : Option Entry :=
  let shown := span.filter filter.admitsSpan
  if filter.admits event.source event.level
      || shown.any fun span => (filter.within span).any (·.admits event.level) then
    some ⟨event, shown⟩
  else none

end Filter

end EntitlementRules.Log
