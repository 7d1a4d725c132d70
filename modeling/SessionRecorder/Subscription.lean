import SessionRecorder.Catalog
import SessionRecorder.Glob.Expression
import SessionRecorder.Glob.Parser
import SessionRecorder.Json.Basic
import SessionRecorder.Log
import SessionRecorder.Settings.Basic

/-!
The events that a mounted recorder listens to: the known ones, those that other
modules announce and those of the settings, each once, without the excluded ones.
-/

namespace SessionRecorder

inductive ExcludeError where
  | invalid (pattern : String) (cause : Glob.PatternError)
  /-- Patterns of which one is nested too deep. -/
  | tooDeep (patterns : List String) (cause : Glob.NestingError)
deriving DecidableEq

def ExcludeError.message : ExcludeError → String
  | .invalid pattern cause =>
    s!"invalid exclude pattern '{pattern}': error parsing glob '{pattern}': {cause.message}"
  | .tooDeep patterns cause =>
    let all := String.intercalate "," patterns
    s!"invalid exclude pattern '{all}': {cause.message}"

structure ExcludeFilter where
  names : List String
  patterns : List Glob.Pattern

namespace ExcludeFilter

def readPatterns : List String → Except ExcludeError (List Glob.Pattern)
  | [] => .ok []
  | text :: rest =>
    match Glob.ofText text with
    | .error cause => .error (.invalid text cause)
    | .ok p => (readPatterns rest).map (p :: ·)

/-- The default exclusions and those of the given texts, each of which counts both
as a name and as a pattern. -/
def ofTexts (texts : List String) : Except ExcludeError ExcludeFilter := do
  let patterns ← readPatterns texts
  match Glob.tooDeep? patterns with
  | some cause => .error (.tooDeep texts cause)
  | none => .ok ⟨Catalog.defaultExcludes ++ texts, patterns⟩

def excludes (f : ExcludeFilter) (event : String) : Bool :=
  f.names.contains event || f.patterns.any (Glob.matchesName · event)

end ExcludeFilter

namespace Subscription

/-- Where other modules announce their events. -/
def channel : String := "observability.events"

/-- The names in one announcement: a text, or the texts of an array. -/
def announced : Json → List String
  | .string name => [name]
  | .array items => items.filterMap Json.asString?
  | _ => []

/-- All names in question, in the order in which they are first named. -/
def candidates (contributions : List Json) (s : Settings) : List String :=
  Catalog.canonicalEvents ++ Catalog.moduleEvents ++ contributions.flatMap announced ++
    s.additionalEvents

/-- Those of the names that are wanted, each in the place where it first stands. `seen` are the names
in front, wanted or not. -/
def firstWanted (wanted : String → Bool) (seen : List String) : List String → List String
  | [] => []
  | name :: rest =>
    if seen.contains name then firstWanted wanted seen rest
    else if wanted name then name :: firstWanted wanted (name :: seen) rest
    else firstWanted wanted (name :: seen) rest

/-- The events listened to. That the announcements cannot be had is reported, and
counts as if there were none. -/
def events (contributions : Except String (List Json)) (s : Settings) :
    Except ExcludeError (List String) × Log.Journal :=
  let (announcements, journal) : List Json × Log.Journal := match contributions with
    | .ok items => (items, [])
    | .error e =>
      ([], [.debug "contribution collection failed" [("channel", channel), ("error", e)]])
  let chosen := (ExcludeFilter.ofTexts s.excludeEvents).map fun excluded =>
    firstWanted (!excluded.excludes ·) [] (candidates announcements s)
  (chosen, journal)

end Subscription

end SessionRecorder
