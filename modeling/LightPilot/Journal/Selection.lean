import LightPilot.Journal.Notice
import LightPilot.Pattern.Search
import LightPilot.Text.Blank

set_option autoImplicit false

/-! # Which notices are shown

A selection is written as a list of directives between commas. A directive is a severity, which holds for
all sources; a source, whose notices are all shown; or a source and a severity with an equals sign between
them. A source stands for all sources that begin with it, and of the directives for a source the longest
decides. Without any directive only errors are shown. After a slash a pattern may follow, of which a notice
must have a part. -/

namespace LightPilot

/-- The least grave severity shown; none shows nothing. -/
abbrev Threshold : Type := Option Severity

/-- A threshold for the sources that begin with a text, or for all. -/
structure Directive where
  source? : Option String
  threshold : Threshold
  deriving DecidableEq

/-- A choice of notices. -/
structure Selection where
  /-- At most one directive for a source. -/
  directives : List Directive := []
  /-- What a notice must have a part of. -/
  shape? : Option Pattern.Shape := none

namespace Selection

/-! ## Reading -/

/-- The threshold with a name, in whatever case. -/
def threshold? (name : String) : Option Threshold :=
  let upper := name.map Char.toUpper
  if upper = "OFF" then some none
  else (Severity.all.find? fun severity => severity.name = upper).map some

/-- A directive that cannot be read. -/
def complaint (text : String) : String :=
  "warning: invalid logging spec '" ++ text ++ "', ignoring it"

/-- Reads one directive, or complains. -/
def readDirective (text : String) : Except String Directive :=
  match text.splitOn "=" with
  | [single] =>
    match threshold? single with
    | some threshold => .ok ⟨none, threshold⟩
    | none => .ok ⟨some single, some .trace⟩
  | [source, name] =>
    let name := Text.trim name
    if name = "" then .ok ⟨some source, some .trace⟩
    else
      match threshold? name with
      | some threshold => .ok ⟨some source, threshold⟩
      | none => .error (complaint name)
  | _ => .error (complaint text)

/-- The directives with one more; it replaces an earlier one for the same source. -/
def insert (directives : List Directive) (directive : Directive) : List Directive :=
  if directives.any fun d => d.source? = directive.source? then
    directives.map fun d => if d.source? = directive.source? then directive else d
  else directives ++ [directive]

/-- Reads directives in order, gathering those that can be read and the complaints about the others. -/
def readDirectives : List String → List Directive × List String
  | [] => ([], [])
  | text :: texts =>
    let (directives, complaints) := readDirectives texts
    match readDirective text with
    | .ok directive => (directive :: directives, complaints)
    | .error complaint => (directives, complaint :: complaints)

/-- Reads a pattern, or complains. No pattern is none. -/
def readPattern (pattern? : Option String) : Option Pattern.Shape × List String :=
  match pattern? with
  | none => (none, [])
  | some pattern =>
    match Pattern.search pattern with
    | .ok shape => (some shape, [])
    | .error error =>
      (none, ["warning: invalid regex filter - " ++ error.message ++ ", ignoring it"])

/-- Reads a selection, and tells what could not be read. -/
def read (text : String) : Selection × List String :=
  match text.splitOn "/" with
  | parts@(list :: tail) =>
    if parts.length > 2 then
      ({}, ["warning: invalid logging spec '" ++ text ++ "' (too many '/'s), ignoring it"])
    else
      let texts := ((list.splitOn ",").map Text.trim).filter (· ≠ "")
      let (directives, complaints) := readDirectives texts
      let (shape?, further) := readPattern tail.head?
      ({ directives := directives.foldl insert [], shape? }, complaints ++ further)
  | [] => ({}, [])

/-! ## Choosing -/

/-- The length of the text that a directive looks for. -/
def Directive.reach (directive : Directive) : Nat :=
  match directive.source? with
  | some source => source.utf8ByteSize
  | none => 0

/-- Whether a directive speaks of a source. -/
def Directive.covers (directive : Directive) (source : String) : Bool :=
  match directive.source? with
  | some start => start.toList.isPrefixOf source.toList
  | none => true

/-- The directive that decides on a source: of those that speak of it the last of the longest. -/
def deciding? (selection : Selection) (source : String) : Option Directive :=
  let pick (best? : Option Directive) (directive : Directive) : Option Directive :=
    match best? with
    | some best => if Directive.reach best ≤ Directive.reach directive then some directive else best?
    | none => some directive
  (selection.directives.filter fun d => Directive.covers d source).foldl pick none

/-- Whether a severity is as grave as a threshold. -/
def meets (severity : Severity) : Threshold → Bool
  | some least => decide (severity.rank ≤ least.rank)
  | none => false

/-- Whether a notice is shown. -/
def shows (selection : Selection) (notice : Notice) : Bool :=
  let bySource :=
    if selection.directives.isEmpty then meets notice.severity (some .error)
    else
      match selection.deciding? notice.source with
      | some directive => meets notice.severity directive.threshold
      | none => false
  bySource && selection.shape?.all (·.isIn notice.text)

end Selection

end LightPilot
