import LightPilot.Pattern.Excerpt
import LightPilot.Pattern.Extent
import LightPilot.Pattern.Find
import LightPilot.Pattern.Meaning
import LightPilot.Pattern.Reader

set_option autoImplicit false

/-! # Searches: patterns that can be used

A pattern is read, its meaning is found, and it is refused if it asks for too much or for the words of all
scripts, of which no tables are at hand. -/

namespace LightPilot.Pattern

/-- Why a pattern cannot be used. -/
inductive SearchError
  | refused (refusal : Refusal) (pattern : String)
  | tooLarge
  /-- Words of all scripts are asked for. -/
  | wordsUnavailable

/-- The wording of an error. -/
def SearchError.message : SearchError → String
  | refused refusal pattern => refusal.message pattern
  | tooLarge => "Compiled regex exceeds size limit of " ++ extentLimit.repr ++ " bytes."
  | wordsUnavailable => "error building NFA"

/-- The shape that a pattern asks for. -/
def search (pattern : String) : Except SearchError Shape := do
  let tree ← (read pattern).mapError (.refused · pattern)
  let (shape, _) ← (tree.shape.run {}).mapError (.refused · pattern)
  if shape.searchExtent > extentLimit then throw .tooLarge
  if shape.needsScripts then throw .wordsUnavailable
  return shape

end LightPilot.Pattern
