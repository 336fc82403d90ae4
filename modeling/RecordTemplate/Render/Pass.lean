/-
  RecordTemplate.Render.Pass

  One pass over a template: its tags are resolved for one record and at most one row, run
  through their filters and written as text.  A tag whose source fails is left out.
-/

import RecordTemplate.Render.Resolver
import RecordTemplate.Render.Substitution

namespace RecordTemplate.Render

open RecordTemplate.Calendar RecordTemplate.Template

/-- What a pass works with. -/
structure Pass where
  keywords : Keywords
  resolver : Resolver
  filters : Registry
  locale : String
  limit : Int
  now : DateTime
  recordId : Value
  row : Option Row

namespace Pass

/-- What the filters of a tag may know. -/
def filterContext (p : Pass) (tag : Tag) (terms : Entries) : FilterContext :=
  { locale := p.locale
    terms := terms
    termsKey := some (p.resolver.termsKey tag.source tag.field)
    now := p.now }

/-- A value run through the filters of a tag. -/
def applyFilters (p : Pass) (tag : Tag) (v : Value) : PassM Value := do
  let context := p.filterContext tag (← get).terms
  let (w, faults) := p.filters.applyChain context v tag.filters
  faults.forM fun fault => notice (.filterSkipped fault)
  notice (.chainApplied (p.filters.knownCount tag.filters))
  return w

/-- The text of a tag whose value has been found. -/
def showResolved (p : Pass) (tag : Tag) (resolved : Resolved) : PassM (List Char) := do
  notice (if resolved.raw.isNull then .tagUnresolved tag.text else .tagResolved)
  if tag.filters = [] then return resolved.raw.render.toList
  else return (← p.applyFilters tag resolved.raw).render.toList

/-- The value of a tag, or the message of the data source that failed. -/
def resolveOrFail (p : Pass) (tag : Tag) : PassM (Except String Resolved) :=
  tryCatch (do return .ok (← p.resolver.resolveTag tag ⟨p.recordId, 0⟩ p.row)) fun e =>
    match e with
    | .source _ _ => return .error e.message
    | e => throw e

/-- The text of a tag, which is empty if the data source failed. -/
def tagText (p : Pass) (tag : Tag) : PassM (List Char) := do
  match ← p.resolveOrFail tag with
  | .ok resolved => p.showResolved tag resolved
  | .error message =>
    notice (.sourceFailed tag.text message)
    return []

/-- A tag rendered. -/
def renderTag (p : Pass) (tag : Tag) : PassM (List Char) := do
  notice .tagFound
  let text ← p.tagText tag
  notice (.tagRendered tag text)
  return text

/-- The text of the tags in a text, as conditions use it. -/
def renderTags (p : Pass) (text : List Char) : PassM (List Char) :=
  substituteTags p.keywords p.renderTag text

/-- Whether a condition holds. -/
def evaluate (p : Pass) (text : List Char) : PassM Bool := Render.evaluate p.renderTags notice text

/-- Whether the condition of a branch holds. -/
def testBranch (p : Pass) (text : List Char) : PassM Bool := do
  notice (.branchTested text)
  p.evaluate text

def handlers (p : Pass) : Handlers PassM := ⟨p.testBranch, p.renderTag, notice⟩

/-- A template rendered. -/
def render (p : Pass) (text : List Char) : PassM (List Char) :=
  renderTemplate p.handlers p.keywords p.limit text

end Pass
end RecordTemplate.Render
