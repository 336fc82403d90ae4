/-
  RecordTemplate.Render.Event

  What happens during a pass, in order.  The diagnostics, the counters, the log and the calls
  to data sources are all read off the events.
-/

import RecordTemplate.Filter.Registry
import RecordTemplate.Render.Diagnostic
import RecordTemplate.Template.Condition

namespace RecordTemplate.Render

open RecordTemplate.Template RecordTemplate.Number

/-- Something that happened during a pass. -/
inductive Event where
  /-- The condition of a branch is about to be tested. -/
  | branchTested (condition : List Char)
  | malformedCondition (text : List Char)
  | conditionDecided (c : Condition) (holds : Bool)
  | tagFound
  | tagResolved
  | tagUnresolved (tagText : List Char)
  | sourceFailed (tagText : List Char) (message : String)
  /-- A tag has been rendered, and this is its text. -/
  | tagRendered (tag : Tag) (text : List Char)
  | filterSkipped (fault : ChainFault)
  /-- A chain was applied in which so many filters are known. -/
  | chainApplied (known : Nat)
  /-- The tag of a fallback has been rendered; without a text the body stands in for it. -/
  | fallbackTried (isEmpty : Bool)
  | iterationLimit (limit : Int)
  | unbalancedMarker (marker : List Char)
  /-- A value was looked up among those already fetched, and found there or not. -/
  | lookedUp (source : String) (recordId : Value) (field : String) (found : Bool)
  /-- A data source was asked for a value. -/
  | asked (source : String) (field recordId : Value)
  | inlining (field : String)
  | inlined (path : String)
  /-- Something else that is written to the log only. -/
  | logged (record : LogRecord)

namespace Event

/-! ## Diagnostics -/

def malformedMessage (text : List Char) : String :=
  "Malformed condition: '" ++ String.ofList text ++ "'"

/-- The diagnostic of an event that is a problem. -/
def diagnostic? : Event → Option Diagnostic
  | malformedCondition text => some ⟨.warning, "malformed_condition", malformedMessage text⟩
  | tagUnresolved text =>
    some ⟨.debug, "unresolved_field", "Unresolved field: " ++ String.ofList text⟩
  | sourceFailed text message =>
    some ⟨.error, "source_error", String.ofList text ++ ": " ++ message⟩
  | filterSkipped fault => some fault.diagnostic
  | iterationLimit limit =>
    some ⟨.warning, "iteration_limit", "Conditional iteration limit (" ++
      String.ofList (intText limit) ++ ") reached, remaining blocks left as is"⟩
  | unbalancedMarker marker =>
    some ⟨.warning, "unbalanced_block", "Unbalanced conditional marker " ++
      String.ofList marker ++ " left as text"⟩
  | _ => none

/-! ## Log -/

def conditionMessage (c : Condition) (holds : Bool) : String :=
  "Condition " ++ String.ofList c.tagText ++ " " ++ String.ofList c.operator.symbol ++ " '" ++
    String.ofList c.literal ++ "' -> " ++ (Value.bool holds).literal

/-- The record that an event leaves in the log. -/
def logRecord? : Event → Option LogRecord
  | conditionDecided c holds => some ⟨.debug, conditionMessage c holds⟩
  | lookedUp source id field found =>
    some ⟨.debug, (if found then "Cache hit for " else "Cache miss for ") ++ source ++ ":" ++
      id.display ++ ":" ++ field⟩
  | inlining field => some ⟨.debug, "Rendering SVG content for field: " ++ field⟩
  | inlined path => some ⟨.debug, "SVG content loaded from: " ++ path⟩
  | logged record => some record
  | e => e.diagnostic?.map Diagnostic.logRecord

/-- The call to a data source that an event is: source, field and record. -/
def call? : Event → Option (String × Value × Value)
  | asked source field id => some (source, field, id)
  | _ => none

end Event

/-! ## Counters -/

/-- The counters of a pass. -/
structure Stats where
  tagsFound : Nat := 0
  tagsResolved : Nat := 0
  conditionalsEvaluated : Nat := 0
  fallbacksUsed : Nat := 0
  filtersApplied : Nat := 0
  deriving DecidableEq, Repr

/-- The counters after one more event. -/
def Stats.add (s : Stats) : Event → Stats
  | .branchTested _ => { s with conditionalsEvaluated := s.conditionalsEvaluated + 1 }
  | .tagFound => { s with tagsFound := s.tagsFound + 1 }
  | .tagResolved => { s with tagsResolved := s.tagsResolved + 1 }
  | .chainApplied known => { s with filtersApplied := s.filtersApplied + known }
  | .fallbackTried true => { s with fallbacksUsed := s.fallbacksUsed + 1 }
  | _ => s

def Stats.ofEvents (es : List Event) : Stats := es.foldl Stats.add {}

end RecordTemplate.Render
