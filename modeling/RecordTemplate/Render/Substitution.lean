/-
  RecordTemplate.Render.Substitution

  Tags and fallbacks replaced in one scan of a text, so that what they are replaced by is
  never read as part of the template.  A fallback renders its tag like a template of its own,
  and its body if nothing comes of the tag.
-/

import RecordTemplate.Render.Reduction
import RecordTemplate.Template.Token

namespace RecordTemplate.Render

open RecordTemplate.Template

variable {m : Type → Type} [Monad m]

/-- A text with every construct of a scan replaced. -/
def replaceFound {α : Type} (replace : Found α → m (List Char)) (s : Scan α) :
    m (List Char) := do
  let pieces ← s.found.mapM fun f => do return f.lead ++ (← replace f)
  return pieces.flatten ++ s.tail

/-- A text with its tags replaced. -/
def substituteTags (ks : Keywords) (renderTag : Tag → m (List Char)) (text : List Char) :
    m (List Char) :=
  replaceFound (fun f => renderTag (Tag.ofForm f.item f.text 0)) ((tagRule ks).scan text)

/-- A text with its fallbacks and tags replaced, also the tags inside markers. -/
def substitute (ks : Keywords) (renderTag : Tag → m (List Char))
    (renderFallback : FallbackForm → m (List Char)) (text : List Char) : m (List Char) :=
  replaceFound (fun f =>
    match f.item with
    | .fallback form => renderFallback form
    | .tag form => renderTag (Tag.ofForm form f.text 0)
    | .marker _ => substituteTags ks renderTag f.text) ((constructRule ks).scan text)

/-- How the parts of a template are handled. -/
structure Handlers (m : Type → Type) where
  test : List Char → m Bool
  renderTag : Tag → m (List Char)
  notice : Event → m Unit

/-- A template rendered: its blocks reduced, then its fallbacks and tags replaced.  `depth`
    bounds how far fallbacks are nested. -/
def renderNested (h : Handlers m) (ks : Keywords) (limit : Int) : Nat → List Char → m (List Char)
  | 0, text => pure text
  | depth + 1, text => do
    let reduced ← reduceBlocks h.test h.notice limit text
    substitute ks h.renderTag (fun form => do
      let value ← renderNested h ks limit depth form.tagText
      h.notice (.fallbackTried value.isEmpty)
      -- a zero is a value, so only the empty text calls for the body
      if value.isEmpty then renderNested h ks limit depth form.body else return value) reduced

/-- A template rendered.  The parts of a fallback are shorter than the template, so its length
    bounds the nesting. -/
def renderTemplate (h : Handlers m) (ks : Keywords) (limit : Int) (text : List Char) :
    m (List Char) :=
  renderNested h ks limit (text.length + 1) text

end RecordTemplate.Render
