/-
  RecordTemplate.Cache.Output

  The cache of rendered widgets.  Entries expire after a fixed time.  They are kept by a
  remote store as long as it answers, and in memory from its first failure on.
-/

import RecordTemplate.Cache.Md5
import RecordTemplate.Cache.Payload
import RecordTemplate.Render.Diagnostic
import RecordTemplate.Text.Utf8

namespace RecordTemplate.Cache

open RecordTemplate.Text

/-! ## Keys -/

/-- What the keys of this cache begin with in a store. -/
def keyStart : String := "de_cache_"

/-- The key of one widget on one record; other settings make another key. -/
def outputKey (recordId : Value) (widgetId : String) (settings : Value) : String :=
  recordId.display ++ "_" ++ widgetId ++ "_" ++
    String.ofList (Md5.hexDigest (encodeUtf8 (payload settings).toList))

/-- The key that a caller gives, which must be a text. -/
def keyText (key : Value) : Except Failure String :=
  match key with
  | .text s => .ok s
  | v => .error (.notJoinable "str" v.typeName)

/-! ## Remote stores -/

/-- A moment on the clock, in seconds. -/
abbrev Moment := Rat

/-- A store outside the program whose state is a `σ`.  Every call to its contents is made at a
    moment, may fail with a message, and may change the state also when it fails. -/
structure RemoteStore (σ : Type) where
  ping : σ → Except String Unit × σ
  get : Moment → String → σ → Except String (Option Value) × σ
  /-- Stores an output under a key for a number of seconds. -/
  setFor : Moment → String → Int → Value → σ → Except String Unit × σ
  /-- The keys that begin with a text. -/
  keysFrom : Moment → String → σ → Except String (List String) × σ
  /-- Deletes keys and counts those that were there. -/
  delete : Moment → List String → σ → Except String Nat × σ

/-! ## The cache -/

/-- An entry in memory.  The output of a widget is a text, except that a template which is no
    text is its own output. -/
structure Entry where
  key : String
  expiresAt : Moment
  html : Value

/-- The cache of rendered widgets. -/
structure OutputCache (σ : Type) where
  enabled : Bool
  /-- How many seconds an entry lives. -/
  expiration : Int
  store : RemoteStore σ
  remote : σ
  /-- Whether the remote store is in use. -/
  connected : Bool
  entries : List Entry

namespace OutputCache

variable {σ : Type}

def backend (c : OutputCache σ) : String := if c.connected then "redis" else "local"

/-- The cache without its remote store, and the record of the failure. -/
def degrade (c : OutputCache σ) (message : String) : OutputCache σ × LogRecord :=
  ({ c with connected := false },
    ⟨.warning, "Redis error in output cache, falling back to local store: " ++ message⟩)

/-! ## Entries in memory -/

def insertEntry (e : Entry) (es : List Entry) : List Entry :=
  es.filter (·.key ≠ e.key) ++ [e]

/-- The entry of a key in memory; an expired one is removed. -/
def getLocal (c : OutputCache σ) (now : Moment) (fullKey : String) :
    Option Value × OutputCache σ :=
  match c.entries.find? (·.key = fullKey) with
  | none => (none, c)
  | some e =>
    if e.expiresAt ≤ now then
      (none, { c with entries := c.entries.filter (·.key ≠ fullKey) })
    else (some e.html, c)

def setLocal (c : OutputCache σ) (now : Moment) (fullKey : String) (html : Value) :
    OutputCache σ :=
  { c with entries := insertEntry ⟨fullKey, now + c.expiration, html⟩ c.entries }

/-! ## Operations -/

/-- The output under a key at a moment, with what is logged. -/
def get (c : OutputCache σ) (now : Moment) (key : String) :
    Option Value × OutputCache σ × List LogRecord :=
  let fullKey := keyStart ++ key
  if c.connected then
    match c.store.get now fullKey c.remote with
    | (.ok html, r) => (html, { c with remote := r }, [])
    | (.error message, r) =>
      -- the entry may have been kept in memory by an earlier failure
      let (c, record) := { c with remote := r }.degrade message
      let (html, c) := c.getLocal now fullKey
      (html, c, [record])
  else
    let (html, c) := c.getLocal now fullKey
    (html, c, [])

/-- Stores an output under a key at a moment. -/
def set (c : OutputCache σ) (now : Moment) (key : String) (html : Value) :
    OutputCache σ × List LogRecord :=
  let fullKey := keyStart ++ key
  if c.connected then
    match c.store.setFor now fullKey c.expiration html c.remote with
    | (.ok (), r) => ({ c with remote := r }, [])
    | (.error message, r) =>
      let (c, record) := { c with remote := r }.degrade message
      (c.setLocal now fullKey html, [record])
  else (c.setLocal now fullKey html, [])

/-- Removes the keys of this cache from the remote store, and counts them. -/
def clearRemote (c : OutputCache σ) (now : Moment) : Nat × OutputCache σ × List LogRecord :=
  match c.store.keysFrom now keyStart c.remote with
  | (.error message, r) =>
    let (c, record) := { c with remote := r }.degrade message
    (0, c, [record])
  -- without keys there is nothing to delete
  | (.ok [], r) => (0, { c with remote := r }, [])
  | (.ok keys, r) =>
    match c.store.delete now keys r with
    | (.ok n, r) => (n, { c with remote := r }, [])
    | (.error message, r) =>
      let (c, record) := { c with remote := r }.degrade message
      (0, c, [record])

/-- Removes every entry at a moment, and counts them. -/
def clear (c : OutputCache σ) (now : Moment) : Nat × OutputCache σ × List LogRecord :=
  let emptied := { c with entries := [] }
  let (removed, cleared, records) :=
    if c.connected then emptied.clearRemote now else (0, emptied, [])
  let total := c.entries.length + removed
  (total, cleared,
    records ++ [⟨.info, "Output cache cleared (" ++ natText total ++ " entries)"⟩])

/-! ## Opening -/

/-- A cache with a remote store that is in use from the start. -/
def attached (enabled : Bool) (expiration : Int) (store : RemoteStore σ) (remote : σ) :
    OutputCache σ :=
  ⟨enabled, expiration, store, remote, true, []⟩

/-- A cache in memory. -/
def inMemory (enabled : Bool) (expiration : Int) (store : RemoteStore σ) (remote : σ) :
    OutputCache σ :=
  ⟨enabled, expiration, store, remote, false, []⟩

/-- A cache whose remote store is used if it answers a first call. -/
def connect (enabled : Bool) (expiration : Int) (store : RemoteStore σ) (remote : σ) :
    OutputCache σ × LogRecord :=
  match store.ping remote with
  | (.ok (), r) =>
    (attached enabled expiration store r, ⟨.info, "Output cache connected to Redis"⟩)
  | (.error message, r) =>
    (inMemory enabled expiration store r,
      ⟨.warning, "Redis not available for output cache, using local store: " ++ message⟩)

end OutputCache
end RecordTemplate.Cache
