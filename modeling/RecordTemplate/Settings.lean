/-
  RecordTemplate.Settings

  The settings of the engine, which are read from environment variables.
-/

import RecordTemplate.Failure
import RecordTemplate.Number.Reader
import RecordTemplate.Text.Case

namespace RecordTemplate

open RecordTemplate.Text

/-- The settings of the engine. -/
structure Settings where
  debugMode : Bool
  logLevel : String
  /-- The folder of the log, if it is not the default one. -/
  logFolder : Option String
  locale : String
  maxIterations : Int
  customKeyword : String
  nativeKeyword : String
  rowKeyword : String
  cachingEnabled : Bool
  cacheExpiration : Int
  cacheUrl : String
  deriving DecidableEq, Repr

/-- Environment variables with their values. -/
abbrev Environment := List (String × String)

namespace Environment

/-- The value of a variable, or a default. -/
def value (env : Environment) (name default : String) : String :=
  (List.lookup name env).getD default

/-- Whether a text means yes. -/
def isYes (s : String) : Bool :=
  ["1", "true", "yes", "on"].contains (String.ofList (lower (trim s.toList)))

/-- The value of a variable that switches something. -/
def flag (env : Environment) (name default : String) : Bool := isYes (env.value name default)

/-- The value of a variable that holds a whole number. -/
def integer (env : Environment) (name : String) (default : Int) : Except Failure Int :=
  match List.lookup name env with
  | none => .ok default
  | some s => Number.readInteger s.toList

end Environment

namespace Settings

/-- The settings without any variable set. -/
def standard : Settings where
  debugMode := false
  logLevel := "INFO"
  logFolder := none
  locale := "en_US"
  maxIterations := 1000
  customKeyword := "custom"
  nativeKeyword := "native"
  rowKeyword := "row"
  cachingEnabled := false
  cacheExpiration := 3600
  cacheUrl := ""

/-- The settings in an environment. -/
def ofEnvironment (env : Environment) : Except Failure Settings := do
  let debugMode := env.flag "DATA_ENGINE_DEBUG" "false"
  let maxIterations ← env.integer "DATA_ENGINE_MAX_CONDITIONAL_ITERATIONS" standard.maxIterations
  let cacheExpiration ← env.integer "DATA_ENGINE_CACHE_EXPIRATION" standard.cacheExpiration
  return {
    debugMode := debugMode
    logLevel := env.value "DATA_ENGINE_LOG_LEVEL" (if debugMode then "DEBUG" else "INFO")
    logFolder := List.lookup "DATA_ENGINE_LOG_DIR" env
    locale := env.value "DATA_ENGINE_LOCALE" standard.locale
    maxIterations := maxIterations
    customKeyword := env.value "DATA_ENGINE_SOURCE_CUSTOM" standard.customKeyword
    nativeKeyword := env.value "DATA_ENGINE_SOURCE_NATIVE" standard.nativeKeyword
    rowKeyword := env.value "DATA_ENGINE_SOURCE_ROW" standard.rowKeyword
    cachingEnabled := env.flag "DATA_ENGINE_ENABLE_CACHING" "false"
    cacheExpiration := cacheExpiration
    cacheUrl := env.value "DATA_ENGINE_CACHE_REDIS_URL" standard.cacheUrl }

/-- The keywords of the tags. -/
def sourceKeywords (s : Settings) : List String :=
  [s.customKeyword, s.nativeKeyword, s.rowKeyword]

end Settings
end RecordTemplate
