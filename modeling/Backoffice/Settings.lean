import Backoffice.Form.Reading

/-!
# Settings

The settings of the service, their defaults, and how they are read from named texts such as the
environment of a process.
-/

namespace Backoffice

/-- The settings of the service. -/
structure Settings where
  appEnv : String
  appName : String
  logLevel : String
  tokenSecret : String
  tokenTtlHours : Int
  sessionTtlHours : Int
  defaultPageSize : Int
  maxPageSize : Int
  corsOrigins : String
  databaseUrl : String
  cacheUrl : String
deriving Repr, DecidableEq

namespace Settings

/-- The settings with their defaults, for the two that have none. -/
def standard (databaseUrl cacheUrl : String) : Settings where
  appEnv := "local"
  appName := "template-api"
  logLevel := "INFO"
  tokenSecret := "change_me_jwt"
  tokenTtlHours := 24
  sessionTtlHours := 24
  defaultPageSize := 100
  maxPageSize := 1000
  corsOrigins := "http://localhost:3000,http://localhost:4200"
  databaseUrl := databaseUrl
  cacheUrl := cacheUrl

/-- Reads the settings from named values; the two addresses are required. -/
def read (fields : List (String × Json)) : Form.Checked Settings :=
  let base := standard "" ""
  let text (name : String) (absent : String) := (Form.find [name] fields).default absent Form.asText
  let int (name : String) (absent : Int) := (Form.find [name] fields).default absent Form.asInt
  mk <$> text "APP_ENV" base.appEnv
    <*> text "APP_NAME" base.appName
    <*> text "LOG_LEVEL" base.logLevel
    <*> text "JWT_SECRET" base.tokenSecret
    <*> int "JWT_TTL_HOURS" base.tokenTtlHours
    <*> int "SESSION_TTL_HOURS" base.sessionTtlHours
    <*> int "DEFAULT_PAGE_SIZE" base.defaultPageSize
    <*> int "MAX_PAGE_SIZE" base.maxPageSize
    <*> text "CORS_ORIGINS" base.corsOrigins
    <*> (Form.find ["DATABASE_URL"] fields).required Form.asText
    <*> (Form.find ["REDIS_URL"] fields).required Form.asText

/-- The origins that pages may call from: the stripped parts between commas that are not
blank. -/
def corsOriginList (s : Settings) : List String :=
  ((s.corsOrigins.splitOn ",").map Text.strip).filter (· ≠ "")

/-- The life time of a session, of at least an hour. -/
def sessionTtlSeconds (s : Settings) : Int :=
  max 1 s.sessionTtlHours * 3600

/-- The largest page, of at least one row. -/
def pageCap (s : Settings) : Int :=
  max s.maxPageSize 1

end Settings

/-- What the name of a log level can stand for. -/
inductive LogLevel
  /-- A level with its severity. -/
  | severity (n : Nat)
  /-- A name that stands for something other than a level. -/
  | notLevel
  /-- A name that stands for something that cannot even name a level. -/
  | notName
deriving Repr, DecidableEq

namespace LogLevel

/-- The meaning of a name in capitals; an unknown name means the level of information. -/
def ofName (name : String) : LogLevel :=
  match name with
  | "NOTSET" => severity 0
  | "DEBUG" => severity 10
  | "INFO" => severity 20
  | "WARN" | "WARNING" => severity 30
  | "ERROR" => severity 40
  | "CRITICAL" | "FATAL" => severity 50
  | "BASIC_FORMAT" => notLevel
  | "_STYLES" => notName
  | _ => severity 20

/-- The level of a setting: blanks around it and its letter case do not matter, and an empty one
means the level of information. -/
def ofSetting (setting : String) : LogLevel :=
  ofName (Text.capital (Text.strip (if setting = "" then "INFO" else setting)))

end LogLevel

end Backoffice
