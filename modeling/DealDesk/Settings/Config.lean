import DealDesk.Gateway.Login
import DealDesk.Settings.Environment

/-!
# Settings

Settings are read from a file, where every one of them may be left out, and
overridden by variables of the environment.  Secrets come from the environment
alone.  What is built from settings and secrets, a vault and an access, fails
with the first thing that is missing or out of range.
-/

namespace DealDesk
namespace Settings

open Json (Codec)

/-- The cache mode: where sessions are kept between runs. -/
inductive CacheMode where
  | memory
  | file
  /-- In a file, sealed under the key of the secrets. -/
  | encryptedFile
deriving DecidableEq

namespace CacheMode

def name : CacheMode → String
  | .memory => "memory"
  | .file => "file"
  | .encryptedFile => "encrypted-file"

def all : List CacheMode := [.memory, .file, .encryptedFile]

def names : Codec.Names CacheMode := ⟨name, all, none⟩

def codec : Codec CacheMode := Codec.named names

theorem find?_name (v : CacheMode) : names.find? v.name = some v := by
  cases v <;> decide

end CacheMode

/-- The longest life of a session in minutes: a year. -/
def maxLifetime : Int := 525600

/-- The longest margin in seconds: a year. -/
def maxMargin : Int := 31536000

/-- Why settings cannot be had, or nothing can be built from them. -/
inductive Fault where
  | noConfigFolder
  | noCacheFolder
  | unreadable (path : Disk.Path) (fault : Disk.Fault)
  /-- The file does not hold text. -/
  | notText (path : Disk.Path)
  | unparsable (path : Disk.Path) (fault : Json.Fault)
  | noFolder (fault : Disk.Fault)
  | unwritable (path : Disk.Path) (fault : Disk.Fault)
  | lifetimeRange (minutes : Int)
  | marginRange (seconds : Int)
  | noCacheKey
  | badCacheKey (fault : Vault.KeyFault)
  | noIdentifier
  | noApiKey
  | noPassword

namespace Fault

/-- A number that is out of range. -/
def range (what : String) (low high got : Int) : String :=
  what ++ " must be between " ++ String.ofList (intText low) ++ " and "
    ++ String.ofList (intText high) ++ ", got " ++ String.ofList (intText got)

/-- What happened and what it came from, from the outside in. -/
def chain : Fault → List String
  | .noConfigFolder => ["Could not find config directory"]
  | .noCacheFolder => ["Could not find cache directory"]
  | .unreadable path fault => ["Failed to read config file " ++ path.text, fault.message]
  | .notText path =>
      ["Failed to read config file " ++ path.text, "stream did not contain valid UTF-8"]
  | .unparsable path fault => ["Failed to parse config file " ++ path.text, fault.message]
  | .noFolder fault => [fault.message]
  | .unwritable path fault => ["Failed to write config file " ++ path.text, fault.message]
  | .lifetimeRange n => [range "session_lifetime_minutes" 1 maxLifetime n]
  | .marginRange n => [range "expiry_margin_seconds" 0 maxMargin n]
  | .noCacheKey =>
      ["Cache mode encrypted-file needs a key: set IG_CACHE_KEY (generate one with "
        ++ "`igtrade generate-key`)"]
  | .badCacheKey fault => ["Invalid IG_CACHE_KEY", fault.message]
  | .noIdentifier =>
      ["No account identifier: set IG_IDENTIFIER or `identifier` in the config file"]
  | .noApiKey => ["No API key: set IG_API_KEY"]
  | .noPassword => ["No password: set IG_PASSWORD"]

end Fault

/-- Secrets of the environment. -/
structure Secrets where
  apiKey : Option String
  password : Option String
  cacheKey : Option Cipher.Key

namespace Secrets

/-- No secret is known. -/
def none : Secrets := ⟨Option.none, Option.none, Option.none⟩

/-- Whether something is known, and not what it is. -/
def shown {α : Type} (secret : Option α) : String :=
  if secret.isSome then "[REDACTED]" else "None"

/-- What is shown of secrets in diagnostics. -/
def diagnostic (s : Secrets) : String :=
  "Secrets \x7b api_key: " ++ shown s.apiKey ++ ", password: " ++ shown s.password
    ++ ", cache_key: " ++ shown s.cacheKey ++ " \x7d"

/-- The secrets of an environment; an empty variable holds none. -/
def ofEnvironment (e : Environment) : Except Fault Secrets :=
  match e.filled? "IG_CACHE_KEY" with
  | .none => .ok ⟨e.filled? "IG_API_KEY", e.filled? "IG_PASSWORD", .none⟩
  | some spelled =>
      match Vault.keyOfText spelled with
      | .error fault => .error (.badCacheKey fault)
      | .ok key => .ok ⟨e.filled? "IG_API_KEY", e.filled? "IG_PASSWORD", some key⟩

end Secrets
end Settings

/-- The configuration: where to deal, as whom, and how sessions are kept. -/
structure Config where
  baseUrl : String
  identifier : Option String
  cache : Settings.CacheMode
  cachePath : Option String
  /-- In minutes. -/
  lifetime : Int64
  /-- In seconds. -/
  margin : Int64
deriving DecidableEq

namespace Config

open Json (Codec Fields)
open Settings

/-- The settings of one who gives none: the gateway for trials, and a file. -/
def standard : Config where
  baseUrl := "https://demo-api.ig.com"
  identifier := none
  cache := .file
  cachePath := none
  lifetime := 360
  margin := 300

def fields :=
  Fields.cons (.withDefault "base_url" Codec.string standard.baseUrl) <|
  Fields.cons (.withDefault "identifier" (Codec.optional Codec.string) standard.identifier) <|
  Fields.cons (.withDefault "cache" CacheMode.codec standard.cache) <|
  Fields.cons
    (.withDefault "cache_path" (Codec.optional (Codec.textAs "path string"))
      standard.cachePath) <|
  Fields.cons (.withDefault "session_lifetime_minutes" Codec.int64 standard.lifetime) <|
  Fields.cons (.withDefault "expiry_margin_seconds" Codec.int64 standard.margin) <|
  Fields.nil

def codec : Codec Config :=
  (fields.codec "struct Config").imap
    (fun
      | (baseUrl, identifier, cache, cachePath, lifetime, margin, ()) =>
        { baseUrl, identifier, cache, cachePath, lifetime, margin })
    (fun r =>
      (r.baseUrl, r.identifier, r.cache, r.cachePath, r.lifetime, r.margin, ()))

/-- The file of the settings. -/
def path? (e : Environment) : Except Fault Disk.Path :=
  match e.configFolder? with
  | none => .error .noConfigFolder
  | some p => .ok ((p.join ⟨"igtrade"⟩).join ⟨"config.json"⟩)

/-- The settings in a file; the standard ones if there is no file. -/
def load (d : Disk) (path : Disk.Path) : Except Fault Config :=
  if d.isThere path then
    match d.read path with
    | .error e => .error (.unreadable path e)
    | .ok content =>
        match Text.ofBytes? content with
        | none => .error (.notText path)
        | some s =>
            match codec.ofText s with
            | .error fault => .error (.unparsable path fault)
            | .ok c => .ok c
  else .ok standard

/-- The settings are written into a file, the folder of which is made first. -/
def save (c : Config) (d : Disk) (path : Disk.Path) : Except Fault Unit × Disk :=
  match d.makeFolders ((path.parent?).getD ⟨""⟩) with
  | (.error e, d) => (.error (.noFolder e), d)
  | (.ok (), d) =>
      match d.write path (Text.bytes (codec.indentedText c)) with
      | .error e => (.error (.unwritable path e), d)
      | .ok d => (.ok (), d)

/-- The settings with those of an environment over them. -/
def overridden (c : Config) (e : Environment) : Config :=
  { c with
    baseUrl := (e.filled? "IG_BASE_URL").getD c.baseUrl
    identifier := e.filled? "IG_IDENTIFIER" <|> c.identifier }

/-- The file that a session is kept in. -/
def vaultPath (c : Config) (e : Environment) : Except Fault Disk.Path :=
  match c.cachePath with
  | some p => .ok ⟨p⟩
  | none =>
      match e.cacheFolder? with
      | none => .error .noCacheFolder
      | some p => .ok ((p.join ⟨"igtrade"⟩).join ⟨"session.json"⟩)

/-- How long a session lasts after its login. -/
def lifetimeSpan (c : Config) : Except Fault Span :=
  let minutes := c.lifetime.toInt
  if 1 ≤ minutes ∧ minutes ≤ maxLifetime then .ok (Span.ofMinutes minutes)
  else .error (.lifetimeRange minutes)

/-- How long a kept session has to be valid at least. -/
def marginSpan (c : Config) : Except Fault Span :=
  let seconds := c.margin.toInt
  if 0 ≤ seconds ∧ seconds ≤ maxMargin then .ok (Span.ofSeconds seconds)
  else .error (.marginRange seconds)

/-- Where sessions are kept. -/
def store (c : Config) (e : Environment) (s : Secrets) : Except Fault Vault.Store :=
  match c.cache with
  | .memory => .ok (.memory none)
  | .file => (c.vaultPath e).map fun path => .file ⟨path, .plain⟩
  | .encryptedFile =>
      match s.cacheKey with
      | none => .error .noCacheKey
      | some key => (c.vaultPath e).map fun path => .file ⟨path, .sealed key⟩

/-- Where sessions are kept, and with which margin. -/
def cacheTerms (c : Config) (e : Environment) (s : Secrets) :
    Except Fault (Vault.Store × Span) :=
  match c.store e s with
  | .error fault => .error fault
  | .ok store => c.marginSpan.map fun margin => (store, margin)

/-- What it takes to log in. -/
def access (c : Config) (s : Secrets) : Except Fault Gateway.Access :=
  match c.identifier, s.apiKey, s.password with
  | none, _, _ => .error .noIdentifier
  | some _, none, _ => .error .noApiKey
  | some _, some _, none => .error .noPassword
  | some identifier, some apiKey, some password =>
      c.lifetimeSpan.map fun lifetime =>
        Gateway.Access.ofUrl c.baseUrl apiKey identifier password lifetime

end Config
end DealDesk
