import OrderDesk.Text.Quoted
import OrderDesk.Text.Numeral

/-!
# Configuration

The service reads its settings from named variables (`Settings.ofLookup`), reading each value
as text, a count or a list, and builds its cross-origin policy from the allowed origins
(`corsPolicy`). A setting it cannot use stops it with a `ConfigError`.
-/

namespace OrderDesk

/-! ## Configuration errors

A setting is either missing, when the service cannot start without it, or present with a value
that cannot be used; the second names the variable, its value exactly as given, and why it was
refused.
-/

/-- Why the settings could not be read. -/
inductive ConfigError where
  | missing (name : String)
  | invalid (name value reason : String)
  deriving DecidableEq

namespace ConfigError

/-- The variant name of a configuration error. -/
def variant : ConfigError → String
  | .missing _ => "MissingEnvVar"
  | .invalid .. => "InvalidEnvVar"

/-- The message of a configuration error. -/
def message : ConfigError → String
  | .missing name => "Missing required environment variable: " ++ name
  | .invalid name value reason =>
    "Invalid value '" ++ value ++ "' for environment variable " ++ name ++ ": " ++ reason

/-- The diagnostic form of a configuration error, naming its variant and fields. -/
def dump : ConfigError → String
  | .missing name => "MissingEnvVar(" ++ Text.quoted name ++ ")"
  | .invalid name value reason =>
    "InvalidEnvVar \x7b name: " ++ Text.quoted name ++ ", value: " ++ Text.quoted value ++
      ", reason: " ++ Text.quoted reason ++ " \x7d"

end ConfigError

/-! ## Reading setting values

Setting values are plain text. Blanks around a value do not count: a blank is any character
with the Unicode `White_Space` property, which includes the no-break and ideographic spaces as
well as the ASCII ones.

A list is written with commas between its entries; blank-only entries are dropped, so that
`"a, b,,c ,"` lists `a`, `b` and `c`.

A count is an unsigned 64-bit decimal numeral (`readU64`), read after trimming.
-/

/-- Whether a character has the Unicode `White_Space` property. -/
def isSpace (c : Char) : Bool :=
  let n := c.toNat
  (9 ≤ n && n ≤ 13) || n == 32 || n == 0x85 || n == 0xA0 || n == 0x1680 ||
    (0x2000 ≤ n && n ≤ 0x200A) || n == 0x2028 || n == 0x2029 || n == 0x202F ||
    n == 0x205F || n == 0x3000

/-- The characters without the blanks at either end. -/
def trimSpaces (cs : List Char) : List Char :=
  ((cs.dropWhile isSpace).reverse.dropWhile isSpace).reverse

/-- The text without the blanks at either end. -/
def trimText (s : String) : String := String.ofList (trimSpaces s.toList)

/-- The pieces between commas, in order; `n` commas give `n + 1` pieces. -/
def splitCommas : List Char → List (List Char)
  | [] => [[]]
  | c :: rest =>
    match splitCommas rest with
    | [] => [[c]]
    | piece :: pieces => if c == ',' then [] :: piece :: pieces else (c :: piece) :: pieces

/-- The entries of a comma-separated list: each piece trimmed, blank pieces dropped. -/
def parseList (value : String) : List String :=
  ((splitCommas value.toList).map trimSpaces).filter (!·.isEmpty) |>.map String.ofList

/-- Reads the count held by variable `name`; a refusal carries the value as given. -/
def parseU64 (name value : String) : Except ConfigError Nat :=
  match readU64 (trimSpaces value.toList) with
  | .ok n => .ok n
  | .error f => .error (.invalid name value f.reason)

/-! ## Service settings

The settings come from named variables. `DATABASE_URL` is required and is checked first;
`REQUEST_TIMEOUT_SECS`, when set, must be a count. The address to listen on, the log level and
the allowed origins have defaults: `0.0.0.0:8080`, `info`, and no origins. A timeout that is not
set is 15 seconds.
-/

/-- Where to find the values of named variables. -/
abbrev Lookup := String → Option String

/-- What the service runs with. -/
structure Settings where
  databaseUrl : String
  bindAddress : String
  logLevel : String
  /-- Seconds a request may take. -/
  requestTimeout : Nat
  allowedOrigins : List String

/-- The address listened on when none is set. -/
def defaultBindAddress : String := "0.0.0.0:8080"

/-- The log level when none is set. -/
def defaultLogLevel : String := "info"

/-- The request timeout, in seconds, when none is set. -/
def defaultRequestTimeout : Nat := 15

/-- Reads the settings from the variables. -/
def Settings.ofLookup (lookup : Lookup) : Except ConfigError Settings := do
  let some databaseUrl := lookup "DATABASE_URL" | throw (.missing "DATABASE_URL")
  let requestTimeout ← match lookup "REQUEST_TIMEOUT_SECS" with
    | some value => parseU64 "REQUEST_TIMEOUT_SECS" value
    | none => pure defaultRequestTimeout
  pure { databaseUrl, requestTimeout,
         bindAddress := (lookup "BIND_ADDRESS").getD defaultBindAddress,
         logLevel := (lookup "LOG_LEVEL").getD defaultLogLevel,
         allowedOrigins := ((lookup "ALLOWED_ORIGINS").map parseList).getD [] }

/-! ## Cross-origin policy

With no allowed origins, requests from any origin are served. Otherwise each origin must be a
valid header value, and the first one that is not is reported. A list of valid origins that
holds the wildcard `*` cannot be built into a policy at all: the service stops there with a
message instead of an error value, which `CorsOutcome.halted` records.
-/

/-- Whether a character may stand in a header value: tab, visible ASCII, or any character
beyond ASCII. Control characters and DEL may not. -/
def headerChar (c : Char) : Bool := c == '\t' || (32 ≤ c.toNat && c.toNat ≠ 127)

/-- Whether a text is a valid header value. -/
def validHeaderValue (s : String) : Bool := s.toList.all headerChar

/-- Which origins may call the service. -/
inductive CorsPolicy where
  | anyOrigin
  | origins (allowed : List String)
  deriving DecidableEq

/-- What setting up the policy comes to. -/
inductive CorsOutcome where
  | ready (policy : CorsPolicy)
  | refused (e : ConfigError)
  | halted (message : String)
  deriving DecidableEq

/-- The message given when the wildcard is listed as an origin. -/
def wildcardMessage : String :=
  "Wildcard origin (`*`) cannot be passed to `AllowOrigin::list`. Use `AllowOrigin::any()` instead"

/-- The policy for the allowed origins of the settings. -/
def corsPolicy (s : Settings) : CorsOutcome :=
  if s.allowedOrigins.isEmpty then .ready .anyOrigin
  else
    match s.allowedOrigins.find? (!validHeaderValue ·) with
    | some o => .refused (.invalid "ALLOWED_ORIGINS" o "failed to parse header value")
    | none =>
      if s.allowedOrigins.contains "*" then .halted wildcardMessage
      else .ready (.origins s.allowedOrigins)

end OrderDesk
