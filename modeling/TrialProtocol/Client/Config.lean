import TrialProtocol.Json.Record
import TrialProtocol.Text.Numeral

/-!
# Settings of a client

Where the server is, how long to wait, and who asks. Settings come from the environment or from a
document in a file; what is not set there keeps its default.

* A variable whose bytes spell no text counts as unset.
* A blank address and an empty token count as unset, a blank timeout does not: it is refused.
* The token is never shown (`ClientConfig.shown`).
-/

namespace TrialProtocol

/-- The settings of a client. -/
structure ClientConfig where
  /-- The address of the server. -/
  address : String := "http://localhost:8000"
  /-- Seconds until a request is given up; zero waits for ever. -/
  timeoutSecs : UInt64 := 30
  userAgent : String := "redsky-client/0.1.0"
  /-- The token that every request bears. -/
  token : Option String := none
  deriving DecidableEq, Repr, Inhabited

/-- Why no client can be set up. -/
inductive ConfigFault where
  | badTimeout (text : String)
  | missingFile (path : String)
  | notText (path : String)
  | badDocument (path : String) (fault : Json.Fault)
  | badToken
  | badUserAgent
  | notABase (address : String)
  deriving DecidableEq, Repr

/-- The wording of a fault. -/
def ConfigFault.message : ConfigFault → String
  | .badTimeout text => "Invalid REDSKY_TIMEOUT_SECS: " ++ Text.quotedString text
  | .missingFile path =>
    "Failed to read config file " ++ path ++ ": No such file or directory (os error 2)"
  | .notText path =>
    "Failed to read config file " ++ path ++ ": stream did not contain valid UTF-8"
  | .badDocument path fault => "Failed to parse config file " ++ path ++ ": " ++ fault.message
  | .badToken => "token contains characters not allowed in a header"
  | .badUserAgent => "Failed to create HTTP client: builder error"
  | .notABase address => "server address cannot be used as a base URL: " ++ address

namespace ClientConfig

/-- The time after which a request is given up, if there is one. -/
def timeout? (c : ClientConfig) : Option UInt64 :=
  if c.timeoutSecs = 0 then none else some c.timeoutSecs

/-! ## 1. From the environment -/

/-- The variables that hold settings, as the bytes they are set to. -/
structure Variables where
  address : Option (List UInt8) := none
  timeoutSecs : Option (List UInt8) := none
  token : Option (List UInt8) := none

/-- The address of a variable, without the blanks around it. -/
def addressFrom (value : Option (List Char)) (default : String) : String :=
  match value.map Text.trim with
  | some (c :: cs) => String.ofList (c :: cs)
  | _ => default

/-- The timeout of a variable. -/
def timeoutFrom (value : Option (List Char)) (default : UInt64) : Except ConfigFault UInt64 :=
  match value with
  | none => .ok default
  | some text =>
    match Text.readNat Text.maxWord64 (Text.trim text) with
    | .ok n => .ok (UInt64.ofNat n)
    | .error _ => .error (.badTimeout (String.ofList text))

/-- The token of a variable. -/
def tokenFrom : Option (List Char) → Option String
  | some (c :: cs) => some (String.ofList (c :: cs))
  | _ => none

/-- The settings of the environment. -/
def ofVariables (v : Variables) : Except ConfigFault ClientConfig := do
  let default : ClientConfig := {}
  let timeoutSecs ← timeoutFrom (v.timeoutSecs.bind Utf8.decode?) default.timeoutSecs
  return { default with
    address := addressFrom (v.address.bind Utf8.decode?) default.address
    timeoutSecs := timeoutSecs
    token := tokenFrom (v.token.bind Utf8.decode?) }

/-! ## 2. From a file -/

/-- Settings under construction. -/
structure Draft where
  address : Option String := none
  timeoutSecs : Option UInt64 := none
  userAgent : Option String := none
  token : Option (Option String) := none

/-- The record of settings; every member may be missing. -/
def record : Json.Record Draft ClientConfig where
  name := "ClientConfig"
  fields :=
    [Json.Member.of "address" Draft.address (fun s x => { s with address := some x }) Json.string,
      Json.Member.of "timeout_secs" Draft.timeoutSecs
        (fun s x => { s with timeoutSecs := some x }) Json.word64,
      Json.Member.of "user_agent" Draft.userAgent
        (fun s x => { s with userAgent := some x }) Json.string,
      Json.Member.of "token" Draft.token (fun s x => { s with token := some x })
        (Json.optional Json.string)]
  empty := {}
  complete s :=
    let default : ClientConfig := {}
    .ok
      { address := s.address.getD default.address
        timeoutSecs := s.timeoutSecs.getD default.timeoutSecs
        userAgent := s.userAgent.getD default.userAgent
        token := s.token.getD default.token }

/-- The settings of a file, given its path and its bytes if it is there. -/
def ofFile (path : String) (content : Option (List UInt8)) : Except ConfigFault ClientConfig :=
  match content with
  | none => .error (.missingFile path)
  | some bytes =>
    match Utf8.decode? bytes with
    | none => .error (.notText path)
    | some text =>
      match Json.readAll record.decoder (text.map some) with
      | .ok config => .ok config
      | .error fault => .error (.badDocument path fault)

/-! ## 3. As shown in a log -/

/-- The settings in one line. Of a token it says only whether there is one. -/
def shown (c : ClientConfig) : String :=
  "ClientConfig \x7b address: " ++ Text.quotedString c.address ++
    ", timeout_secs: " ++ Nat.repr c.timeoutSecs.toNat ++
    ", user_agent: " ++ Text.quotedString c.userAgent ++
    ", token: " ++ (if c.token.isSome then "Some(\"<redacted>\")" else "None") ++ " \x7d"

end ClientConfig

end TrialProtocol
