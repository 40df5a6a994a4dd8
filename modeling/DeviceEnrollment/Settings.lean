import DeviceEnrollment.Credential
import DeviceEnrollment.Http.Settings
import DeviceEnrollment.Text.Digits
import DeviceEnrollment.Text.Quoted

/-!
Settings of a client of the registry.
-/
namespace DeviceEnrollment

structure Settings where
  endpoint : String
  apiVersion : String
  requestTimeoutMillis : Nat
  maxResponseSize : Nat
  userAgent : Option String
  credential : Option Credential
  allowInsecureHttp : Bool
  tlsRoots : Http.TlsRoots
  maxConcurrentRequests : Option Nat
deriving DecidableEq

namespace Settings

def default : Settings :=
  { endpoint := ""
    apiVersion := "2021-10-01"
    requestTimeoutMillis := 30000
    maxResponseSize := 10 * 1024 * 1024
    userAgent := none
    credential := none
    allowInsecureHttp := false
    tlsRoots := .webPki
    maxConcurrentRequests := none }

/-- The names of the settings, in order. -/
def names : List String :=
  ["endpoint", "api_version", "request_timeout_ms", "max_response_size_bytes", "user_agent",
    "credential", "allow_insecure_http", "tls_roots", "max_concurrent_requests"]

/-- The values as they are shown, without the credential. -/
def valueTexts (settings : Settings) : List String :=
  [ Text.quoted settings.endpoint,
    Text.quoted settings.apiVersion,
    Text.numberText settings.requestTimeoutMillis,
    Text.numberText settings.maxResponseSize,
    Text.optional (settings.userAgent.map Text.quoted),
    Text.optional (settings.credential.map Credential.text),
    if settings.allowInsecureHttp then "true" else "false",
    settings.tlsRoots.name,
    Text.optional (settings.maxConcurrentRequests.map Text.numberText) ]

/-- What settings are shown as. -/
def text (settings : Settings) : String :=
  let fields := names.zip settings.valueTexts |>.map fun (name, value) => name ++ ": " ++ value
  "RegistryClientConfig \x7b " ++ ", ".intercalate fields ++ " \x7d"

/-- The settings of the executor below. -/
def executor (settings : Settings) : Http.ExecutorSettings :=
  { Http.ExecutorSettings.default with
    requestTimeout := .ofMillis settings.requestTimeoutMillis
    maxBodySize := settings.maxResponseSize
    concurrencyLimit := settings.maxConcurrentRequests.map Http.ConcurrencyLimit.ofNat
    tlsRoots := settings.tlsRoots
    transport := if settings.allowInsecureHttp then .allowInsecureHttp else .tlsOnly
    userAgent := settings.userAgent.getD Http.ExecutorSettings.defaultUserAgent }

end Settings

end DeviceEnrollment
