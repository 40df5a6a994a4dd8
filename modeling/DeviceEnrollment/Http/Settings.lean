import DeviceEnrollment.Time.Duration

/-!
Settings of an executor of requests.
-/
namespace DeviceEnrollment.Http

/-- Where trust in servers begins. -/
inductive TlsRoots where
  /-- The roots that come with the program. -/
  | webPki
  /-- The roots of the system. -/
  | native
deriving DecidableEq, Repr

def TlsRoots.name : TlsRoots → String
  | webPki => "WebPki"
  | native => "Native"

def TlsRoots.wireName : TlsRoots → String
  | webPki => "web_pki"
  | native => "native"

def TlsRoots.variants : List (String × TlsRoots) :=
  [webPki, native].map fun roots => (roots.wireName, roots)

/-- Whether requests may travel unencrypted. -/
inductive TransportSecurity where
  | tlsOnly
  | allowInsecureHttp
deriving DecidableEq, Repr

def TransportSecurity.name : TransportSecurity → String
  | tlsOnly => "TlsOnly"
  | allowInsecureHttp => "AllowInsecureHttp"

/-- How many requests may be under way at once. -/
structure ConcurrencyLimit where
  maxInFlight : Nat
  maxInFlight_pos : 0 < maxInFlight
deriving DecidableEq, Repr

/-- The limit of this size, and of one in place of zero. -/
def ConcurrencyLimit.ofNat (size : Nat) : ConcurrencyLimit := ⟨max size 1, by omega⟩

structure ExecutorSettings where
  requestTimeout : Time.Duration
  maxBodySize : Nat
  userAgent : String
  concurrencyLimit : Option ConcurrencyLimit
  transport : TransportSecurity
  tlsRoots : TlsRoots
  /-- How many requests may wait to be taken up. -/
  bufferCapacity : Nat
  poolIdleTimeout : Option Time.Duration
  poolMaxIdlePerHost : Nat
deriving DecidableEq, Repr

namespace ExecutorSettings

def defaultUserAgent : String := "dps-provisioning-http/0.2.8"

def default : ExecutorSettings :=
  { requestTimeout := .ofSeconds 30
    maxBodySize := 10 * 1024 * 1024
    userAgent := defaultUserAgent
    concurrencyLimit := none
    transport := .tlsOnly
    tlsRoots := .webPki
    bufferCapacity := 1024
    poolIdleTimeout := some (.ofSeconds 90)
    poolMaxIdlePerHost := 32 }

end ExecutorSettings

end DeviceEnrollment.Http
