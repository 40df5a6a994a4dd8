import DeviceEnrollment.Http.Settings

/-!
What TLS finds on the machine that it is set up on, and why it cannot be set up there.
-/
namespace DeviceEnrollment.Http

/-- The machine as TLS finds it. -/
structure TrustStore where
  /-- How many certificates the system has as roots of trust. -/
  certificates : Nat
  /-- How many of them can be parsed. -/
  parsed : Nat
  parsed_le : parsed ≤ certificates
  /-- Why the ciphers at hand allow no version of the protocol, if they allow none. -/
  versionFault : Option String
deriving DecidableEq, Repr

namespace TrustStore

def noRoots : String := "no native root CA certificates found in OS certificate store"

def noParsedRoots (count : Nat) : String :=
  s!"none of the {count} native root CA certificates could be parsed"

/-- Why TLS cannot be set up with these roots, if it cannot. Certificates that cannot be parsed are
passed over as long as there are others. -/
def fault? (store : TrustStore) : TlsRoots → Option String
  | .webPki => store.versionFault
  | .native =>
    if store.certificates = 0 then some noRoots
    else if store.parsed = 0 then some (noParsedRoots store.certificates)
    else store.versionFault.map fun fault => s!"failed to set TLS protocol versions: {fault}"

end TrustStore

end DeviceEnrollment.Http
