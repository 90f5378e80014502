import Mathlib.Data.List.Basic

/-!
# The data the tunneling feature works on

A notification (`SecureTunnelingNotifyResponse`) has four optional fields. A tunnel
session (`SecureTunnelingContext`) is an object the feature owns through a
`unique_ptr`; `mContexts` compares sessions by address, so a `Context` here is its
address together with the arguments it was constructed with.

The constants of `SecureTunnelingFeature.h` are not among the sources. The ones the
doc comment of `AddInterlakeEndpoints` fixes (the interlake address prefix and the
master host id) are definitions; the others are fields of `Header`, and every result
holds for every value of them or says what it needs of them. `SecureTunnelingContext::IsDuplicateNotification` is
not among the sources either: it is a field of `Env`.

Every `Aws::Crt::String` field is turned into a `std::string` through `c_str()`,
which keeps the characters before the first NUL (`cStr`).
-/

namespace SecureTunneling

/-- `std::string(s.c_str())`: the characters of `s` before its first NUL. -/
def cStr (s : String) : String := ⟨s.toList.takeWhile (· ≠ '\x00')⟩

/-- A string with no NUL character, which `c_str()` leaves whole. -/
def NulFree (s : String) : Prop := '\x00' ∉ s.toList

instance (s : String) : Decidable (NulFree s) := inferInstanceAs (Decidable (_ ∉ _))

theorem cStr_of_nulFree {s : String} (h : NulFree s) : cStr s = s := by
  unfold cStr
  rw [List.takeWhile_eq_self_iff.2 fun c hc => by simpa using ne_of_mem_of_not_mem hc h]
  rfl

/-- The fields of `SecureTunnelingNotifyResponse` the handler reads. -/
structure Notification where
  clientMode : Option String
  services : Option (List String)
  clientAccessToken : Option String
  region : Option String
  deriving DecidableEq, Repr

/-- A `SecureTunnelingContext`: its address (`unique_ptr::get`, never `0` for a live
object) and the arguments it was constructed with. -/
structure Context where
  ptr : ℕ
  accessToken : String
  endpoint : String
  address : String
  port : UInt16
  deriving DecidableEq, Repr

/-- The constants of `SecureTunnelingFeature.h` that no source fixes. -/
structure Header where
  emcNetworkBridgeIpAddress : String
  tivaTcpIpAddress : String
  tivaRs485IpAddress : String
  tivaServiceIdPrefix : String
  maxInterlakeSystemSize : ℕ
  sshTcpPort : UInt16
  gwTcpPort : UInt16
  tivaTcpPort : UInt16

/-- `TIVA_TCP_IP_ADDRESS_PREFIX`: interlake system `i` gets this prefix followed by
`MASTER_SYSTEM_HOST_ID + i`, and the master gets "169.254.0.6". -/
def tivaTcpIpAddressPrefix : String := "169.254.0."

/-- `MASTER_SYSTEM_HOST_ID`. -/
def masterSystemHostId : ℕ := 6

/-- What the feature's code calls but does not define. -/
structure Env where
  header : Header
  /-- `SecureTunnelingContext::IsDuplicateNotification`. -/
  isDuplicateNotification : Context → Notification → Bool

/-- The `tunneling` part of `PlainConfig` that `LoadFromConfig` reads. The static-mode
fields are the values behind the optionals it dereferences, which the configuration
loader has validated. -/
structure Config where
  subscribeNotification : Bool
  endpoint : Option String
  destinationAccessToken : String
  region : String
  address : String
  port : ℤ

/-- `IsValidPort`. -/
def isValidPort (port : ℤ) : Bool := 1 ≤ port && port ≤ 65535

/-- A `uint16_t` port is valid exactly when it is not 0. -/
theorem isValidPort_toNat (p : UInt16) : isValidPort p.toNat = true ↔ p ≠ 0 := by
  have hlt : p.toNat < 65536 := p.toNat_lt_size
  have h0 : p = 0 ↔ p.toNat = 0 :=
    ⟨fun h => by simp [h], fun h => UInt16.toNat.inj (by simpa using h)⟩
  simp only [isValidPort, Bool.and_eq_true, decide_eq_true_eq, ne_eq, h0]
  omega

/-- `FormatMessage(DEFAULT_PROXY_ENDPOINT_HOST_FORMAT, region)`, the host the comment
in `GetEndpoint` gives: `data.tunneling.iot.<region>.amazonaws.com`. -/
def defaultProxyEndpointHost (region : String) : String :=
  "data.tunneling.iot." ++ region ++ ".amazonaws.com"

/-- `GetEndpoint`: the configured endpoint if there is one, else the default host for
the region, with ".cn" appended for a region starting with "cn-". -/
def getEndpoint (mEndpoint : Option String) (region : String) : String :=
  match mEndpoint with
  | some endpoint => endpoint
  | none =>
    let endpoint := defaultProxyEndpointHost (cStr region)
    if region.take 3 = "cn-" then endpoint ++ ".cn" else endpoint

/-- The arguments `createContext` receives from the handler. -/
structure Request where
  accessToken : String
  region : String
  address : String
  port : UInt16
  deriving DecidableEq, Repr

/-- `createContext`: a context at address `ptr` for a resolved request. -/
def createContext (mEndpoint : Option String) (ptr : ℕ) (q : Request) : Context :=
  ⟨ptr, q.accessToken, getEndpoint mEndpoint q.region, q.address, q.port⟩

@[simp] theorem createContext_ptr (mEndpoint : Option String) (ptr : ℕ) (q : Request) :
    (createContext mEndpoint ptr q).ptr = ptr := rfl

end SecureTunneling
