import Mathlib.Data.Option.Defs
import SecureTunneling.Address
import SecureTunneling.Resolve

/-!
# `OnSubscribeToTunnelsNotifyResponse`

The handler of a tunnel notification: the error check, the duplicate scan over
`mContexts`, the checks of the notification's fields in order (`checkNotification`),
then `createContext`, `ConnectToSecureTunnel` and, when it returns true, `push_back`.
Each rejection is logged and returns with `mContexts` unchanged.

* `scanNotification_eq_none_iff`: the handler is undefined exactly when it reaches the
  client mode and that field is absent; every other optional is read after its check.
* `onSubscribeToTunnelsNotifyResponse_spec`: for a notification whose fields hold no
  NUL, the handler registers a context exactly when the notification passes every
  check and the connect succeeds, and that context carries the notification's access
  token, the endpoint of its region, and the resolved address and port.
-/

namespace SecureTunneling

/-- Why the handler drops a notification. -/
inductive Reject
  | receivedError (ioErr : ℤ)
  | duplicate
  | unexpectedClientMode (clientMode : String)
  | noService
  | multiPort
  | emptyAccessToken
  | emptyRegion
  | invalidAddress (service address : String)
  | invalidPort (service : String) (port : UInt16)
  deriving DecidableEq, Repr

/-- The line the handler logs for a rejection; a duplicate is logged at info level, the
others at error level. -/
def Reject.message : Reject → String
  | .receivedError ioErr =>
    "OnSubscribeToTunnelsNotifyResponse received error. ioErr=" ++ toString ioErr
  | .duplicate => "Received duplicate MQTT Tunnel Notification. Ignoring..."
  | .unexpectedClientMode clientMode => "Unexpected client mode: " ++ clientMode
  | .noService => "no service requested"
  | .multiPort => "Received a multi-port tunnel request, but multi-port tunneling is not " ++
      "currently supported by Device Client."
  | .emptyAccessToken => "access token cannot be empty"
  | .emptyRegion => "region cannot be empty"
  | .invalidAddress service address =>
    "Requested service " ++ service ++ " is not supported: invalid destination IP address " ++
      address
  | .invalidPort service port =>
    "Requested service " ++ service ++ " is not supported: invalid destination TCP port " ++
      toString port

/-- The checks after the client mode is read, each made before the field it reads, and
the request they resolve. -/
def checkFields (H : Header) (operstate : Option String) (clientMode : String)
    (n : Notification) : Except Reject Request :=
  if clientMode ≠ "destination" then .error (.unexpectedClientMode clientMode) else
  match n.services with
  | none | some [] => .error .noService
  | some (s :: rest) =>
    if rest ≠ [] then .error .multiPort else
    match n.clientAccessToken with
    | none => .error .emptyAccessToken
    | some token =>
      if token = "" then .error .emptyAccessToken else
      match n.region with
      | none => .error .emptyRegion
      | some r =>
        if r = "" then .error .emptyRegion else
        let service := cStr s
        let address := serviceAddress H operstate service
        if !isValidAddress address then .error (.invalidAddress service address) else
        let port := servicePort H (baseName service)
        if !isValidPort port.toNat then .error (.invalidPort service port) else
        .ok ⟨cStr token, cStr r, address, port⟩

/-- The checks after the duplicate scan: `response->ClientMode->c_str()`, read with no
check of the optional (`none` when it is absent), then `checkFields`. -/
def checkNotification (H : Header) (operstate : Option String) (n : Notification) :
    Option (Except Reject Request) :=
  n.clientMode.map fun mode => checkFields H operstate (cStr mode) n

/-- The handler up to `createContext`: the error check, the duplicate scan over
`mContexts`, then `checkNotification`. -/
def scanNotification (E : Env) (operstate : Option String) (mContexts : List Context)
    (response : Option Notification) (ioErr : ℤ) : Option (Except Reject Request) :=
  match response with
  | none => some (.error (.receivedError ioErr))
  | some n =>
    if ioErr ≠ 0 then some (.error (.receivedError ioErr))
    else if mContexts.any (E.isDuplicateNotification · n) then some (.error .duplicate)
    else checkNotification E.header operstate n

/-- `OnSubscribeToTunnelsNotifyResponse`: `mContexts` afterwards, `none` where the code is
undefined. The context it creates is at `ptr`, and its `ConnectToSecureTunnel` returns
`connected`. -/
def onSubscribeToTunnelsNotifyResponse (E : Env) (mEndpoint operstate : Option String)
    (ptr : ℕ) (connected : Bool) (mContexts : List Context) (response : Option Notification)
    (ioErr : ℤ) : Option (List Context) :=
  match scanNotification E operstate mContexts response ioErr with
  | none => none
  | some (.error _) => some mContexts
  | some (.ok q) =>
    if connected then some (mContexts ++ [createContext mEndpoint ptr q]) else some mContexts

/-- **The only unchecked read is the client mode**: the handler is undefined exactly when
the notification gets past the error check and the duplicate scan with no
`ClientMode`. -/
theorem scanNotification_eq_none_iff (E : Env) (operstate : Option String) (R : List Context)
    (response : Option Notification) (ioErr : ℤ) :
    scanNotification E operstate R response ioErr = none ↔
      ∃ n, response = some n ∧ ioErr = 0 ∧ (∀ c ∈ R, E.isDuplicateNotification c n = false) ∧
        n.clientMode = none := by
  cases response with
  | none => simp [scanNotification]
  | some n =>
    by_cases hio : ioErr = 0
    · by_cases hd : ∀ c ∈ R, E.isDuplicateNotification c n = false
      · have hnd : ¬∃ c, c ∈ R ∧ E.isDuplicateNotification c n = true :=
          fun ⟨c, hc, h⟩ => by simp [hd c hc] at h
        simpa [scanNotification, checkNotification, hio, hnd] using fun _ => hd
      · have hdup : ∃ c, c ∈ R ∧ E.isDuplicateNotification c n = true := by simpa using hd
        simp [scanNotification, hio, hdup, hd]
    · simp [scanNotification, hio]

/-- A check passes exactly when its condition fails and the rest passes. -/
theorem ite_error_eq_ok {c : Prop} [Decidable c] {e : Reject} {x : Except Reject Request}
    {q : Request} : (if c then .error e else x) = .ok q ↔ ¬c ∧ x = .ok q := by
  split_ifs <;> simp [*]

theorem checkFields_ok_iff (H : Header) (operstate : Option String) (clientMode : String)
    (n : Notification) (q : Request) :
    checkFields H operstate clientMode n = .ok q ↔ clientMode = "destination" ∧
      ∃ s t r, n.services = some [s] ∧ n.clientAccessToken = some t ∧ t ≠ "" ∧
        n.region = some r ∧ r ≠ "" ∧ isValidAddress (serviceAddress H operstate (cStr s)) ∧
        isValidPort (servicePort H (baseName (cStr s))).toNat ∧
        q = ⟨cStr t, cStr r, serviceAddress H operstate (cStr s), servicePort H (baseName (cStr s))⟩ := by
  rcases n with ⟨cm, _ | _ | ⟨s, _ | ⟨s2, rest⟩⟩, _ | t, _ | r⟩ <;>
    simp only [checkFields, ite_error_eq_ok] <;> simp [@eq_comm Request q]

/-- A notification the scan lets through is a duplicate of no registered context. -/
theorem scanNotification_ok_not_duplicate {E : Env} {operstate : Option String}
    {R : List Context} {n : Notification} {ioErr : ℤ} {q : Request}
    (h : scanNotification E operstate R (some n) ioErr = some (.ok q)) :
    ∀ c ∈ R, E.isDuplicateNotification c n = false := by
  intro c hc
  by_contra hd
  have : R.any (E.isDuplicateNotification · n) = true :=
    List.any_eq_true.2 ⟨c, hc, by simpa using hd⟩
  simp only [scanNotification, this, if_true] at h
  split_ifs at h <;> simp at h

/-- A notification none of whose present fields holds a NUL. -/
def Notification.NulFree (n : Notification) : Prop :=
  (∀ m ∈ n.clientMode, SecureTunneling.NulFree m) ∧
    (∀ ss ∈ n.services, ∀ s ∈ ss, SecureTunneling.NulFree s) ∧
    (∀ t ∈ n.clientAccessToken, SecureTunneling.NulFree t) ∧
    (∀ r ∈ n.region, SecureTunneling.NulFree r)

instance (n : Notification) : Decidable n.NulFree :=
  inferInstanceAs (Decidable ((∀ m ∈ n.clientMode, SecureTunneling.NulFree m) ∧
    (∀ ss ∈ n.services, ∀ s ∈ ss, SecureTunneling.NulFree s) ∧
    (∀ t ∈ n.clientAccessToken, SecureTunneling.NulFree t) ∧
    (∀ r ∈ n.region, SecureTunneling.NulFree r)))

/-- The handler's contract as its specification words it: the notification passes the
error check, the duplicate scan and every check of its fields, and `q` is what it
resolves to. -/
def Admitted (E : Env) (operstate : Option String) (R : List Context) (n : Notification)
    (ioErr : ℤ) (q : Request) : Prop :=
  ioErr = 0 ∧ (∀ c ∈ R, E.isDuplicateNotification c n = false) ∧
    n.clientMode = some "destination" ∧
    ∃ s t r, n.services = some [s] ∧ n.clientAccessToken = some t ∧ t ≠ "" ∧
      n.region = some r ∧ r ≠ "" ∧ isValidAddress (serviceAddress E.header operstate s) ∧
      isValidPort (servicePort E.header (baseName s)).toNat ∧
      q = ⟨t, r, serviceAddress E.header operstate s, servicePort E.header (baseName s)⟩

theorem checkNotification_ok_iff (H : Header) (operstate : Option String) {n : Notification}
    (hn : n.NulFree) (q : Request) :
    checkNotification H operstate n = some (.ok q) ↔ n.clientMode = some "destination" ∧
      ∃ s t r, n.services = some [s] ∧ n.clientAccessToken = some t ∧ t ≠ "" ∧
        n.region = some r ∧ r ≠ "" ∧ isValidAddress (serviceAddress H operstate s) ∧
        isValidPort (servicePort H (baseName s)).toNat ∧
        q = ⟨t, r, serviceAddress H operstate s, servicePort H (baseName s)⟩ := by
  obtain ⟨hm, hs, ht, hr⟩ := hn
  cases hcm : n.clientMode with
  | none => simp [checkNotification, hcm]
  | some m =>
    simp only [checkNotification, hcm, Option.map_some', Option.some.injEq, checkFields_ok_iff,
      cStr_of_nulFree (hm m hcm)]
    refine and_congr_right fun _ => exists_congr fun s => exists_congr fun t => exists_congr fun r => ?_
    refine and_congr_right fun h1 => and_congr_right fun h2 => and_congr_right fun _ =>
      and_congr_right fun h4 => ?_
    rw [cStr_of_nulFree (hs _ h1 s (List.mem_singleton_self s)), cStr_of_nulFree (ht t h2),
      cStr_of_nulFree (hr r h4)]

theorem scanNotification_ok_iff (E : Env) (operstate : Option String) (R : List Context)
    {n : Notification} (hn : n.NulFree) (ioErr : ℤ) (q : Request) :
    scanNotification E operstate R (some n) ioErr = some (.ok q) ↔ Admitted E operstate R n ioErr q := by
  by_cases hio : ioErr = 0
  · by_cases hd : ∀ c ∈ R, E.isDuplicateNotification c n = false
    · have hnd : ¬∃ c, c ∈ R ∧ E.isDuplicateNotification c n = true :=
        fun ⟨c, hc, h⟩ => by simp [hd c hc] at h
      simp only [scanNotification, hio, List.any_eq_true, hnd, Admitted, hd, true_and,
        checkNotification_ok_iff E.header operstate hn, if_false, ne_eq, not_true_eq_false]
      exact ⟨fun h => ⟨hd, h⟩, And.right⟩
    · have hdup : ∃ c, c ∈ R ∧ E.isDuplicateNotification c n = true := by simpa using hd
      simp [scanNotification, hio, hdup, Admitted, hd]
  · simp [scanNotification, hio, Admitted]

/-- `sampleHeader`, with a context counted a duplicate of every notification that carries
its access token. -/
def sampleEnv : Env := ⟨sampleHeader, fun c n => n.clientAccessToken == some c.accessToken⟩

/-- **The handler's contract, for notifications with no NUL in their fields.** With the
client mode present, the handler appends a context exactly when the notification passes
every check and the context's `ConnectToSecureTunnel` returns true; that context is at
`ptr` and carries the notification's access token, the endpoint of its region, and the
resolved address and port. Otherwise `mContexts` is left as it was. The handler is
registered only with the SDK's `SubscribeToTunnelsNotify`, which reads a notification's
fields from its JSON payload as C strings: they hold no NUL. -/
theorem onSubscribeToTunnelsNotifyResponse_spec (E : Env) (mEndpoint operstate : Option String)
    (ptr : ℕ) (connected : Bool) (R : List Context) {n : Notification} (hn : n.NulFree)
    (hm : n.clientMode ≠ none) (ioErr : ℤ) :
    (∀ q, Admitted E operstate R n ioErr q → connected = true →
      onSubscribeToTunnelsNotifyResponse E mEndpoint operstate ptr connected R (some n) ioErr =
        some (R ++ [createContext mEndpoint ptr q])) ∧
    ((∀ q, ¬Admitted E operstate R n ioErr q) ∨ connected = false →
      onSubscribeToTunnelsNotifyResponse E mEndpoint operstate ptr connected R (some n) ioErr =
        some R) := by
  have hdef : scanNotification E operstate R (some n) ioErr ≠ none := by
    rw [ne_eq, scanNotification_eq_none_iff]
    rintro ⟨_, h, -, -, hcm⟩
    cases h
    exact hm hcm
  unfold onSubscribeToTunnelsNotifyResponse
  cases hs : scanNotification E operstate R (some n) ioErr with
  | none => exact absurd hs hdef
  | some r =>
    cases r with
    | error e =>
      have hno : ∀ q, ¬Admitted E operstate R n ioErr q := fun q hq => by
        rw [← scanNotification_ok_iff E operstate R hn] at hq
        simp [hs] at hq
      exact ⟨fun q hq => absurd hq (hno q), fun _ => rfl⟩
    | ok q' =>
      have hq' := (scanNotification_ok_iff E operstate R hn ioErr q').1 hs
      refine ⟨fun q hq hc => ?_, fun h => ?_⟩
      · have : q = q' := by
          rw [← scanNotification_ok_iff E operstate R hn, hs] at hq
          simpa using hq.symm
        simp [hc, this]
      · rcases h with h | h
        · exact absurd hq' (h q')
        · simp [h]

theorem onSubscribeToTunnelsNotifyResponse_spec_sample :
    onSubscribeToTunnelsNotifyResponse sampleEnv none none 1 true []
      (some ⟨some "destination", some ["SSH"], some "tok", some "us-east-1"⟩) 0 =
      some [createContext none 1 ⟨"tok", "us-east-1", "169.254.0.1", 22⟩] :=
  (onSubscribeToTunnelsNotifyResponse_spec sampleEnv none none 1 true [] (by decide) (by decide) 0).1 _
    ⟨rfl, by simp, rfl, "SSH", "tok", "us-east-1", rfl, rfl, by decide, rfl, by decide, by decide,
      by decide, rfl⟩ rfl

/-- The NUL hypothesis is needed: an access token made of a NUL passes the emptiness check,
and `c_str()` then hands `createContext` the empty token. -/
example :
    onSubscribeToTunnelsNotifyResponse sampleEnv none none 1 true []
      (some ⟨some "destination", some ["SSH"], some "\x00", some "us-east-1"⟩) 0 =
      some [⟨1, "", "data.tunneling.iot.us-east-1.amazonaws.com", "169.254.0.1", 22⟩] := by
  decide

/-- A notification with no field reaches the read of the absent client mode. -/
theorem onSubscribeToTunnelsNotifyResponse_absent_clientMode (E : Env)
    (mEndpoint operstate : Option String) (ptr : ℕ) (connected : Bool) :
    onSubscribeToTunnelsNotifyResponse E mEndpoint operstate ptr connected []
      (some ⟨none, none, none, none⟩) 0 = none := by
  have h : scanNotification E operstate [] (some ⟨none, none, none, none⟩) 0 = none :=
    (scanNotification_eq_none_iff _ _ _ _ _).2 ⟨_, rfl, rfl, by simp, rfl⟩
  simp [onSubscribeToTunnelsNotifyResponse, h]

end SecureTunneling
