import SecureTunneling.Address

/-!
# Resolving a service to an address and a port

`GetAddressFromService` and `GetPortFromService` read process-wide maps that the first
call fills (`mServiceToAddressMap`, `mServiceToPortMap`). The address map is keyed by
the service after `AppendPostfixToService`, which turns "TIVA" into "TIVA_TCP" when the
first line of the link-state file is "up" and into "TIVA_RS485" otherwise; the handler
looks the port up under the service cut at its first "_".

* `getAddressFromService_eq`, `getPortFromService_eq`: from either state a map can be
  in (empty, or filled), a call leaves it filled and returns the lookup in the filled
  map, so the handler's resolution is a function of the service and the link state
  (`serviceAddress`, `servicePort`).
* `serviceAddress_valid_port`: a service with a valid address has a valid port under its
  base name, for a header whose interlake prefix reads "TIVA" up to a "_" and whose
  ports are not 0; `interlake_key_without_port`: not so for a prefix with no "_".
* `serviceAddress_tiva_up`, `serviceAddress_tiva`: "TIVA" resolves to the TIVA_TCP
  address over a link that is up, whatever the header, and to the TIVA_RS485 address
  otherwise, unless an interlake key takes that entry (`interlake_key_overwrites_tivaRs485`).

The header that defines the constants is not among the sources; they are the fields of
`Header`, and the results above say what they need of them.
-/

namespace SecureTunneling

/-- A `std::map` with string keys, as the list of its entries. -/
abbrev StrMap (α : Type) := List (String × α)

variable {α : Type}

/-- `m[k] = v`. -/
def StrMap.assign (m : StrMap α) (k : String) (v : α) : StrMap α :=
  (k, v) :: m.filter (fun e => e.1 ≠ k)

/-- `m.find(k)`, `none` for `end()`. -/
def StrMap.find : StrMap α → String → Option α
  | [], _ => none
  | (k, v) :: m, k' => if k' = k then some v else StrMap.find m k'

theorem StrMap.find_filter (m : StrMap α) (k k' : String) :
    StrMap.find (m.filter (fun e => e.1 ≠ k)) k' = if k' = k then none else m.find k' := by
  induction m with
  | nil => simp [StrMap.find]
  | cons e m ih =>
    by_cases he : e.1 = k
    · rw [List.filter_cons_of_neg (by simpa using he), ih]
      by_cases hk : k' = k <;> simp [StrMap.find, hk, he]
    · rw [List.filter_cons_of_pos (by simpa using he)]
      by_cases hk : k' = e.1
      · simp [StrMap.find, hk, he]
      · simp only [StrMap.find, if_neg hk]
        exact ih

@[simp] theorem StrMap.find_assign (m : StrMap α) (k k' : String) (v : α) :
    (m.assign k v).find k' = if k' = k then some v else m.find k' := by
  by_cases hk : k' = k
  · simp [StrMap.assign, StrMap.find, hk]
  · simp only [StrMap.assign, StrMap.find, if_neg hk]
    rw [StrMap.find_filter, if_neg hk]

/-- The last character `std::to_string` writes is the units digit. -/
theorem toDigitsCore_succ (fuel n : ℕ) (ds : List Char) :
    ∃ l, Nat.toDigitsCore 10 (fuel + 1) n ds = l ++ Nat.digitChar (n % 10) :: ds := by
  induction fuel generalizing n ds with
  | zero =>
    refine ⟨[], ?_⟩
    show (if n / 10 = 0 then _ else Nat.toDigitsCore 10 0 (n / 10) _) = _
    split <;> rfl
  | succ fuel ih =>
    show ∃ l, (if n / 10 = 0 then Nat.digitChar (n % 10) :: ds
      else Nat.toDigitsCore 10 (fuel + 1) (n / 10) (Nat.digitChar (n % 10) :: ds)) = _
    split
    · exact ⟨[], rfl⟩
    · obtain ⟨l, hl⟩ := ih (n / 10) (Nat.digitChar (n % 10) :: ds)
      exact ⟨l ++ [Nat.digitChar (n / 10 % 10)], by simp [hl]⟩

theorem toString_eq_concat (i : ℕ) : ∃ l, (toString i).toList = l ++ [Nat.digitChar (i % 10)] :=
  toDigitsCore_succ i i []

theorem digitChar_isDigit {d : ℕ} (h : d < 10) : (Nat.digitChar d).isDigit = true := by
  have : ∀ d < 10, (Nat.digitChar d).isDigit = true := by decide
  exact this d h

/-- `AddInterlakeEndpoints`: for `i < MAX_INTERLAKE_SYSTEM_SIZE`, the key
`TIVA_SERVICE_ID_PREFIX + i` gets the address `TIVA_TCP_IP_ADDRESS_PREFIX + (6 + i)`. -/
def addInterlakeEndpoints (H : Header) (serviceToAddressMap : StrMap String) : StrMap String :=
  (List.range H.maxInterlakeSystemSize).foldl
    (fun m i => m.assign (H.tivaServiceIdPrefix ++ toString i)
      (tivaTcpIpAddressPrefix ++ toString (masterSystemHostId + i)))
    serviceToAddressMap

/-- A key no round of the loop writes keeps its entry. -/
theorem find_foldl_interlake_of_ne (H : Header) {k : String} : ∀ (l : List ℕ) (m : StrMap String),
    (∀ i ∈ l, H.tivaServiceIdPrefix ++ toString i ≠ k) →
    (l.foldl (fun m i => m.assign (H.tivaServiceIdPrefix ++ toString i)
      (tivaTcpIpAddressPrefix ++ toString (masterSystemHostId + i))) m).find k = m.find k
  | [], _, _ => rfl
  | i :: l, m, hk => by
    rw [List.foldl_cons, find_foldl_interlake_of_ne H l _ fun j hj => hk j (List.mem_cons_of_mem _ hj),
      StrMap.find_assign, if_neg (Ne.symm (hk i (List.mem_cons_self _ _)))]

/-- A key no round of `AddInterlakeEndpoints` writes keeps its entry. -/
theorem find_addInterlakeEndpoints_of_ne (H : Header) (m : StrMap String) {k : String}
    (hk : ∀ i < H.maxInterlakeSystemSize, H.tivaServiceIdPrefix ++ toString i ≠ k) :
    (addInterlakeEndpoints H m).find k = m.find k :=
  find_foldl_interlake_of_ne H _ m fun i hi => hk i (List.mem_range.1 hi)

/-- No key `AddInterlakeEndpoints` writes ends in a character that is not a digit. -/
theorem interlake_key_ne (H : Header) (i : ℕ) {s : String} {l : List Char} {ch : Char}
    (hs : s.toList = l ++ [ch]) (hch : ch.isDigit = false) : H.tivaServiceIdPrefix ++ toString i ≠ s := by
  intro h
  obtain ⟨l', hl⟩ := toString_eq_concat i
  have h' : H.tivaServiceIdPrefix.toList ++ (toString i).toList = l ++ [ch] :=
    (congrArg String.data h).trans hs
  rw [hl, ← List.append_assoc] at h'
  have hch' : Nat.digitChar (i % 10) = ch := by simpa using (List.append_inj' h' rfl).2
  have := digitChar_isDigit (Nat.mod_lt i (by omega))
  rw [hch', hch] at this
  exact absurd this (by decide)

theorem interlake_key_ne_tivaTcp (H : Header) (i : ℕ) :
    H.tivaServiceIdPrefix ++ toString i ≠ "TIVA_TCP" :=
  interlake_key_ne H i (show "TIVA_TCP".toList = "TIVA_TC".toList ++ ['P'] from rfl) rfl

/-- What `GetAddressFromService` stores in an empty address map. -/
def fillAddressMap (H : Header) (m : StrMap String) : StrMap String :=
  addInterlakeEndpoints H
    ((((m.assign "SSH" H.emcNetworkBridgeIpAddress).assign "GW" H.emcNetworkBridgeIpAddress).assign
      "TIVA_TCP" H.tivaTcpIpAddress).assign "TIVA_RS485" H.tivaRs485IpAddress)

/-- The address map once filled. -/
def addressTable (H : Header) : StrMap String := fillAddressMap H []

/-- `getline` on the link-state file: its first line, `none` when the file cannot be
opened or is empty. -/
def firstLine : Option String → Option String
  | none => none
  | some content => if content.isEmpty then none else some ⟨content.toList.takeWhile (· ≠ '\n')⟩

/-- `AppendPostfixToService`, given the content of `TCP_OPERSTATE_FILE` (`none` when it
cannot be opened). -/
def appendPostfixToService (operstate : Option String) (service : String) : String :=
  if service ≠ "TIVA" then service
  else if firstLine operstate = some "up" then service ++ "_TCP"
  else service ++ "_RS485"

/-- `GetAddressFromService`: the address map afterwards and the address, "" for an
unknown service. -/
def getAddressFromService (H : Header) (mServiceToAddressMap : StrMap String)
    (operstate : Option String) (service : String) : StrMap String × String :=
  let m := if mServiceToAddressMap.isEmpty then fillAddressMap H mServiceToAddressMap
    else mServiceToAddressMap
  match m.find (appendPostfixToService operstate service) with
  | none => (m, "")
  | some address => (m, address)

/-- The port map once filled. -/
def portTable (H : Header) : StrMap UInt16 :=
  StrMap.assign (StrMap.assign (StrMap.assign [] "SSH" H.sshTcpPort) "GW" H.gwTcpPort) "TIVA"
    H.tivaTcpPort

/-- `GetPortFromService`: the port map afterwards and the port, 0 for an unknown service. -/
def getPortFromService (H : Header) (mServiceToPortMap : StrMap UInt16) (service : String) :
    StrMap UInt16 × UInt16 :=
  let m := if mServiceToPortMap.isEmpty then
      ((mServiceToPortMap.assign "SSH" H.sshTcpPort).assign "GW" H.gwTcpPort).assign "TIVA" H.tivaTcpPort
    else mServiceToPortMap
  match m.find service with
  | none => (m, 0)
  | some port => (m, port)

/-- `service.substr(0, service.find("_"))`. -/
def baseName (service : String) : String := ⟨service.toList.takeWhile (· ≠ '_')⟩

/-- The address the handler resolves a service to. -/
def serviceAddress (H : Header) (operstate : Option String) (service : String) : String :=
  ((addressTable H).find (appendPostfixToService operstate service)).getD ""

/-- The port the handler resolves a service to. -/
def servicePort (H : Header) (service : String) : UInt16 :=
  ((portTable H).find service).getD 0

/-- A header to evaluate the model on. The constants are not among the sources: these
values are an example only. -/
def sampleHeader : Header where
  emcNetworkBridgeIpAddress := "169.254.0.1"
  tivaTcpIpAddress := "169.254.0.6"
  tivaRs485IpAddress := "169.254.0.5"
  tivaServiceIdPrefix := "TIVA_"
  maxInterlakeSystemSize := 2
  sshTcpPort := 22
  gwTcpPort := 80
  tivaTcpPort := 5000

theorem addInterlakeEndpoints_ne_nil (H : Header) {m : StrMap String} (hm : m ≠ []) :
    addInterlakeEndpoints H m ≠ [] := by
  unfold addInterlakeEndpoints
  generalize List.range H.maxInterlakeSystemSize = l
  induction l generalizing m with
  | nil => exact hm
  | cons i l ih => exact ih (by simp [StrMap.assign])

theorem addressTable_ne_nil (H : Header) : addressTable H ≠ [] :=
  addInterlakeEndpoints_ne_nil H (by simp [StrMap.assign])

/-- **The lazily filled address map**: from the empty map or the filled one, a call
leaves the filled map and returns the lookup in it. -/
theorem getAddressFromService_eq (H : Header) {m : StrMap String} (hm : m = [] ∨ m = addressTable H)
    (operstate : Option String) (service : String) :
    getAddressFromService H m operstate service = (addressTable H, serviceAddress H operstate service) := by
  have hfill : (if m.isEmpty then fillAddressMap H m else m) = addressTable H := by
    rcases hm with rfl | rfl
    · rfl
    · simp [List.isEmpty_iff, addressTable_ne_nil]
  simp only [getAddressFromService, hfill, serviceAddress]
  split <;> simp_all

/-- **The lazily filled port map**, as for addresses. -/
theorem getPortFromService_eq (H : Header) {m : StrMap UInt16} (hm : m = [] ∨ m = portTable H)
    (service : String) : getPortFromService H m service = (portTable H, servicePort H service) := by
  have hfill : (if m.isEmpty then
      ((m.assign "SSH" H.sshTcpPort).assign "GW" H.gwTcpPort).assign "TIVA" H.tivaTcpPort
      else m) = portTable H := by
    rcases hm with rfl | rfl <;> simp [portTable, StrMap.assign]
  simp only [getPortFromService, hfill, servicePort]
  split <;> simp_all

/-! ## The address and the port of a service -/

/-- The keys of the filled address map: the four it is filled with, and those
`AddInterlakeEndpoints` adds. -/
theorem addressTable_keys (H : Header) {k a : String} (h : (addressTable H).find k = some a) :
    k ∈ ["SSH", "GW", "TIVA_TCP", "TIVA_RS485"] ∨
      ∃ i < H.maxInterlakeSystemSize, k = H.tivaServiceIdPrefix ++ toString i := by
  by_cases hi : ∃ i < H.maxInterlakeSystemSize, k = H.tivaServiceIdPrefix ++ toString i
  · exact .inr hi
  · rw [addressTable, fillAddressMap,
      find_addInterlakeEndpoints_of_ne H _ fun i hi' he => hi ⟨i, hi', he.symm⟩] at h
    simp only [StrMap.find_assign] at h
    left
    split_ifs at h <;> simp_all [StrMap.find]

theorem addressTable_find_tivaTcp (H : Header) :
    (addressTable H).find "TIVA_TCP" = some H.tivaTcpIpAddress := by
  rw [addressTable, fillAddressMap,
    find_addInterlakeEndpoints_of_ne H _ fun i _ => interlake_key_ne_tivaTcp H i]
  simp

theorem addressTable_find_tivaRs485 (H : Header)
    (hrs : ∀ i < H.maxInterlakeSystemSize, H.tivaServiceIdPrefix ++ toString i ≠ "TIVA_RS485") :
    (addressTable H).find "TIVA_RS485" = some H.tivaRs485IpAddress := by
  rw [addressTable, fillAddressMap, find_addInterlakeEndpoints_of_ne H _ hrs]
  simp

theorem takeWhile_append_of_mem {l₁ : List Char} (h : '_' ∈ l₁) (l₂ : List Char) :
    (l₁ ++ l₂).takeWhile (· ≠ '_') = l₁.takeWhile (· ≠ '_') := by
  induction l₁ with
  | nil => simp at h
  | cons c l ih =>
    by_cases hc : c = '_'
    · simp [hc]
    · have hp : decide (c ≠ '_') = true := by simpa using hc
      simp only [List.cons_append, List.takeWhile_cons, hp, if_true,
        ih (by simpa [Ne.symm hc] using h)]

/-- A prefix with a "_" fixes the base name of every key it starts. -/
theorem baseName_append {p : String} (hp : '_' ∈ p.toList) (x : String) :
    baseName (p ++ x) = baseName p :=
  congrArg String.mk (takeWhile_append_of_mem hp x.toList)

/-- **A service's address and port agree**, for a header whose interlake prefix has a "_"
before which it reads "TIVA", and whose ports are not 0: a service that resolves to a
valid address has a valid port under its base name. -/
theorem serviceAddress_valid_port (H : Header) (hssh : H.sshTcpPort ≠ 0)
    (hgw : H.gwTcpPort ≠ 0) (htiva : H.tivaTcpPort ≠ 0) (hsep : '_' ∈ H.tivaServiceIdPrefix.toList)
    (hbase : baseName H.tivaServiceIdPrefix = "TIVA") (operstate : Option String) (service : String)
    (h : isValidAddress (serviceAddress H operstate service) = true) :
    isValidPort (servicePort H (baseName service)).toNat = true := by
  have hkey : baseName service ∈ ["SSH", "GW", "TIVA"] := by
    by_cases ht : service = "TIVA"
    · subst ht; decide
    · obtain ⟨a, ha⟩ : ∃ a, (addressTable H).find service = some a := by
        rw [serviceAddress, appendPostfixToService, if_pos ht] at h
        cases hf : (addressTable H).find service with
        | none => rw [hf] at h; exact absurd h (by decide)
        | some a => exact ⟨a, rfl⟩
      rcases addressTable_keys H ha with hk | ⟨i, -, rfl⟩
      · simp only [List.mem_cons, List.not_mem_nil, or_false] at hk
        rcases hk with rfl | rfl | rfl | rfl <;> decide
      · simp [baseName_append hsep, hbase]
  simp only [List.mem_cons, List.not_mem_nil, or_false] at hkey
  rw [isValidPort_toNat]
  rcases hkey with hk | hk | hk <;> simpa [servicePort, portTable, hk]

theorem serviceAddress_valid_port_sample :
    isValidPort (servicePort sampleHeader (baseName "TIVA_1")).toNat = true :=
  serviceAddress_valid_port sampleHeader (by decide) (by decide) (by decide) (by decide) (by decide)
    none "TIVA_1" (by decide)

/-- Without a "_" in the prefix, an interlake key has no port: "TIVA0" resolves to the
master's address and to port 0. -/
theorem interlake_key_without_port :
    ∃ H : Header, isValidAddress (serviceAddress H none "TIVA0") = true ∧
      servicePort H (baseName "TIVA0") = 0 :=
  ⟨{ sampleHeader with tivaServiceIdPrefix := "TIVA" }, by decide, by decide⟩

/-- **"TIVA" over a link that is up** resolves to the TIVA_TCP address, whatever the
header. -/
theorem serviceAddress_tiva_up (H : Header) {operstate : Option String}
    (hup : firstLine operstate = some "up") :
    serviceAddress H operstate "TIVA" = H.tivaTcpIpAddress := by
  have : appendPostfixToService operstate "TIVA" = "TIVA_TCP" := by
    simp [appendPostfixToService, hup]
  rw [serviceAddress, this, addressTable_find_tivaTcp]
  rfl

theorem serviceAddress_tiva_up_sample :
    serviceAddress sampleHeader (some "up\n") "TIVA" = sampleHeader.tivaTcpIpAddress :=
  serviceAddress_tiva_up sampleHeader (by decide)

/-- **"TIVA" follows the link state**: the TIVA_TCP address when the first line of the
link-state file is "up", the TIVA_RS485 address otherwise, for a header whose interlake
keys leave "TIVA_RS485" alone. -/
theorem serviceAddress_tiva (H : Header)
    (hrs : ∀ i < H.maxInterlakeSystemSize, H.tivaServiceIdPrefix ++ toString i ≠ "TIVA_RS485")
    (operstate : Option String) :
    serviceAddress H operstate "TIVA" =
      if firstLine operstate = some "up" then H.tivaTcpIpAddress else H.tivaRs485IpAddress := by
  by_cases hup : firstLine operstate = some "up"
  · have : appendPostfixToService operstate "TIVA" = "TIVA_TCP" := by
      simp [appendPostfixToService, hup]
    rw [serviceAddress, this, addressTable_find_tivaTcp, if_pos hup]
    rfl
  · have : appendPostfixToService operstate "TIVA" = "TIVA_RS485" := by
      simp [appendPostfixToService, hup]
    rw [serviceAddress, this, addressTable_find_tivaRs485 H hrs, if_neg hup]
    rfl

theorem serviceAddress_tiva_sample :
    serviceAddress sampleHeader (some "down") "TIVA" = sampleHeader.tivaRs485IpAddress :=
  (serviceAddress_tiva sampleHeader (by decide) (some "down")).trans (by decide)

/-- An interlake key can take the place of "TIVA_RS485": with the prefix "TIVA_RS48" and
six systems, "TIVA" over a link that is down resolves to the sixth system. -/
theorem interlake_key_overwrites_tivaRs485 :
    ∃ H : Header, serviceAddress H none "TIVA" = "169.254.0.11" ∧
      H.tivaRs485IpAddress = "169.254.0.5" :=
  ⟨{ sampleHeader with tivaServiceIdPrefix := "TIVA_RS48", maxInterlakeSystemSize := 6 },
    by decide, rfl⟩

end SecureTunneling
