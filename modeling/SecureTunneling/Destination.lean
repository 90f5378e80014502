import SecureTunneling.Feature

/-!
# Where sessions go

The handler connects a context only after its address passed `IsValidAddress` and its
port `IsValidPort`, both resolved through the header's tables. The static context of the
configuration is the one exception: `LoadFromConfig` checks neither.

* `checkFields_destination`: a request the checks let through goes to an address of the
  address table that `IsValidAddress` accepts, on a port of the port table that is not 0
  (`Destination`).
* `alive_destination` (every execution): **every context the feature connects or
  registers, other than the configured one, has such a destination**, in any interleaving
  of handlers, close callbacks and `stop()`, up to the first undefined behaviour.
* `getEndpoint_injective`: with no endpoint configured, distinct regions with no NUL get
  distinct proxy hosts; the host with ".cn" never reads as one without it
  (`host_ne_cn_host`).
-/

namespace SecureTunneling

/-- A destination the handler lets a session go to: an address of the header's address
table that `IsValidAddress` accepts, and a port of its port table that is not 0. -/
structure Destination (H : Header) (address : String) (port : UInt16) : Prop where
  valid_address : isValidAddress address = true
  port_ne_zero : port ≠ 0
  address_mem : ∃ key, (addressTable H).find key = some address
  port_mem : ∃ key, (portTable H).find key = some port

/-- An entry `getD` returns that is not the default is an entry of the map. -/
theorem find_of_getD_ne {α : Type} {m : StrMap α} {k : String} {d : α}
    (h : (m.find k).getD d ≠ d) : m.find k = some ((m.find k).getD d) := by
  cases hf : m.find k with
  | none => rw [hf] at h; exact absurd rfl h
  | some a => rfl

/-- **What the checks let through has a destination.** -/
theorem checkFields_destination {H : Header} {operstate : Option String} {clientMode : String}
    {n : Notification} {q : Request} (h : checkFields H operstate clientMode n = .ok q) :
    Destination H q.address q.port := by
  obtain ⟨-, s, t, r, -, -, -, -, -, ha, hp, rfl⟩ := (checkFields_ok_iff H operstate clientMode n q).1 h
  have hp0 := (isValidPort_toNat _).1 hp
  refine ⟨ha, hp0, ⟨_, find_of_getD_ne fun he => ?_⟩, ⟨_, find_of_getD_ne hp0⟩⟩
  rw [serviceAddress, he] at ha
  exact absurd ha (by decide)

theorem scanNotification_destination {E : Env} {operstate : Option String} {R : List Context}
    {response : Option Notification} {ioErr : ℤ} {q : Request}
    (h : scanNotification E operstate R response ioErr = some (.ok q)) :
    Destination E.header q.address q.port := by
  rcases response with _ | ⟨_ | mode, services, token, region⟩
  all_goals simp only [scanNotification, checkNotification] at h
  · cases h
  · split_ifs at h <;> cases h
  · split_ifs at h
    · cases h
    · cases h
    · exact checkFields_destination (Option.some.inj h)

/-- The destination a handler has resolved, once its checks have passed. -/
def Handler.destination : Handler → String × UInt16
  | .resolved _ q => (q.address, q.port)
  | .connecting _ c => (c.address, c.port)

/-- The destinations of a run: every context registered, other than the configured one,
and every handler in flight have a destination. -/
structure Sys.Destined (H : Header) (cfg : Config) (s : Sys) : Prop where
  contexts : ∀ c ∈ s.contexts, c ∈ loadFromConfig cfg 1 ∨ Destination H c.address c.port
  handlers : ∀ h ∈ s.handlers, Destination H h.destination.1 h.destination.2

variable {E : Env} {cfg : Config} {serialized : Bool}

theorem Sys.start_destined (H : Header) (cfg : Config) : (Sys.start cfg).Destined H cfg :=
  ⟨fun _ hc => .inl hc, fun _ hh => absurd hh (List.not_mem_nil _)⟩

/-- **Each step keeps every destination valid**, unless it is undefined. -/
theorem Step.destined {s s' : Sys} (h : Step E cfg serialized s s') (hu : s'.undefined = false)
    (hw : s.WF) (hd : s.Destined E.header cfg) : s'.Destined E.header cfg := by
  cases h with
  | scan operstate n ioErr q _ _ hs =>
    refine ⟨hd.contexts, fun h hh => ?_⟩
    rcases List.mem_append.1 hh with hh | hh
    · exact hd.handlers h hh
    · rw [List.mem_singleton.1 hh]
      exact scanNotification_destination hs
  | scanUndefined => simp at hu
  | connect n q hmem =>
    refine ⟨hd.contexts, fun h hh => ?_⟩
    rcases List.mem_append.1 hh with hh | hh
    · exact hd.handlers h (List.mem_of_mem_erase hh)
    · rw [List.mem_singleton.1 hh]
      exact hd.handlers (.resolved n q) hmem
  | finish n c connected hmem =>
    refine ⟨fun d hdm => ?_, fun h hh => hd.handlers h (List.mem_of_mem_erase hh)⟩
    cases connected
    · exact hd.contexts d hdm
    · rcases List.mem_append.1 hdm with hdm | hdm
      · exact hd.contexts d hdm
      · rw [List.mem_singleton.1 hdm]
        exact .inr (hd.handlers _ hmem)
  | shutdown c R _ hrem =>
    obtain ⟨-, rfl⟩ := hw.shutdown hrem
    exact ⟨fun d hdm => hd.contexts d (List.mem_of_mem_filter hdm), hd.handlers⟩
  | shutdownUndefined => simp at hu
  | stopFeature => exact ⟨hd.contexts, hd.handlers⟩

/-- **Every context the feature connects or registers has a destination the handler
checked**, other than the configured one, in every run that has had no undefined
behaviour: no session goes to an address `IsValidAddress` rejects or to port 0. -/
theorem alive_destination {s : Sys} (h : Reachable E cfg serialized s) (hu : s.undefined = false) :
    ∀ c ∈ s.alive, c ∈ loadFromConfig cfg 1 ∨ Destination E.header c.address c.port := by
  suffices hd : s.Destined E.header cfg by
    intro c hc
    rcases List.mem_append.1 hc with hc | hc
    · exact hd.contexts c hc
    · obtain ⟨h, hh, hc⟩ := List.mem_filterMap.1 hc
      cases h with
      | resolved => cases hc
      | connecting n c' =>
        cases hc
        exact .inr (hd.handlers _ hh)
  induction h with
  | refl => exact Sys.start_destined _ cfg
  | tail hr hstep ih =>
    have hu' := hstep.defined_of hu
    exact hstep.destined hu (Reachable.wf hr hu') (ih hu')

theorem alive_destination_sample :
    ∃ s, (Reachable sampleEnv sampleConfig false s ∧ s.undefined = false) ∧ s.alive ≠ [] ∧
      ∀ c ∈ s.alive, c ∈ loadFromConfig sampleConfig 1 ∨
        Destination sampleEnv.header c.address c.port := by
  obtain ⟨s, hs, hu, hc, -, -⟩ := reregistered_run
  exact ⟨s, ⟨hs, hu⟩, by simp [Sys.alive, hc], alive_destination hs hu⟩

/-! ## The proxy endpoint -/

/-- The proxy host of a region with no NUL, with ".cn" for a region that starts with "cn-". -/
theorem getEndpoint_data {region : String} (h : NulFree region) :
    (getEndpoint none region).data = "data.tunneling.iot.".data ++ (region.data ++
      (".amazonaws.com".data ++ if region.take 3 = "cn-" then ".cn".data else [])) := by
  simp only [getEndpoint, defaultProxyEndpointHost, cStr_of_nulFree h]
  split <;> simp

/-- A host with ".cn" never reads as a host without it. -/
theorem host_ne_cn_host {r₁ r₂ : List Char} :
    r₁ ++ (".amazonaws.com".data ++ ".cn".data) ≠ r₂ ++ (".amazonaws.com".data ++ []) := by
  intro h
  rcases List.append_eq_append_iff.1 h with ⟨a, rfl, ha⟩ | ⟨c, rfl, hc⟩
  · have hlen : a.length = 3 := by simpa using congrArg List.length ha
    have := congrArg (List.drop 3) ha
    rw [List.drop_left' hlen] at this
    exact absurd this (by decide)
  · have := congrArg List.length hc
    simp at this

/-- **Distinct regions, distinct proxy hosts**: with no endpoint configured, the host
`GetEndpoint` gives determines the region, for regions with no NUL. -/
theorem getEndpoint_injective {r₁ r₂ : String} (h₁ : NulFree r₁) (h₂ : NulFree r₂)
    (h : getEndpoint none r₁ = getEndpoint none r₂) : r₁ = r₂ := by
  have h' := List.append_cancel_left ((getEndpoint_data h₁).symm.trans
    ((congrArg String.data h).trans (getEndpoint_data h₂)))
  apply String.ext
  split_ifs at h'
  · exact List.append_cancel_right h'
  · exact absurd h' host_ne_cn_host
  · exact absurd h'.symm host_ne_cn_host
  · exact List.append_cancel_right h'

theorem getEndpoint_injective_sample :
    (NulFree "cn-north-1" ∧ NulFree "cn-north-1" ∧
      getEndpoint none "cn-north-1" = getEndpoint none "cn-north-1") ∧ "cn-north-1" = "cn-north-1" :=
  ⟨⟨by decide, by decide, rfl⟩, getEndpoint_injective (by decide) (by decide) rfl⟩

/-- Without the NUL hypothesis it fails: `c_str()` cuts the region at its first NUL. -/
example : getEndpoint none "us-east-1\x00a" = getEndpoint none "us-east-1\x00b" := by decide

end SecureTunneling
