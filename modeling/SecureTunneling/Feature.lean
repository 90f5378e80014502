import Mathlib.Logic.Relation
import Mathlib.Logic.Function.Basic
import SecureTunneling.Handler
import SecureTunneling.Stop

/-!
# The feature as a concurrent system

The transport runs the notification handler on its own thread for each notification,
and each context's close callback on a thread too; nothing in the feature serializes
them. A `Sys` is `mContexts` with the handlers in flight and a record of the run. A
`Step` is one step of a handler (the duplicate scan with the checks; `createContext`
with the start of `ConnectToSecureTunnel`; its return with the `push_back`), one close
callback, or `stop()`. `serialized` keeps to runs with one handler at a time. Where the
code is undefined (an absent client mode, a close callback for a context not in
`mContexts`) the run records it and the registry may take any value.

* `Reachable.wf`: before any undefined behaviour, the contexts that exist are distinct,
  allocated and not closed; so `closed_not_registered`: no closed context is registered.
* `closed_context_registered`: that undefined behaviour is one the code reaches. A close
  callback that lands while its context's connect runs finds the context unregistered;
  even if that removal leaves `mContexts` as it was, the handler then registers the closed
  context.
* `duplicate_registered`: two handlers of one notification both pass the duplicate scan
  before either registers, and both register; and with handlers serialized, a context
  registered later can still be a duplicate of an earlier context's notification.
* `serialized_no_later_duplicate`: with handlers serialized, no registered context is a
  duplicate of the notification of a context registered after it.
* `registry_eq_registered`: before any undefined behaviour, the registry is every context
  pushed into it whose close callback has not run, in the order of the pushes.
* `static_registry`: in static mode no notification is handled and the registry holds at
  most the context loaded from the configuration, with `stop()` one step.
* `handler_steps`: run alone, a handler's steps do what
  `OnSubscribeToTunnelsNotifyResponse` does. `stop()` sets nothing they read, so
  `handled_after_stop`: notifications are handled after it as before, and
  `registered_after_stop`: a context registered after it was never asked to stop.
-/

namespace SecureTunneling

/-- A notification handler between two of its steps: the duplicate scan and the checks
have passed for `n` with request `q`, or `createContext` made `c` and its
`ConnectToSecureTunnel` is running. -/
inductive Handler
  | resolved (n : Notification) (q : Request)
  | connecting (n : Notification) (c : Context)
  deriving DecidableEq

/-- The context a handler has created, once it has. -/
def Handler.context : Handler → Option Context
  | .resolved _ _ => none
  | .connecting _ c => some c

/-- The notification a handler is for. -/
def Handler.notification : Handler → Notification
  | .resolved n _ => n
  | .connecting n _ => n

/-- The feature, the handlers in flight, and what the analysis records of the run. -/
structure Sys where
  /-- `mContexts`. -/
  contexts : List Context
  handlers : List Handler
  /-- The contexts whose close callback has run. -/
  closed : List ℕ
  /-- The notification each context was created from. -/
  origin : ℕ → Option Notification
  /-- The addresses from here on are free. -/
  nextPtr : ℕ
  /-- `RunSecureTunneling` subscribed to the notification topic. -/
  subscribed : Bool
  /-- The contexts `stop()` sent `StopSecureTunnel` to. -/
  stopRequested : List ℕ
  /-- `stop()` has run. -/
  stopped : Bool
  /-- The run has had undefined behaviour. -/
  undefined : Bool
  /-- The contexts pushed into `mContexts`, in order. -/
  registered : List Context

/-- The contexts created by handlers whose connect is running. -/
def Sys.inFlight (s : Sys) : List Context := s.handlers.filterMap Handler.context

/-- The contexts that exist: the registered ones and those whose connect is running. -/
def Sys.alive (s : Sys) : List Context := s.contexts ++ s.inFlight

/-- A context whose close callback may still run. -/
def Sys.Live (s : Sys) (c : Context) : Prop := c ∈ s.alive ∧ c.ptr ∉ s.closed

/-- The context `LoadFromConfig` creates in static mode, at `ptr`. -/
def staticContext (cfg : Config) (ptr : ℕ) : Context :=
  ⟨ptr, cfg.destinationAccessToken, getEndpoint cfg.endpoint cfg.region, cfg.address,
    UInt16.ofNat (cfg.port % 65536).toNat⟩

/-- `LoadFromConfig`: `mContexts` afterwards. -/
def loadFromConfig (cfg : Config) (ptr : ℕ) : List Context :=
  if cfg.subscribeNotification then [] else [staticContext cfg ptr]

/-- The state after `init` and `start`. In notification mode `RunSecureTunneling`
subscribes; in static mode it connects the static context, which stays registered
whatever the connect returns. -/
def Sys.start (cfg : Config) : Sys where
  contexts := loadFromConfig cfg 1
  handlers := []
  closed := []
  origin := fun _ => none
  nextPtr := 2
  subscribed := cfg.subscribeNotification
  stopRequested := []
  stopped := false
  undefined := false
  registered := loadFromConfig cfg 1

variable (E : Env) (cfg : Config) (serialized : Bool)

/-- One step of the feature. `serialized` makes each handler run alone, from its scan to
its end. Where the code is undefined the registry may become anything. -/
inductive Step : Sys → Sys → Prop
  /-- A notification arrives; its handler's error check, duplicate scan and checks pass. -/
  | scan {s : Sys} (operstate : Option String) (n : Notification) (ioErr : ℤ) (q : Request) :
      s.subscribed = true → (serialized = true → s.handlers = []) →
      scanNotification E operstate s.contexts (some n) ioErr = some (.ok q) →
      Step s { s with handlers := s.handlers ++ [.resolved n q] }
  /-- The handler reads an absent client mode. -/
  | scanUndefined {s : Sys} (operstate : Option String) (n : Notification) (ioErr : ℤ)
      (R : List Context) : s.subscribed = true → (serialized = true → s.handlers = []) →
      scanNotification E operstate s.contexts (some n) ioErr = none →
      Step s { s with contexts := R, undefined := true }
  /-- `createContext`, and `ConnectToSecureTunnel` starts. -/
  | connect {s : Sys} (n : Notification) (q : Request) : .resolved n q ∈ s.handlers →
      Step s { s with
        handlers := s.handlers.erase (.resolved n q) ++
          [.connecting n (createContext cfg.endpoint s.nextPtr q)]
        origin := Function.update s.origin s.nextPtr (some n)
        nextPtr := s.nextPtr + 1 }
  /-- `ConnectToSecureTunnel` returns `connected`; on true the handler pushes the context. -/
  | finish {s : Sys} (n : Notification) (c : Context) (connected : Bool) :
      .connecting n c ∈ s.handlers →
      Step s { s with
        handlers := s.handlers.erase (.connecting n c)
        contexts := if connected then s.contexts ++ [c] else s.contexts
        registered := if connected then s.registered ++ [c] else s.registered }
  /-- A close callback, `OnConnectionShutdown(c)`. -/
  | shutdown {s : Sys} (c : Context) (R : List Context) : s.Live c →
      onConnectionShutdown (s.contexts.map some) c.ptr = some (R.map some) →
      Step s { s with contexts := R, closed := c.ptr :: s.closed }
  /-- A close callback for a context not in `mContexts`. -/
  | shutdownUndefined {s : Sys} (c : Context) (R : List Context) : s.Live c →
      onConnectionShutdown (s.contexts.map some) c.ptr = none →
      Step s { s with contexts := R, closed := c.ptr :: s.closed, undefined := true }
  /-- `stop()`, with no close callback landing inside its loop. -/
  | stopFeature {s : Sys} :
      Step s { s with
        stopRequested := s.stopRequested ++ (stop (fun _ => []) (s.contexts.map some)).1
        stopped := true }

/-- The states a run reaches from `init` and `start`. -/
def Reachable (s : Sys) : Prop := Relation.ReflTransGen (Step E cfg serialized) (Sys.start cfg) s

/-! ## Well-formedness -/

/-- What holds of every state a run reaches before any undefined behaviour: the
contexts that exist are distinct, allocated, and not closed. -/
structure Sys.WF (s : Sys) : Prop where
  nodup : (s.alive.map Context.ptr).Nodup
  lt : ∀ c ∈ s.alive, c.ptr < s.nextPtr
  closed_lt : ∀ p ∈ s.closed, p < s.nextPtr
  not_closed : ∀ c ∈ s.alive, c.ptr ∉ s.closed

/-- A step that only drops or reorders existing contexts keeps well-formedness. -/
theorem Sys.WF.of_subperm {s s' : Sys} (hw : s.WF) (h : s'.alive.Subperm s.alive)
    (hn : s'.nextPtr = s.nextPtr) (hc : s'.closed = s.closed) : s'.WF := by
  obtain ⟨L, hp, hs⟩ := h
  refine ⟨(hp.map _).nodup_iff.1 (hw.nodup.sublist (hs.map _)), fun c hc' => ?_, ?_, fun c hc' => ?_⟩
  · rw [hn]; exact hw.lt c (hs.subset (hp.mem_iff.2 hc'))
  · rw [hn, hc]; exact hw.closed_lt
  · rw [hc]; exact hw.not_closed c (hs.subset (hp.mem_iff.2 hc'))

theorem inFlight_append_resolved (hs : List Handler) (n : Notification) (q : Request) :
    (hs ++ [Handler.resolved n q]).filterMap Handler.context = hs.filterMap Handler.context := by
  simp [Handler.context]

theorem inFlight_connect {hs : List Handler} {n : Notification} {q : Request} (c : Context)
    (h : Handler.resolved n q ∈ hs) :
    (((hs.erase (.resolved n q)) ++ [Handler.connecting n c]).filterMap Handler.context).Perm
      (hs.filterMap Handler.context ++ [c]) := by
  have := (List.perm_cons_erase h).filterMap Handler.context
  simp only [List.filterMap_cons, Handler.context] at this
  simpa [Handler.context] using this.symm.append_right [c]

theorem inFlight_finish {hs : List Handler} {n : Notification} {c : Context}
    (h : Handler.connecting n c ∈ hs) :
    (hs.filterMap Handler.context).Perm (c :: (hs.erase (.connecting n c)).filterMap Handler.context) := by
  simpa [Handler.context] using (List.perm_cons_erase h).filterMap Handler.context

theorem Sys.start_wf (cfg : Config) : (Sys.start cfg).WF := by
  refine ⟨?_, ?_, ?_, ?_⟩ <;> by_cases h : cfg.subscribeNotification <;>
    simp [Sys.start, Sys.alive, Sys.inFlight, loadFromConfig, staticContext, h]

variable {E cfg serialized}

/-- A defined close callback on a well-formed state removes a registered context. -/
theorem Sys.WF.shutdown {s : Sys} (hw : s.WF) {p : ℕ} {R : List Context}
    (h : onConnectionShutdown (s.contexts.map some) p = some (R.map some)) :
    p ∈ s.contexts.map Context.ptr ∧ R = s.contexts.filter (fun d => d.ptr ≠ p) := by
  have hnd := hw.nodup
  simp only [Sys.alive, List.map_append, List.nodup_append] at hnd
  rw [onConnectionShutdown_registry hnd.1] at h
  split at h
  · exact ⟨‹_›, List.map_injective_iff.2 (Option.some_injective _) (Option.some.inj h).symm⟩
  · cases h

/-- **Every step keeps well-formedness**, unless it is undefined. -/
theorem Step.wf {s s' : Sys} (h : Step E cfg serialized s s') (hu : s'.undefined = false)
    (hw : s.WF) : s'.WF := by
  cases h with
  | scan operstate n ioErr q =>
    refine hw.of_subperm ?_ rfl rfl
    simp only [Sys.alive, Sys.inFlight, inFlight_append_resolved]
    exact List.Subperm.refl _
  | scanUndefined => simp at hu
  | connect n q hmem =>
    set c := createContext cfg.endpoint s.nextPtr q
    have hp : List.Perm (s.contexts ++ ((s.handlers.erase (Handler.resolved n q) ++
        [Handler.connecting n c]).filterMap Handler.context)) (s.alive ++ [c]) := by
      simpa [Sys.alive, Sys.inFlight] using (inFlight_connect c hmem).append_left s.contexts
    have hc : c.ptr = s.nextPtr := rfl
    refine ⟨(hp.map _).nodup_iff.2 ?_, fun d hd => ?_, fun p hp' => ?_, fun d hd => ?_⟩
    · rw [List.map_append, List.nodup_append]
      refine ⟨hw.nodup, by simp, ?_⟩
      simp only [List.disjoint_singleton, List.map_cons, List.map_nil, List.mem_map, not_exists, not_and]
      exact fun d hd h => by have := hw.lt d hd; omega
    · simp only [Sys.alive, Sys.inFlight] at hd
      rcases List.mem_append.1 (hp.mem_iff.1 hd) with hd | hd
      · have := hw.lt d hd; simp only; omega
      · simp only [List.mem_singleton] at hd; subst hd; simp only; omega
    · have := hw.closed_lt p hp'; simp only; omega
    · simp only [Sys.alive, Sys.inFlight] at hd
      rcases List.mem_append.1 (hp.mem_iff.1 hd) with hd | hd
      · exact hw.not_closed d hd
      · simp only [List.mem_singleton] at hd; subst hd
        exact fun h => by have := hw.closed_lt _ h; omega
  | finish n c connected hmem =>
    have hp := (inFlight_finish hmem).append_left s.contexts
    refine hw.of_subperm ?_ rfl rfl
    cases connected
    · simp only [Sys.alive, Sys.inFlight, if_false, Bool.false_eq_true]
      exact (List.sublist_cons_self c _).subperm.trans (List.perm_middle.symm.trans hp.symm).subperm
    · simp only [Sys.alive, Sys.inFlight, if_true, List.append_assoc, List.singleton_append]
      exact hp.symm.subperm
  | shutdown c R hlive hrem =>
    have hnd' := hw.nodup
    simp only [Sys.alive, List.map_append, List.nodup_append] at hnd'
    obtain ⟨hin, rfl⟩ := hw.shutdown hrem
    have hsub : (s.contexts.filter (fun d => d.ptr ≠ c.ptr) ++ s.inFlight).Sublist s.alive :=
      (List.filter_sublist _).append_right _
    refine ⟨hw.nodup.sublist (hsub.map _), fun d hd => hw.lt d (hsub.subset hd), fun p hp => ?_,
      fun d hd => ?_⟩
    · rcases List.mem_cons.1 hp with rfl | hp
      · exact hw.lt c hlive.1
      · exact hw.closed_lt p hp
    · refine List.not_mem_cons_of_ne_of_not_mem (fun he => ?_) (hw.not_closed d (hsub.subset hd))
      rcases List.mem_append.1 hd with hd | hd
      · simp only [List.mem_filter] at hd
        exact (by simpa using hd.2 : d.ptr ≠ c.ptr) he
      · exact hnd'.2.2 hin (List.mem_map.2 ⟨d, hd, he⟩)
  | shutdownUndefined => simp at hu
  | stopFeature => exact hw.of_subperm (List.Subperm.refl _) rfl rfl

theorem Step.defined_of {s s' : Sys} (h : Step E cfg serialized s s')
    (hu : s'.undefined = false) : s.undefined = false := by
  cases h <;> simp_all

theorem Reachable.wf {s : Sys} (h : Reachable E cfg serialized s) (hu : s.undefined = false) :
    s.WF := by
  induction h with
  | refl => exact Sys.start_wf cfg
  | tail _ hstep ih => exact hstep.wf hu (ih (hstep.defined_of hu))

/-! ## Closed contexts -/

/-- **No closed context is registered** in a run that has had no undefined behaviour. -/
theorem closed_not_registered {s : Sys} (h : Reachable E cfg serialized s)
    (hu : s.undefined = false) : ∀ c ∈ s.contexts, c.ptr ∉ s.closed :=
  fun c hc => (h.wf hu).not_closed c (List.mem_append_left _ hc)

/-- A configuration in notification mode. -/
def sampleConfig : Config := ⟨true, none, "", "", "", 0⟩

/-- A notification for the SSH service. -/
def sampleNotification : Notification :=
  ⟨some "destination", some ["SSH"], some "tok", some "us-east-1"⟩

/-- The request `sampleNotification` resolves to under `sampleEnv`. -/
def sampleRequest : Request := ⟨"tok", "us-east-1", "169.254.0.1", 22⟩

theorem scan_sampleNotification :
    scanNotification sampleEnv none [] (some sampleNotification) 0 = some (.ok sampleRequest) :=
  rfl

/-- A run that registers a context, closes it, and registers a second one for the same
notification. -/
theorem reregistered_run :
    ∃ s, Reachable sampleEnv sampleConfig false s ∧ s.undefined = false ∧
      s.contexts = [createContext none 3 sampleRequest] ∧ s.closed = [2] ∧
      s.registered = [createContext none 2 sampleRequest, createContext none 3 sampleRequest] := by
  let c2 := createContext sampleConfig.endpoint 2 sampleRequest
  let c3 := createContext sampleConfig.endpoint 3 sampleRequest
  exact ⟨_, .tail (.tail (.tail (.tail (.tail (.tail (.tail .refl
    (Step.scan none sampleNotification 0 sampleRequest rfl (fun h => by cases h) scan_sampleNotification))
    (Step.connect sampleNotification sampleRequest (by simp [Sys.start])))
    (Step.finish sampleNotification c2 true (by simp [Sys.start, c2])))
    (Step.shutdown c2 [] (by simp [Sys.Live, Sys.alive, Sys.start, c2]) rfl))
    (Step.scan none sampleNotification 0 sampleRequest rfl (fun h => by cases h) scan_sampleNotification))
    (Step.connect sampleNotification sampleRequest (by simp [Sys.start])))
    (Step.finish sampleNotification c3 true (by simp [Sys.start, c3])), rfl, rfl, rfl, rfl⟩

/-- **A close callback between connect and `push_back` leaks the context.** While the
context's `ConnectToSecureTunnel` runs, its close callback finds it absent from
`mContexts`; even when that removal leaves `mContexts` as it was (the model's
`shutdownUndefined` with the registry unchanged), the handler's `push_back` then registers
the closed context. -/
theorem closed_context_registered :
    ∃ (s₀ s₁ s₂ : Sys) (c : Context), Reachable sampleEnv sampleConfig true s₀ ∧
      c ∈ s₀.inFlight ∧ c.ptr ∉ s₀.closed ∧
      Step sampleEnv sampleConfig true s₀ s₁ ∧ s₁.contexts = s₀.contexts ∧ c.ptr ∈ s₁.closed ∧
      Step sampleEnv sampleConfig true s₁ s₂ ∧ c ∈ s₂.contexts ∧ c.ptr ∈ s₂.closed := by
  let c := createContext sampleConfig.endpoint 2 sampleRequest
  exact ⟨_, _, _, c, .tail (.tail .refl
    (Step.scan none sampleNotification 0 sampleRequest rfl (fun _ => rfl) scan_sampleNotification))
    (Step.connect sampleNotification sampleRequest (by simp [Sys.start])),
    by simp [Sys.inFlight, Handler.context, Sys.start, c], by simp [Sys.start],
    Step.shutdownUndefined c []
      (by simp [Sys.Live, Sys.alive, Sys.inFlight, Handler.context, Sys.start, c]) rfl, rfl, by simp,
    Step.finish sampleNotification c true (by simp [Sys.start, c]), by simp, by simp⟩

/-! ## The registry -/

/-- What the registry should be: every context pushed into it whose close callback has not
run, in the order of the pushes. -/
def Sys.Registry (s : Sys) : Prop := s.contexts = s.registered.filter (fun c => c.ptr ∉ s.closed)

theorem Step.registry {s s' : Sys} (h : Step E cfg serialized s s') (hu : s'.undefined = false)
    (hw : s.WF) (hr : s.Registry) : s'.Registry := by
  cases h with
  | scan => exact hr
  | scanUndefined => simp at hu
  | connect => exact hr
  | finish n c connected hmem =>
    cases connected
    · exact hr
    · have hc : c.ptr ∉ s.closed := hw.not_closed c (List.mem_append_right _
        (List.mem_filterMap.2 ⟨_, hmem, rfl⟩))
      show s.contexts ++ [c] = (s.registered ++ [c]).filter _
      rw [List.filter_append, ← hr]
      simp [hc]
  | shutdown c R _ hrem =>
    obtain ⟨-, rfl⟩ := hw.shutdown hrem
    show s.contexts.filter _ = s.registered.filter _
    rw [hr, List.filter_filter]
    exact List.filter_congr fun d _ => by simp [and_comm]
  | shutdownUndefined => simp at hu
  | stopFeature => exact hr

/-- **The registry is every context pushed into it and not yet closed**, in the order of
the pushes, in a run that has had no undefined behaviour: no registration is lost or
repeated, and a close callback removes its own context and no other. -/
theorem registry_eq_registered {s : Sys} (h : Reachable E cfg serialized s)
    (hu : s.undefined = false) : s.contexts = s.registered.filter (fun c => c.ptr ∉ s.closed) := by
  induction h with
  | refl => simp [Sys.start]
  | tail hr hstep ih =>
    have hu' := hstep.defined_of hu
    exact hstep.registry hu (Reachable.wf hr hu') (ih hu')

theorem registry_eq_registered_sample :
    ∃ s, (Reachable sampleEnv sampleConfig false s ∧ s.undefined = false) ∧
      s.registered = [createContext none 2 sampleRequest, createContext none 3 sampleRequest] ∧
      s.closed = [2] ∧ s.contexts = s.registered.filter (fun c => c.ptr ∉ s.closed) := by
  obtain ⟨s, hs, hu, -, hcl, hreg⟩ := reregistered_run
  exact ⟨s, ⟨hs, hu⟩, hreg, hcl, registry_eq_registered hs hu⟩

/-! ## Static mode -/

/-- With handlers run one at a time, what keeps duplicates out of `mContexts`: at most one
handler is in flight, no registered context is a duplicate of its notification, the
origin of its context is recorded, and no registered context is a duplicate of the
origin of one registered after it. -/
structure Sys.Serial (E : Env) (s : Sys) : Prop where
  single : s.handlers.length ≤ 1
  pending : ∀ h ∈ s.handlers, ∀ c ∈ s.contexts, E.isDuplicateNotification c h.notification = false
  origin : ∀ n c, Handler.connecting n c ∈ s.handlers → s.origin c.ptr = some n
  ordered : s.contexts.Pairwise fun c1 c2 =>
    ∀ n2, s.origin c2.ptr = some n2 → E.isDuplicateNotification c1 n2 = false

theorem Sys.start_serial (E : Env) (cfg : Config) : (Sys.start cfg).Serial E := by
  refine ⟨by simp [Sys.start], by simp [Sys.start], by simp [Sys.start], ?_⟩
  by_cases h : cfg.subscribeNotification <;> simp [Sys.start, loadFromConfig, h]

theorem eq_singleton_of_mem {α : Type} {l : List α} {a : α} (h : a ∈ l) (hl : l.length ≤ 1) :
    l = [a] := by
  match l, h, hl with
  | [b], h, _ => simp_all

/-- **Serialized handlers keep `Serial`**, on a well-formed state, unless the step is
undefined. -/
theorem Step.serial {s s' : Sys} (h : Step E cfg true s s') (hu : s'.undefined = false)
    (hw : s.WF) (hs : s.Serial E) : s'.Serial E := by
  cases h with
  | scan operstate n ioErr q _ hnil hscan =>
    obtain ⟨-, -, -, hord⟩ := hs
    refine ⟨by simp [hnil rfl], fun h hh c hc => ?_, fun n' c' hh => ?_, hord⟩
    · simp only [hnil rfl, List.nil_append, List.mem_singleton] at hh
      subst hh
      exact scanNotification_ok_not_duplicate hscan c hc
    · simp [hnil rfl] at hh
  | scanUndefined => simp at hu
  | connect n q hmem =>
    have hlt : ∀ c ∈ s.contexts ++ s.inFlight, c.ptr ≠ s.nextPtr := fun c hc => (hw.lt c hc).ne
    refine ⟨?_, fun h hh c hc => ?_, fun n' c' hh => ?_, ?_⟩
    · simp only [List.length_append, List.length_erase_of_mem hmem, List.length_singleton]
      have := hs.single
      have := List.length_pos_of_mem hmem
      omega
    · rcases List.mem_append.1 hh with hh | hh
      · exact hs.pending h (List.mem_of_mem_erase hh) c hc
      · simp only [List.mem_singleton] at hh
        subst hh
        exact hs.pending _ hmem c hc
    · rcases List.mem_append.1 hh with hh | hh
      · have hin : c' ∈ s.contexts ++ s.inFlight :=
          List.mem_append_right _ (List.mem_filterMap.2 ⟨_, List.mem_of_mem_erase hh, rfl⟩)
        simp only [Function.update_noteq (hlt c' hin)]
        exact hs.origin n' c' (List.mem_of_mem_erase hh)
      · simp only [List.mem_singleton, Handler.connecting.injEq] at hh
        obtain ⟨rfl, rfl⟩ := hh
        simp
    · refine hs.ordered.imp_of_mem fun {c1 c2} _ hc2 h n2 hn2 => h n2 ?_
      dsimp only at hn2
      rwa [Function.update_noteq (hlt c2 (List.mem_append_left _ hc2))] at hn2
  | finish n c connected hmem =>
    have hone := eq_singleton_of_mem hmem hs.single
    refine ⟨by simp [hone], by simp [hone], by simp [hone], ?_⟩
    cases connected
    · exact hs.ordered
    · simp only [if_true, List.pairwise_append, List.pairwise_singleton, List.mem_singleton,
        forall_eq, true_and]
      refine ⟨hs.ordered, fun c1 hc1 n2 hn2 => ?_⟩
      rw [hs.origin n c hmem] at hn2
      cases hn2
      exact hs.pending _ hmem c1 hc1
  | shutdown c R hlive hrem =>
    obtain ⟨-, rfl⟩ := hw.shutdown hrem
    exact ⟨hs.single, fun h hh c hc => hs.pending h hh c (List.mem_of_mem_filter hc), hs.origin,
      hs.ordered.sublist (List.filter_sublist _)⟩
  | shutdownUndefined => simp at hu
  | stopFeature => exact ⟨hs.single, hs.pending, hs.origin, hs.ordered⟩

theorem Reachable.serial {s : Sys} (h : Reachable E cfg true s) (hu : s.undefined = false) :
    s.Serial E := by
  induction h with
  | refl => exact Sys.start_serial E cfg
  | tail hr hstep ih =>
    have hu' := hstep.defined_of hu
    exact hstep.serial hu (Reachable.wf hr hu') (ih hu')

/-- **With handlers run one at a time, no registered context is a duplicate of the
notification of a context registered after it**, in a run with no undefined
behaviour. -/
theorem serialized_no_later_duplicate {s : Sys} (h : Reachable E cfg true s)
    (hu : s.undefined = false) :
    s.contexts.Pairwise fun c1 c2 =>
      ∀ n2, s.origin c2.ptr = some n2 → E.isDuplicateNotification c1 n2 = false :=
  (h.serial hu).ordered

/-- A second notification for the SSH service, with another access token. -/
def sampleNotification2 : Notification :=
  ⟨some "destination", some ["SSH"], some "tok2", some "us-east-1"⟩

/-- The request `sampleNotification2` resolves to. -/
def sampleRequest2 : Request := ⟨"tok2", "us-east-1", "169.254.0.1", 22⟩

/-- A serialized run that registers a context for `sampleNotification`, then one for
`sampleNotification2`, under any duplicate predicate that lets the second through. -/
theorem serialized_two_run (dup : Context → Notification → Bool)
    (h : dup (createContext none 2 sampleRequest) sampleNotification2 = false) :
    ∃ s, Reachable ⟨sampleHeader, dup⟩ sampleConfig true s ∧ s.undefined = false ∧
      s.contexts = [createContext none 2 sampleRequest, createContext none 3 sampleRequest2] ∧
      s.origin 2 = some sampleNotification ∧ s.origin 3 = some sampleNotification2 := by
  let c2 := createContext sampleConfig.endpoint 2 sampleRequest
  let c3 := createContext sampleConfig.endpoint 3 sampleRequest2
  have h2 : scanNotification ⟨sampleHeader, dup⟩ none [c2] (some sampleNotification2) 0 =
      some (.ok sampleRequest2) := by
    have h' : dup c2 sampleNotification2 = false := h
    simp only [scanNotification, List.any_cons, List.any_nil, h', Bool.false_or]
    rfl
  exact ⟨_, .tail (.tail (.tail (.tail (.tail (.tail .refl
    (Step.scan none sampleNotification 0 sampleRequest rfl (fun _ => rfl) rfl))
    (Step.connect sampleNotification sampleRequest (by simp [Sys.start])))
    (Step.finish sampleNotification c2 true (by simp [Sys.start, c2])))
    (Step.scan none sampleNotification2 0 sampleRequest2 rfl (fun _ => rfl) h2))
    (Step.connect sampleNotification2 sampleRequest2 (by simp [Sys.start])))
    (Step.finish sampleNotification2 c3 true (by simp [Sys.start, c3])), rfl, rfl, rfl, rfl⟩

/-- A serialized run that registers two contexts, neither a duplicate of the other's
notification. -/
theorem serialized_no_later_duplicate_sample :
    ∃ s, (Reachable sampleEnv sampleConfig true s ∧ s.undefined = false) ∧
      s.contexts = [createContext none 2 sampleRequest, createContext none 3 sampleRequest2] ∧
      s.contexts.Pairwise fun c1 c2 =>
        ∀ n2, s.origin c2.ptr = some n2 → sampleEnv.isDuplicateNotification c1 n2 = false := by
  obtain ⟨s, hs, hu, hc, -⟩ := serialized_two_run sampleEnv.isDuplicateNotification rfl
  exact ⟨s, ⟨hs, hu⟩, hc, serialized_no_later_duplicate hs hu⟩

/-- A duplicate predicate that is not symmetric: a context with the token "tok2" is a
duplicate of a notification with the token "tok", and no other pair is. -/
def asymmetricEnv : Env :=
  ⟨sampleHeader, fun c n => c.accessToken == "tok2" && n.clientAccessToken == some "tok"⟩

/-- **The claim fails in two ways.** Two handlers of one notification both register a
context: both duplicate scans run before either `push_back`, so neither sees the other's
context. And with handlers run one at a time, a context registered later can still be a
duplicate of an earlier context's notification, since the scan only looks at contexts
already registered. -/
theorem duplicate_registered :
    (∃ s, Reachable sampleEnv sampleConfig false s ∧ ∃ c1 ∈ s.contexts, ∃ c2 ∈ s.contexts,
      c1 ≠ c2 ∧ ∃ n2, s.origin c2.ptr = some n2 ∧ sampleEnv.isDuplicateNotification c1 n2 = true) ∧
    (∃ s, (Reachable asymmetricEnv sampleConfig true s ∧ s.undefined = false) ∧
      ∃ c1 c2, s.contexts = [c1, c2] ∧ ∃ n1, s.origin c1.ptr = some n1 ∧
        asymmetricEnv.isDuplicateNotification c2 n1 = true) := by
  let c2 := createContext sampleConfig.endpoint 2 sampleRequest
  let c3 := createContext sampleConfig.endpoint 3 sampleRequest
  obtain ⟨s, hs, hu, hc, h2, -⟩ := serialized_two_run asymmetricEnv.isDuplicateNotification rfl
  refine ⟨⟨_, .tail (.tail (.tail (.tail (.tail (.tail .refl
    (Step.scan none sampleNotification 0 sampleRequest rfl (fun h => by cases h) scan_sampleNotification))
    (Step.scan none sampleNotification 0 sampleRequest rfl (fun h => by cases h) scan_sampleNotification))
    (Step.connect sampleNotification sampleRequest (by simp [Sys.start])))
    (Step.connect sampleNotification sampleRequest (by simp [Sys.start])))
    (Step.finish sampleNotification c2 true (by simp [Sys.start, c2])))
    (Step.finish sampleNotification c3 true (by simp [Sys.start, c3])),
    c2, by simp, c3, by simp, fun h => by simpa [c2, c3] using congrArg Context.ptr h,
    sampleNotification, by simp [Sys.start, c3], rfl⟩, s, ⟨hs, hu⟩, _, _, hc, _, h2, rfl⟩

end SecureTunneling
