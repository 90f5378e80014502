import SecureTunneling.Shutdown

/-!
# `stop()` and the close callbacks that land during it

    for (auto &c : mContexts) c->StopSecureTunnel();

The range-`for` reads `begin()` and `end()` once. A close callback that runs during the
loop, inside `StopSecureTunnel` or on another thread, erases its context from the same
vector and shifts the later ones down, while the loop goes on to the next position and
stops only at the old end.

* `stop_of_no_callbacks`: when no callback lands during the loop, every context is asked
  to stop once, in registry order.
* `stop_sublist`: whatever callbacks land, the contexts asked to stop form a sublist of
  the registry, so none is asked twice.
* `stop_isOk_iff`: the loop is defined exactly when no callback lands during it; any
  callback leaves the vector shorter than the cached end.
* `stop_skips_shifted_context`: when the first context's callback runs inside its own
  `StopSecureTunnel`, the second context is never asked to stop and the loop
  dereferences a position past the vector's end.
-/

namespace SecureTunneling

/-- Why `stop()`'s loop has undefined behaviour. -/
inductive StopFault
  /-- A close callback for a context not in the vector (`OnConnectionShutdown`). -/
  | removal (p : ℕ)
  /-- The loop dereferences position `i` at or past the vector's current end. -/
  | pastEnd (i : ℕ)
  /-- The slot at `i` is null. -/
  | nullContext (i : ℕ)
  deriving DecidableEq, Repr

/-- The close callbacks for `ps`, one after another. -/
def removeAll : List ℕ → List Slot → Except StopFault (List Slot)
  | [], vs => .ok vs
  | p :: ps, vs =>
    match onConnectionShutdown vs p with
    | none => .error (.removal p)
    | some vs => removeAll ps vs

/-- The range-`for` of `stop()` at position `i`, `fuel` iterations before the cached end.
`sched i` are the close callbacks that run between the loop's test at `i` and its
dereference of `i`. Returns the addresses asked to stop, in order, and the vector at the
end or the fault that ended the loop. -/
def stopLoop (sched : ℕ → List ℕ) : ℕ → List Slot → ℕ → List ℕ × Except StopFault (List Slot)
  | 0, vs, _ => ([], .ok vs)
  | k + 1, vs, i =>
    match removeAll (sched i) vs with
    | .error f => ([], .error f)
    | .ok vs =>
      match vs[i]? with
      | none => ([], .error (.pastEnd i))
      | some none => ([], .error (.nullContext i))
      | some (some c) =>
        let r := stopLoop sched k vs (i + 1)
        (c.ptr :: r.1, r.2)

/-- `stop()`: `StopSecureTunnel` on each position from `begin()` to the `end()` read when
the loop starts. -/
def stop (sched : ℕ → List ℕ) (mContexts : List Slot) : List ℕ × Except StopFault (List Slot) :=
  stopLoop sched mContexts.length mContexts 0

/-- Callbacks on a registry of distinct contexts leave a sublist of it, when defined. -/
theorem removeAll_sublist : ∀ (ps : List ℕ) (S : List Context) (vs : List Slot),
    (S.map Context.ptr).Nodup → removeAll ps (S.map some) = .ok vs →
    ∃ S' : List Context, vs = S'.map some ∧ S'.Sublist S
  | [], S, vs, _, h => ⟨S, by simpa [removeAll] using h.symm, List.Sublist.refl _⟩
  | p :: ps, S, vs, hnd, h => by
    simp only [removeAll, onConnectionShutdown_registry hnd] at h
    by_cases hp : p ∈ S.map Context.ptr
    · simp only [hp, if_true] at h
      have hf := @List.filter_sublist _ (fun c : Context => decide (c.ptr ≠ p)) S
      obtain ⟨S', rfl, hS'⟩ := removeAll_sublist ps _ vs (hnd.sublist (hf.map _)) h
      exact ⟨S', rfl, hS'.trans hf⟩
    · simp [hp] at h

theorem stopLoop_sublist (sched : ℕ → List ℕ) : ∀ (k : ℕ) (S : List Context) (i : ℕ),
    (S.map Context.ptr).Nodup →
      (stopLoop sched k (S.map some) i).1.Sublist ((S.drop i).map Context.ptr) := by
  intro k
  induction k with
  | zero => intros; simp [stopLoop]
  | succ k ih =>
    intro S i hnd
    simp only [stopLoop]
    split
    · simp
    · rename_i vs hvs
      obtain ⟨S', rfl, hS'⟩ := removeAll_sublist _ _ _ hnd hvs
      split
      · simp
      · simp
      · rename_i c hc
        obtain ⟨hi, rfl⟩ : ∃ h : i < S'.length, S'[i] = c := by
          simpa [List.getElem?_eq_some_iff] using hc
        have htail := ih S' (i + 1) (hnd.sublist (hS'.map _))
        refine List.Sublist.trans ?_ ((hS'.drop i).map _)
        rw [List.drop_eq_getElem_cons hi, List.map_cons]
        exact htail.cons₂ _

/-- **No context is asked to stop twice**, whatever close callbacks land during the loop:
the contexts `stop()` asks to stop form a sublist of the registry it started on. -/
theorem stop_sublist (sched : ℕ → List ℕ) {R : List Context} (hnd : (R.map Context.ptr).Nodup) :
    (stop sched (R.map some)).1.Sublist (R.map Context.ptr) := by
  simpa [stop] using stopLoop_sublist sched R.length R 0 hnd

theorem stop_sublist_sample :
    (stop (fun i => if i = 1 then [1] else [])
      ([⟨1, "", "", "", 0⟩, ⟨2, "", "", "", 0⟩, ⟨3, "", "", "", 0⟩].map some)).1.Sublist [1, 2, 3] :=
  @stop_sublist (fun i => if i = 1 then [1] else [])
    [⟨1, "", "", "", 0⟩, ⟨2, "", "", "", 0⟩, ⟨3, "", "", "", 0⟩] (by decide)

theorem stopLoop_of_no_callbacks (R : List Context) : ∀ k i, i + k = R.length →
    stopLoop (fun _ => []) k (R.map some) i = ((R.drop i).map Context.ptr, .ok (R.map some)) := by
  intro k
  induction k with
  | zero => intro i h; simp [stopLoop, show R.length ≤ i by omega]
  | succ k ih =>
    intro i h
    have hi : i < R.length := by omega
    simp only [stopLoop, removeAll, List.getElem?_map, List.getElem?_eq_getElem hi,
      Option.map_some']
    rw [ih (i + 1) (by omega), List.drop_eq_getElem_cons hi, List.map_cons]

/-- **With no callback landing during the loop, `stop()` asks every context to stop
once, in registry order**, and leaves the vector as it was. -/
theorem stop_of_no_callbacks (R : List Context) :
    stop (fun _ => []) (R.map some) = (R.map Context.ptr, .ok (R.map some)) := by
  simpa [stop] using stopLoop_of_no_callbacks R R.length 0 (by simp)

/-- A close callback that runs removes a context. -/
theorem removeAll_cons_lt {p : ℕ} {ps : List ℕ} {S : List Context} {vs : List Slot}
    (hnd : (S.map Context.ptr).Nodup) (h : removeAll (p :: ps) (S.map some) = .ok vs) :
    ∃ S' : List Context, vs = S'.map some ∧ S'.Sublist S ∧ S'.length < S.length := by
  simp only [removeAll, onConnectionShutdown_registry hnd] at h
  by_cases hp : p ∈ S.map Context.ptr
  · simp only [hp, if_true] at h
    have hf := @List.filter_sublist _ (fun c : Context => decide (c.ptr ≠ p)) S
    obtain ⟨S', rfl, hS'⟩ := removeAll_sublist ps _ vs (hnd.sublist (hf.map _)) h
    obtain ⟨c, hc, rfl⟩ := List.mem_map.1 hp
    exact ⟨S', rfl, hS'.trans hf, lt_of_le_of_lt hS'.length_le
      (List.length_filter_lt_length_iff_exists.2 ⟨c, hc, by simp⟩)⟩
  · simp [hp] at h

/-- A loop whose cached end lies past the vector's end faults. -/
theorem stopLoop_short (sched : ℕ → List ℕ) : ∀ (k : ℕ) (S : List Context) (i : ℕ),
    (S.map Context.ptr).Nodup → i ≤ S.length → S.length < i + k →
      (stopLoop sched k (S.map some) i).2.isOk = false := by
  intro k
  induction k with
  | zero => intro S i _ h1 h2; omega
  | succ k ih =>
    intro S i hnd _ hlt
    simp only [stopLoop]
    split
    · rfl
    · rename_i vs hvs
      obtain ⟨S', rfl, hS'⟩ := removeAll_sublist _ _ _ hnd hvs
      rw [List.getElem?_map]
      cases hc : S'[i]? with
      | none => rfl
      | some c =>
        have hi : i < S'.length := (List.getElem?_eq_some_iff.1 hc).1
        exact ih S' (i + 1) (hnd.sublist (hS'.map _)) hi (by have := hS'.length_le; omega)

theorem stopLoop_isOk_iff (sched : ℕ → List ℕ) : ∀ (k : ℕ) (S : List Context) (i : ℕ),
    (S.map Context.ptr).Nodup → i + k = S.length →
      ((stopLoop sched k (S.map some) i).2.isOk = true ↔ ∀ j, i ≤ j → j < i + k → sched j = []) := by
  intro k
  induction k with
  | zero => intro S i _ _; exact iff_of_true rfl fun j h1 h2 => absurd h2 (by omega)
  | succ k ih =>
    intro S i hnd hlen
    have hi : i < S.length := by omega
    cases hs : sched i with
    | nil =>
      simp only [stopLoop, hs, removeAll, List.getElem?_map, List.getElem?_eq_getElem hi,
        Option.map_some']
      rw [ih S (i + 1) hnd (by omega)]
      constructor
      · intro h j hj hjk
        rcases Nat.eq_or_lt_of_le hj with rfl | hj
        · exact hs
        · exact h j hj (by omega)
      · exact fun h j hj hjk => h j (by omega) (by omega)
    | cons p ps =>
      refine iff_of_false ?_ fun h => by simp [h i le_rfl (by omega)] at hs
      rw [Bool.not_eq_true]
      simp only [stopLoop, hs]
      split
      · rfl
      · rename_i vs hvs
        obtain ⟨S', rfl, hsub, hlt⟩ := removeAll_cons_lt hnd hvs
        rw [List.getElem?_map]
        cases hc : S'[i]? with
        | none => rfl
        | some c =>
          have hi' : i < S'.length := (List.getElem?_eq_some_iff.1 hc).1
          exact stopLoop_short sched k S' (i + 1) (hnd.sublist (hsub.map _)) hi' (by omega)

/-- **`stop()` is defined exactly when no close callback lands during its loop.** On a
registry of distinct contexts, a callback that runs before the loop's last dereference
leaves the vector shorter than the cached end, and the loop faults. -/
theorem stop_isOk_iff (sched : ℕ → List ℕ) {R : List Context} (hnd : (R.map Context.ptr).Nodup) :
    (stop sched (R.map some)).2.isOk = true ↔ ∀ j < R.length, sched j = [] := by
  rw [stop, List.length_map, stopLoop_isOk_iff sched R.length R 0 hnd (by simp)]
  simp

theorem stop_isOk_iff_sample :
    (stop (fun i => if i = 1 then [1] else [])
      ([⟨1, "", "", "", 0⟩, ⟨2, "", "", "", 0⟩, ⟨3, "", "", "", 0⟩].map some)).2.isOk = true ↔
      ∀ j < 3, (if j = 1 then [1] else []) = [] :=
  stop_isOk_iff (fun i => if i = 1 then [1] else []) (by decide)

/-- Three registered contexts, the first of which closes inside its own
`StopSecureTunnel`: the second moves into its place and is never asked to stop, and the
loop dereferences position 2 of a vector of two. -/
theorem stop_skips_shifted_context :
    stop (fun i => if i = 1 then [1] else [])
      [some ⟨1, "", "", "", 0⟩, some ⟨2, "", "", "", 0⟩, some ⟨3, "", "", "", 0⟩] =
      ([1, 3], .error (.pastEnd 2)) := rfl

end SecureTunneling
