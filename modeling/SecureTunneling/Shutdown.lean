import Mathlib.Data.List.GetD
import Mathlib.Data.List.Nodup
import SecureTunneling.Basic

/-!
# `OnConnectionShutdown`

A context's close callback erases it from `mContexts`:

    auto it = find_if(begin, end, [&](c) { return c.get() == contextToRemove; });
    mContexts.erase(std::remove(begin, end, *it));

`std::remove` is libstdc++'s loop (`removeLoop`), with its value `*it` a reference into
the range it compacts, and `erase` removes one position.

* `onConnectionShutdown_of_mem`: for a vector of distinct contexts, the callback of a
  registered context removes exactly its entry and keeps the others in order, wherever
  it stands. The aliasing of the value does no harm: after the first move it reads a
  context that differs from every later one.
* `onConnectionShutdown_eq_none_iff`: the code is undefined (it dereferences `end()`)
  exactly when no slot holds the context.
* `onConnectionShutdown_registry`: both, for a registry of distinct contexts.
-/

namespace SecureTunneling

/-- A slot of `mContexts`, a `unique_ptr<SecureTunnelingContext>`: `none` is null. -/
abbrev Slot := Option Context

/-- `unique_ptr::get`: the address held, `0` for null. -/
def Slot.get : Slot → ℕ
  | none => 0
  | some c => c.ptr

@[simp] theorem Slot.get_some (c : Context) : Slot.get (some c) = c.ptr := rfl

/-- The loop of libstdc++'s `std::remove` after its first match, at `result` and `i`.
The value removed is a reference into the range (`*it` in `OnConnectionShutdown`), so
each comparison reads slot `ref` of the current vector. A kept slot is move-assigned
down to `result`, leaving a null behind. -/
def removeLoop (ref : ℕ) : ℕ → List Slot → ℕ → ℕ → List Slot × ℕ
  | 0, vs, result, _ => (vs, result)
  | k + 1, vs, result, i =>
    if (vs.getD i none).get = (vs.getD ref none).get then removeLoop ref k vs result (i + 1)
    else removeLoop ref k ((vs.set result (vs.getD i none)).set i none) (result + 1) (i + 1)

/-- `std::remove(vs.begin(), vs.end(), vs[ref])`: the range afterwards and its new end. -/
def stdRemove (vs : List Slot) (ref : ℕ) : List Slot × ℕ :=
  match vs.findIdx? (fun s => s.get == (vs.getD ref none).get) with
  | none => (vs, vs.length)
  | some first => removeLoop ref (vs.length - (first + 1)) vs first (first + 1)

/-- `vector::erase(pos)`, undefined at `end()`. -/
def erase (vs : List Slot) (pos : ℕ) : Option (List Slot) :=
  if pos < vs.length then some (vs.eraseIdx pos) else none

/-- `OnConnectionShutdown(contextToRemove)`: `none` where `find_if` returns `end()`,
which the code dereferences. -/
def onConnectionShutdown (mContexts : List Slot) (contextToRemove : ℕ) : Option (List Slot) := do
  let it ← mContexts.findIdx? (fun c => c.get == contextToRemove)
  let (vs, newEnd) := stdRemove mContexts it
  erase vs newEnd

theorem removeLoop_length (ref : ℕ) : ∀ k vs result i,
    ((removeLoop ref k vs result i).1).length = vs.length := by
  intro k
  induction k with
  | zero => intros; rfl
  | succ k ih =>
    intro vs result i
    simp only [removeLoop]
    split <;> simp [ih]

/-- The end `std::remove` returns stays below the slot it is about to examine. -/
theorem removeLoop_lt (ref : ℕ) : ∀ k vs result i, result < i → i + k = vs.length →
    (removeLoop ref k vs result i).2 < vs.length := by
  intro k
  induction k with
  | zero => intro vs result i h1 h2; simp only [removeLoop]; omega
  | succ k ih =>
    intro vs result i h1 h2
    simp only [removeLoop]
    split
    · exact ih _ _ _ (by omega) (by omega)
    · simpa using ih ((vs.set result (vs.getD i none)).set i none) (result + 1) (i + 1)
        (by omega) (by simp; omega)

theorem stdRemove_lt {vs : List Slot} {ref : ℕ} (h : ref < vs.length) :
    (stdRemove vs ref).2 < (stdRemove vs ref).1.length := by
  unfold stdRemove
  split
  · rename_i hf
    have := List.findIdx?_eq_none_iff.1 hf (vs.getD ref none)
      (by simp [List.getD_eq_getElem?_getD, List.getElem?_eq_getElem h])
    simp at this
  · rename_i first hf
    have hlt := (List.findIdx?_eq_some_iff_findIdx_eq.1 hf).1
    rw [removeLoop_length]
    exact removeLoop_lt _ _ _ _ _ (by omega) (by omega)

/-- **The removal is undefined exactly when the context is not in the vector.** -/
theorem onConnectionShutdown_eq_none_iff (vs : List Slot) (p : ℕ) :
    onConnectionShutdown vs p = none ↔ ∀ s ∈ vs, s.get ≠ p := by
  unfold onConnectionShutdown
  cases hf : vs.findIdx? (fun c => c.get == p) with
  | none => simpa using List.findIdx?_eq_none_iff.1 hf
  | some it =>
    have hlt := stdRemove_lt (List.findIdx?_eq_some_iff_findIdx_eq.1 hf).1
    obtain ⟨h, hp, -⟩ := List.findIdx?_eq_some_iff_getElem.1 hf
    simp only [Option.bind_eq_bind, Option.some_bind, erase, hlt, if_true, reduceCtorEq,
      false_iff, not_forall, not_not]
    exact ⟨_, List.getElem_mem h, by simpa using hp⟩

theorem eraseIdx_concat (l : List Slot) (g : Slot) : (l ++ [g]).eraseIdx l.length = l := by
  simp [List.eraseIdx_append_of_length_le]

/-- **The compaction loop after the first match.** The value compared is slot `ref` of
the current vector: the removed context while `ref` is the hole, then the first slot moved
into it. When each later slot differs from that value and from the others, every later
slot moves down by one and the hole moves to the end. -/
theorem removeLoop_shift (ref : ℕ) : ∀ (rest D : List Slot) (x : Slot), ref ≤ D.length →
    (∀ y ∈ rest, y.get ≠ ((D ++ x :: rest).getD ref none).get) → (rest.map Slot.get).Nodup →
    ∃ g, removeLoop ref rest.length (D ++ x :: rest) D.length (D.length + 1) =
      (D ++ rest ++ [g], D.length + rest.length) := by
  intro rest
  induction rest with
  | nil => intro D x _ _ _; exact ⟨x, by simp [removeLoop]⟩
  | cons y rest ih =>
    intro D x hr hy hnd
    rw [List.map_cons, List.nodup_cons] at hnd
    have hval : ∀ z ∈ rest, z.get ≠ ((D ++ [y] ++ none :: rest).getD ref none).get := by
      intro z hz
      rw [List.append_assoc, List.singleton_append]
      rcases Nat.lt_or_eq_of_le hr with hlt | rfl
      · have := hy z (List.mem_cons_of_mem _ hz)
        rwa [List.getD_append _ _ _ _ hlt] at this ⊢
      · rw [List.getD_append_right _ _ _ _ le_rfl, Nat.sub_self, List.getD_cons_zero]
        exact fun h => hnd.1 (h ▸ List.mem_map_of_mem _ hz)
    obtain ⟨g, hg⟩ := ih (D ++ [y]) none (by simp; omega) hval hnd.2
    refine ⟨g, ?_⟩
    have h1 : (D ++ x :: y :: rest).getD (D.length + 1) none = y := by
      rw [List.getD_append_right _ _ _ _ (Nat.le_add_right _ 1), Nat.add_sub_cancel_left]; rfl
    have hset : ((D ++ x :: y :: rest).set D.length y).set (D.length + 1) none =
        D ++ [y] ++ none :: rest := by
      simp [List.set_append_right]
    simp only [List.length_cons, removeLoop, h1, if_neg (hy y (List.mem_cons_self _ _)), hset]
    simpa [Nat.add_assoc, Nat.add_comm 1] using hg

theorem findIdx?_ptr (A B : List Context) (c : Context) (hA : ∀ a ∈ A, a.ptr ≠ c.ptr) :
    ((A ++ c :: B).map some).findIdx? (fun s : Slot => s.get == c.ptr) = some A.length := by
  rw [List.map_append, List.findIdx?_append,
    List.findIdx?_eq_none_iff.2 (by simpa using hA)]
  simp [List.findIdx?_cons]

/-- **`OnConnectionShutdown` on a registered context** removes exactly its entry and
keeps the order of the others, for a vector of distinct contexts. -/
theorem onConnectionShutdown_of_mem (A B : List Context) (c : Context)
    (hnd : ((A ++ c :: B).map Context.ptr).Nodup) :
    onConnectionShutdown ((A ++ c :: B).map some) c.ptr = some ((A ++ B).map some) := by
  simp only [List.map_append, List.map_cons, List.nodup_append, List.nodup_cons,
    List.mem_map, List.disjoint_cons_right] at hnd
  obtain ⟨-, ⟨hcB, hB⟩, hcA, -⟩ := hnd
  have hf := findIdx?_ptr A B c fun a ha h => hcA ⟨a, ha, h⟩
  have hv : ((A ++ c :: B).map some).getD A.length none = some c := by
    rw [List.map_append, List.getD_append_right _ _ _ _ (by simp)]; simp
  obtain ⟨g, hg⟩ := removeLoop_shift (A.map some).length (B.map some) (A.map some) (some c) le_rfl
    (fun z hz => by
      rw [List.getD_append_right _ _ _ _ le_rfl, Nat.sub_self, List.getD_cons_zero]
      obtain ⟨b, hb, rfl⟩ := List.mem_map.1 hz
      exact fun h => hcB ⟨b, hb, h⟩)
    (by simpa [List.map_map] using hB)
  have hfuel : A.length + (B.length + 1) - (A.length + 1) = (B.map some).length := by
    simp only [List.length_map]; omega
  unfold onConnectionShutdown stdRemove
  simp only [hf, hv, Slot.get_some, Option.bind_eq_bind, Option.some_bind, List.length_map,
    List.length_append, List.length_cons]
  rw [hfuel, List.map_append, List.map_cons, ← List.length_map A some, hg, erase, if_pos (by simp)]
  dsimp only
  rw [← List.length_append, eraseIdx_concat, List.map_append]

/-- **The removal on a registry of distinct contexts.** -/
theorem onConnectionShutdown_registry {R : List Context} (hnd : (R.map Context.ptr).Nodup)
    (p : ℕ) : onConnectionShutdown (R.map some) p =
      if p ∈ R.map Context.ptr then some ((R.filter (fun c => c.ptr ≠ p)).map some) else none := by
  split
  · rename_i hp
    obtain ⟨c, hc, rfl⟩ := List.mem_map.1 hp
    obtain ⟨A, B, rfl⟩ := List.append_of_mem hc
    have hnd' := hnd
    simp only [List.map_append, List.map_cons, List.nodup_append, List.nodup_cons,
      List.mem_map, List.disjoint_cons_right] at hnd'
    obtain ⟨-, ⟨hcB, -⟩, hcA, -⟩ := hnd'
    rw [onConnectionShutdown_of_mem A B c hnd]
    congr 2
    rw [List.filter_append, List.filter_cons_of_neg (by simp), List.filter_eq_self.2, List.filter_eq_self.2]
    · exact fun b hb => by simpa using fun h => hcB ⟨b, hb, h⟩
    · exact fun a ha => by simpa using fun h => hcA ⟨a, ha, h⟩
  · rename_i hp
    exact (onConnectionShutdown_eq_none_iff _ p).2 (by simpa using fun c hc h => hp (List.mem_map.2 ⟨c, hc, h⟩))

/-- The close callback of a context that is not registered: `find_if` returns `end()`, which
the code dereferences. -/
theorem onConnectionShutdown_unregistered :
    onConnectionShutdown [some ⟨1, "", "", "", 0⟩] 2 = none := rfl

end SecureTunneling
