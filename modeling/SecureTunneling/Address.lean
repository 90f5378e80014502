import SecureTunneling.Basic

/-!
# `IsValidAddress`

`IsValidAddress` asks `inet_pton(AF_INET, address.c_str(), ...)` whether the address is
an IPv4 address. `inetPton4` is the C library's scan for `AF_INET`, character by
character up to the first NUL.

* `isValidAddress_iff`: it accepts exactly four octets separated by dots (`DottedOctets`),
  each one or more digits with no leading zero and a value at most 255, and nothing else.
  The scan is split at each run of digits (`digits_split`); a run from the start of an
  octet is accepted exactly when it is an octet (`foldlM_octet`).
-/

namespace SecureTunneling

/-- The scan state of `inet_pton4`: whether the current octet has a digit, how many
octets have started, and the current octet `*tp`. -/
structure Pton4 where
  sawDigit : Bool
  octets : ℕ
  cur : ℕ
  deriving DecidableEq, Repr

/-- One character of `inet_pton4`; `none` where it returns 0. -/
def pton4Step (s : Pton4) (ch : Char) : Option Pton4 :=
  if '0' ≤ ch ∧ ch ≤ '9' then
    let new := s.cur * 10 + (ch.toNat - '0'.toNat)
    if s.sawDigit ∧ s.cur = 0 then none
    else if 255 < new then none
    else if s.sawDigit then some ⟨true, s.octets, new⟩
    else if 4 < s.octets + 1 then none
    else some ⟨true, s.octets + 1, new⟩
  else if ch = '.' ∧ s.sawDigit then
    if s.octets = 4 then none else some ⟨false, s.octets, 0⟩
  else none

/-- `inet_pton(AF_INET, src, &dst) == 1`. -/
def inetPton4 (src : String) : Bool :=
  match (cStr src).toList.foldlM pton4Step ⟨false, 0, 0⟩ with
  | some s => decide (4 ≤ s.octets)
  | none => false

/-- `IsValidAddress`. -/
def isValidAddress (address : String) : Bool := inetPton4 address

/-! ## What `inet_pton4` accepts -/

/-- The value `inet_pton4` accumulates over a run of digits, from `v`. -/
def octetValueFrom (v : ℕ) (ds : List Char) : ℕ :=
  ds.foldl (fun n ch => n * 10 + (ch.toNat - '0'.toNat)) v

/-- One octet of a dotted quad: one or more digits, no leading zero, at most 255. -/
def IsOctet (ds : List Char) : Prop :=
  ds ≠ [] ∧ (∀ ch ∈ ds, '0' ≤ ch ∧ ch ≤ '9') ∧ (ds.head? = some '0' → ds = ['0']) ∧
    octetValueFrom 0 ds ≤ 255

instance (ds : List Char) : Decidable (IsOctet ds) :=
  inferInstanceAs (Decidable (ds ≠ [] ∧ (∀ ch ∈ ds, '0' ≤ ch ∧ ch ≤ '9') ∧
    (ds.head? = some '0' → ds = ['0']) ∧ octetValueFrom 0 ds ≤ 255))

theorem digit_toNat {ch : Char} (h : '0' ≤ ch ∧ ch ≤ '9') : 48 ≤ ch.toNat ∧ ch.toNat ≤ 57 := h

theorem eq_zero_char {ch : Char} : ch = '0' ↔ ch.toNat = 48 :=
  ⟨fun h => h ▸ rfl, fun h => Char.ext (UInt32.toNat.inj h)⟩

theorem le_octetValueFrom (v : ℕ) (ds : List Char) : v ≤ octetValueFrom v ds := by
  induction ds generalizing v with
  | nil => exact le_rfl
  | cons ch ds ih =>
    show v ≤ octetValueFrom (v * 10 + (ch.toNat - '0'.toNat)) ds
    exact le_trans (by omega) (ih _)

/-- The digits of an octet after its first, when that is not 0: rejected as soon as the
value passes 255. -/
theorem foldlM_digits {ds : List Char} (hd : ∀ ch ∈ ds, '0' ≤ ch ∧ ch ≤ '9') {k v : ℕ}
    (hv0 : v ≠ 0) (hv : v ≤ 255) :
    ds.foldlM pton4Step ⟨true, k, v⟩ =
      if octetValueFrom v ds ≤ 255 then some ⟨true, k, octetValueFrom v ds⟩ else none := by
  induction ds generalizing v with
  | nil => simp [octetValueFrom, hv]
  | cons ch ds ih =>
    have hch := hd ch (List.mem_cons_self _ _)
    have hstep : octetValueFrom v (ch :: ds) =
        octetValueFrom (v * 10 + (ch.toNat - '0'.toNat)) ds := rfl
    have hmono := le_octetValueFrom (v * 10 + (ch.toNat - '0'.toNat)) ds
    rw [List.foldlM_cons, hstep]
    by_cases hbig : 255 < v * 10 + (ch.toNat - '0'.toNat)
    · simp only [pton4Step, hch, and_self, if_true, hv0, and_false, if_false, hbig,
        if_neg (show ¬octetValueFrom (v * 10 + (ch.toNat - '0'.toNat)) ds ≤ 255 by omega)]
      rfl
    · simp only [pton4Step, hch, and_self, if_true, hv0, and_false, if_false, hbig]
      exact ih (fun c hc => hd c (List.mem_cons_of_mem _ hc)) (by omega) (by omega)

/-- A run of digits from the start of an octet: accepted, as one more octet, exactly when it
is an octet. -/
theorem foldlM_octet {ds : List Char} (hne : ds ≠ []) (hd : ∀ ch ∈ ds, '0' ≤ ch ∧ ch ≤ '9')
    {k : ℕ} (hk : k ≤ 3) :
    ds.foldlM pton4Step ⟨false, k, 0⟩ =
      if IsOctet ds then some ⟨true, k + 1, octetValueFrom 0 ds⟩ else none := by
  obtain ⟨ch, rest, rfl⟩ := List.exists_cons_of_ne_nil hne
  have hch := hd ch (List.mem_cons_self _ _)
  have hdig := digit_toNat hch
  have hrest : ∀ c ∈ rest, '0' ≤ c ∧ c ≤ '9' := fun c hc => hd c (List.mem_cons_of_mem _ hc)
  have hfirst : pton4Step ⟨false, k, 0⟩ ch = some ⟨true, k + 1, ch.toNat - '0'.toNat⟩ := by
    simp only [pton4Step, hch, and_self, if_true, Bool.false_eq_true, false_and, if_false,
      show ¬4 < k + 1 by omega, Nat.zero_mul, Nat.zero_add]
    rw [if_neg (by simp; omega)]
  have hval : octetValueFrom 0 (ch :: rest) = octetValueFrom (ch.toNat - '0'.toNat) rest := by
    simp [octetValueFrom]
  rw [List.foldlM_cons, hfirst]
  show List.foldlM pton4Step ⟨true, k + 1, ch.toNat - '0'.toNat⟩ rest = _
  rw [hval]
  by_cases h0 : ch = '0'
  · subst h0
    cases rest with
    | nil => simp [IsOctet, octetValueFrom]
    | cons c rest =>
      have hc := hrest c (List.mem_cons_self _ _)
      have : ¬IsOctet ('0' :: c :: rest) := fun h => by simpa using h.2.2.1 rfl
      simp [pton4Step, hc, this]
  · have hd0 : ch.toNat - '0'.toNat ≠ 0 := fun h => h0 (eq_zero_char.2 (by simp at h ⊢; omega))
    have hoct : IsOctet (ch :: rest) ↔ octetValueFrom (ch.toNat - '0'.toNat) rest ≤ 255 := by
      rw [← hval]
      exact ⟨fun h => h.2.2.2,
        fun h => ⟨List.cons_ne_nil _ _, hd, fun h' => absurd (Option.some.inj h') h0, h⟩⟩
    rw [foldlM_digits hrest hd0 (by simp; omega)]
    simp only [hoct]

/-- `n` octets separated by dots. -/
def DottedOctets : ℕ → List Char → Prop
  | 0, _ => False
  | 1, cs => IsOctet cs
  | n + 2, cs => ∃ g rest, IsOctet g ∧ cs = g ++ '.' :: rest ∧ DottedOctets (n + 1) rest

/-- Whether `inet_pton4`, from the scan state `st`, accepts what is left of its input. -/
def pton4Accepts (st : Pton4) (cs : List Char) : Bool :=
  match cs.foldlM pton4Step st with
  | some s => decide (4 ≤ s.octets)
  | none => false

theorem pton4Accepts_octet_append {g : List Char} (hne : g ≠ [])
    (hg : ∀ ch ∈ g, '0' ≤ ch ∧ ch ≤ '9') {k : ℕ} (hk : k ≤ 3) (r : List Char) :
    pton4Accepts ⟨false, k, 0⟩ (g ++ r) =
      (decide (IsOctet g) && pton4Accepts ⟨true, k + 1, octetValueFrom 0 g⟩ r) := by
  unfold pton4Accepts
  rw [List.foldlM_append, foldlM_octet hne hg hk]
  by_cases h : IsOctet g <;> simp [h]

theorem pton4Accepts_not_digit {r : List Char}
    (hr : ∀ ch r', r = ch :: r' → ¬('0' ≤ ch ∧ ch ≤ '9')) {k : ℕ} (hk : k ≤ 3) :
    pton4Accepts ⟨false, k, 0⟩ r = false := by
  cases r with
  | nil => simp [pton4Accepts]; omega
  | cons ch r => simp [pton4Accepts, pton4Step, hr ch r rfl]

theorem pton4Accepts_dot (j v : ℕ) (r : List Char) :
    pton4Accepts ⟨true, j, v⟩ ('.' :: r) = (decide (j ≠ 4) && pton4Accepts ⟨false, j, 0⟩ r) := by
  by_cases hj : j = 4 <;> simp [pton4Accepts, pton4Step, hj]

theorem pton4Accepts_other {ch : Char} (hd : ¬('0' ≤ ch ∧ ch ≤ '9')) (hdot : ch ≠ '.')
    (j v : ℕ) (r : List Char) : pton4Accepts ⟨true, j, v⟩ (ch :: r) = false := by
  simp [pton4Accepts, pton4Step, hd, hdot]

/-- The run of digits an input starts with, and the rest. -/
theorem digits_split (cs : List Char) : ∃ g r, cs = g ++ r ∧ (∀ ch ∈ g, '0' ≤ ch ∧ ch ≤ '9') ∧
    ∀ ch r', r = ch :: r' → ¬('0' ≤ ch ∧ ch ≤ '9') :=
  ⟨_, _, (List.takeWhile_append_dropWhile (fun ch => decide ('0' ≤ ch ∧ ch ≤ '9')) cs).symm,
    fun ch hch => by simpa using List.mem_takeWhile_imp hch,
    fun ch r' hr => by
      have h := List.head?_dropWhile_not (fun ch => decide ('0' ≤ ch ∧ ch ≤ '9')) cs
      rw [hr] at h
      simpa using h⟩

/-- From the start of its octet `k + 1`, `inet_pton4` accepts exactly `4 - k` octets
separated by dots. -/
theorem pton4Accepts_iff (n : ℕ) : ∀ k, k + n = 3 → ∀ cs,
    pton4Accepts ⟨false, k, 0⟩ cs = true ↔ DottedOctets (n + 1) cs := by
  induction n with
  | zero =>
    intro k hk cs
    obtain rfl : k = 3 := by omega
    constructor
    · obtain ⟨g, r, rfl, hg, hr⟩ := digits_split cs
      rcases g with _ | ⟨c, g⟩
      · simp [pton4Accepts_not_digit hr (show 3 ≤ 3 from le_rfl)]
      rw [pton4Accepts_octet_append (List.cons_ne_nil c g) hg (by omega), Bool.and_eq_true,
        decide_eq_true_iff]
      rintro ⟨hoct, hacc⟩
      cases r with
      | nil => simpa using hoct
      | cons ch r =>
        by_cases hdot : ch = '.'
        · subst hdot
          simp [pton4Accepts_dot] at hacc
        · simp [pton4Accepts_other (hr ch r rfl) hdot] at hacc
    · intro h
      have h : IsOctet cs := h
      rw [← List.append_nil cs, pton4Accepts_octet_append h.1 h.2.1 le_rfl]
      simp [h, pton4Accepts]
  | succ n ih =>
    intro k hk cs
    constructor
    · obtain ⟨g, r, rfl, hg, hr⟩ := digits_split cs
      rcases g with _ | ⟨c, g⟩
      · simp [pton4Accepts_not_digit hr (show k ≤ 3 by omega)]
      rw [pton4Accepts_octet_append (List.cons_ne_nil c g) hg (by omega), Bool.and_eq_true,
        decide_eq_true_iff]
      rintro ⟨hoct, hacc⟩
      cases r with
      | nil => simp [pton4Accepts] at hacc; omega
      | cons ch r =>
        by_cases hdot : ch = '.'
        · subst hdot
          rw [pton4Accepts_dot, Bool.and_eq_true] at hacc
          exact ⟨_, r, hoct, rfl, (ih (k + 1) (by omega) r).1 hacc.2⟩
        · simp [pton4Accepts_other (hr ch r rfl) hdot] at hacc
    · rintro ⟨g, rest, hoct, rfl, hrest⟩
      rw [pton4Accepts_octet_append hoct.1 hoct.2.1 (by omega), pton4Accepts_dot,
        (ih (k + 1) (by omega) rest).2 hrest]
      simp [hoct]
      omega

/-- **`IsValidAddress` accepts exactly the dotted quads**: up to the first NUL, four octets
separated by dots, each of digits with no leading zero and a value at most 255. -/
theorem isValidAddress_iff (address : String) :
    isValidAddress address = true ↔ DottedOctets 4 (cStr address).toList :=
  pton4Accepts_iff 3 0 rfl _

example : isValidAddress "169.254.0.6" = true := by decide
example : isValidAddress "999.1.1.1" = false := by decide
example : isValidAddress "01.1.1.1" = false := by decide

end SecureTunneling
