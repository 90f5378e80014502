import SecureTunneling.Handler

/-!
# The interlake systems

`AddInterlakeEndpoints` gives system `i < MAX_INTERLAKE_SYSTEM_SIZE` the key
`TIVA_SERVICE_ID_PREFIX + std::to_string(i)` and the address
`TIVA_TCP_IP_ADDRESS_PREFIX + std::to_string(MASTER_SYSTEM_HOST_ID + i)`, that is
"169.254.0." followed by `6 + i`. Whether the handler accepts a request for that system
is a question about `std::to_string` and `inet_pton` together.

* `isValidAddress_dotted`: **printing and parsing a dotted quad**. The address printed
  from four numbers is accepted exactly when each is at most 255. `std::to_string` writes
  digits with no leading zero (`toDigitsCore_head`) that read back as the number
  (`octetValueFrom_toString`), so it writes an octet exactly up to 255 (`isOctet_toString`).
* `serviceAddress_interlake_valid`: whatever the header, system `i` resolves to a valid
  address exactly when `i ≤ 249`. The keys are distinct (`interlake_key_injective`, by
  reading the digits back), so each system keeps its own entry (`find_foldl_interlake`).
* `checkFields_interlake`: for a header whose interlake systems have a port
  (`Header.InterlakePorts`: the prefix reads "TIVA" up to a "_"), a request for system `i`
  passes every check exactly when `i ≤ 249`; past that it is rejected for its address,
  whatever the header allows as the number of systems.
-/

namespace SecureTunneling

/-! ## `std::to_string` and `inet_pton` -/

/-- A decimal digit's character is a digit with that value. -/
theorem digitChar_spec {d : ℕ} (h : d < 10) :
    ('0' ≤ Nat.digitChar d ∧ Nat.digitChar d ≤ '9') ∧ (Nat.digitChar d).toNat - '0'.toNat = d := by
  have : ∀ d < 10, ('0' ≤ Nat.digitChar d ∧ Nat.digitChar d ≤ '9') ∧
      (Nat.digitChar d).toNat - '0'.toNat = d := by decide
  exact this d h

/-- Every character `std::to_string` writes is a digit. -/
theorem toDigitsCore_digits : ∀ (fuel n : ℕ) (ds : List Char), (∀ c ∈ ds, '0' ≤ c ∧ c ≤ '9') →
    ∀ c ∈ Nat.toDigitsCore 10 fuel n ds, '0' ≤ c ∧ c ≤ '9'
  | 0, _, _, hds => hds
  | fuel + 1, n, ds, hds => by
    have hds' : ∀ c ∈ Nat.digitChar (n % 10) :: ds, '0' ≤ c ∧ c ≤ '9' := by
      simpa [(digitChar_spec (Nat.mod_lt n (by omega))).1] using hds
    show ∀ c ∈ (if n / 10 = 0 then _ else Nat.toDigitsCore 10 fuel (n / 10) _), _
    split
    · exact hds'
    · exact toDigitsCore_digits fuel _ _ hds'

/-- Reading back what `std::to_string` writes gives the number, with enough fuel. -/
theorem octetValueFrom_toDigitsCore (fuel : ℕ) : ∀ n ds, n ≤ fuel →
    octetValueFrom 0 (Nat.toDigitsCore 10 (fuel + 1) n ds) = octetValueFrom n ds := by
  induction fuel with
  | zero =>
    intro n ds hn
    obtain rfl : n = 0 := by omega
    rfl
  | succ fuel ih =>
    intro n ds hn
    have hlast : ∀ k, k = n / 10 →
        octetValueFrom (k * 10 + ((Nat.digitChar (n % 10)).toNat - '0'.toNat)) ds = octetValueFrom n ds := by
      rintro k rfl
      rw [(digitChar_spec (Nat.mod_lt n (by omega))).2, Nat.div_add_mod']
    show octetValueFrom 0 (if n / 10 = 0 then _ else Nat.toDigitsCore 10 (fuel + 1) (n / 10) _) = _
    split
    · exact hlast 0 (by omega)
    · rw [ih (n / 10) _ (by omega)]
      exact hlast _ rfl

/-- The first character `std::to_string` writes is "0" only for 0. -/
theorem toDigitsCore_head (fuel : ℕ) : ∀ n ds, n ≤ fuel →
    ∃ c l, Nat.toDigitsCore 10 (fuel + 1) n ds = c :: l ∧ (c = '0' → n = 0) := by
  induction fuel with
  | zero =>
    intro n ds hn
    obtain rfl : n = 0 := by omega
    exact ⟨_, _, rfl, fun _ => rfl⟩
  | succ fuel ih =>
    intro n ds hn
    show ∃ c l, (if n / 10 = 0 then _ else Nat.toDigitsCore 10 (fuel + 1) (n / 10) _) = _ ∧ _
    split
    · rename_i h0
      refine ⟨_, _, rfl, fun hc => ?_⟩
      have := (digitChar_spec (Nat.mod_lt n (show 10 > 0 by omega))).2
      rw [hc, Nat.sub_self] at this
      omega
    · rename_i h0
      obtain ⟨c, l, hcl, hc⟩ := ih (n / 10) (Nat.digitChar (n % 10) :: ds) (by omega)
      exact ⟨c, l, hcl, fun h => absurd (hc h) h0⟩

theorem octetValueFrom_toString (n : ℕ) : octetValueFrom 0 (toString n).toList = n :=
  octetValueFrom_toDigitsCore n n [] le_rfl

theorem toString_digits (n : ℕ) : ∀ c ∈ (toString n).toList, '0' ≤ c ∧ c ≤ '9' :=
  toDigitsCore_digits (n + 1) n [] (by simp)

/-- **`std::to_string` writes an octet exactly for the numbers up to 255.** -/
theorem isOctet_toString (n : ℕ) : IsOctet (toString n).toList ↔ n ≤ 255 := by
  have hval := octetValueFrom_toString n
  obtain ⟨c, l, hcl, hc⟩ := toDigitsCore_head n n [] le_rfl
  have hcl' : (toString n).toList = c :: l := hcl
  refine ⟨fun h => hval ▸ h.2.2.2, fun h => ⟨?_, toString_digits n, fun hh => ?_, by rw [hval]; exact h⟩⟩
  · rw [hcl']
    exact List.cons_ne_nil _ _
  · rw [hcl'] at hh
    obtain rfl := hc (Option.some.inj hh)
    rfl

/-- `std::to_string` is injective. -/
theorem toString_injective : Function.Injective (fun n : ℕ => toString n) := fun a b h => by
  rw [← octetValueFrom_toString a, ← octetValueFrom_toString b]
  exact congrArg (fun s : String => octetValueFrom 0 s.toList) h

theorem dot_not_mem_of_digits {g : List Char} (hg : ∀ ch ∈ g, '0' ≤ ch ∧ ch ≤ '9') : '.' ∉ g :=
  fun h => absurd (hg _ h) (by decide)

theorem nul_not_mem_of_digits {g : List Char} (hg : ∀ ch ∈ g, '0' ≤ ch ∧ ch ≤ '9') :
    '\x00' ∉ g :=
  fun h => absurd (hg _ h) (by decide)

/-- An octet followed by a dot is split at that dot. -/
theorem dottedOctets_append (k : ℕ) {g rest : List Char} (hg : '.' ∉ g) :
    DottedOctets (k + 2) (g ++ '.' :: rest) ↔ IsOctet g ∧ DottedOctets (k + 1) rest := by
  have hcut : ∀ {g : List Char} (rest : List Char), '.' ∉ g →
      (g ++ '.' :: rest).takeWhile (· ≠ '.') = g := fun rest hg => by
    rw [List.takeWhile_append_of_pos (fun ch hch => by simpa using ne_of_mem_of_not_mem hch hg)]
    simp
  constructor
  · rintro ⟨g', rest', hoct, heq, hrest⟩
    have hg' : g = g' := by
      rw [← hcut rest hg, ← hcut rest' (dot_not_mem_of_digits hoct.2.1), heq]
    subst hg'
    exact ⟨hoct, List.cons_injective (List.append_cancel_left heq) ▸ hrest⟩
  · rintro ⟨hoct, hrest⟩
    exact ⟨g, rest, hoct, rfl, hrest⟩

theorem dottedOctets_one {cs : List Char} : DottedOctets 1 cs ↔ IsOctet cs := Iff.rfl

/-- Four printed numbers separated by dots are a dotted quad exactly when each is an octet. -/
theorem dottedOctets_toString (a b c d : ℕ) :
    DottedOctets 4 ((toString a).toList ++ '.' :: ((toString b).toList ++ '.' ::
      ((toString c).toList ++ '.' :: (toString d).toList))) ↔
      a ≤ 255 ∧ b ≤ 255 ∧ c ≤ 255 ∧ d ≤ 255 := by
  have hdot := fun n => dot_not_mem_of_digits (toString_digits n)
  rw [dottedOctets_append 2 (hdot a), dottedOctets_append 1 (hdot b), dottedOctets_append 0 (hdot c),
    dottedOctets_one]
  simp only [isOctet_toString]

theorem toList_dotted (a b c d : ℕ) :
    (toString a ++ "." ++ toString b ++ "." ++ toString c ++ "." ++ toString d).toList =
      (toString a).toList ++ '.' :: ((toString b).toList ++ '.' ::
        ((toString c).toList ++ '.' :: (toString d).toList)) := by
  simp

theorem nulFree_dotted (a b c d : ℕ) :
    NulFree (toString a ++ "." ++ toString b ++ "." ++ toString c ++ "." ++ toString d) := by
  have hnul := fun n => nul_not_mem_of_digits (toString_digits n)
  simp only [NulFree, toList_dotted, List.mem_append, List.mem_cons]
  rintro (h | h | h | h | h | h | h) <;> first | exact hnul _ h | exact absurd h (by decide)

/-- **Printing and parsing a dotted quad**: `IsValidAddress` accepts the address printed
from four numbers exactly when each is at most 255. -/
theorem isValidAddress_dotted (a b c d : ℕ) :
    isValidAddress (toString a ++ "." ++ toString b ++ "." ++ toString c ++ "." ++ toString d) =
      true ↔ a ≤ 255 ∧ b ≤ 255 ∧ c ≤ 255 ∧ d ≤ 255 := by
  rw [isValidAddress, inetPton4, cStr_of_nulFree (nulFree_dotted a b c d), toList_dotted,
    ← pton4Accepts, pton4Accepts_iff 3 0 rfl, dottedOctets_toString]

/-! ## The interlake systems -/

/-- Distinct systems have distinct keys. -/
theorem interlake_key_injective (H : Header) :
    Function.Injective (fun i : ℕ => H.tivaServiceIdPrefix ++ toString i) := fun _ _ h =>
  toString_injective (String.ext (List.append_cancel_left (congrArg String.data h)))

/-- Each round of `AddInterlakeEndpoints` writes its own key, which no later round
overwrites. -/
theorem find_foldl_interlake (H : Header) : ∀ (l : List ℕ) (m : StrMap String) {i : ℕ}, i ∈ l →
    (l.foldl (fun m i => m.assign (H.tivaServiceIdPrefix ++ toString i)
      (tivaTcpIpAddressPrefix ++ toString (masterSystemHostId + i))) m).find
      (H.tivaServiceIdPrefix ++ toString i) =
      some (tivaTcpIpAddressPrefix ++ toString (masterSystemHostId + i))
  | [], _, _, hi => absurd hi (List.not_mem_nil _)
  | j :: l, m, i, hi => by
    rw [List.foldl_cons]
    by_cases hil : i ∈ l
    · exact find_foldl_interlake H l _ hil
    · obtain rfl : i = j := (List.mem_cons.1 hi).resolve_right hil
      rw [find_foldl_interlake_of_ne H l _ fun j hj he => hil ((interlake_key_injective H he : j = i) ▸ hj),
        StrMap.find_assign, if_pos rfl]

theorem addressTable_find_interlake (H : Header) {i : ℕ} (hi : i < H.maxInterlakeSystemSize) :
    (addressTable H).find (H.tivaServiceIdPrefix ++ toString i) =
      some (tivaTcpIpAddressPrefix ++ toString (masterSystemHostId + i)) :=
  find_foldl_interlake H _ _ (List.mem_range.2 hi)

/-- System `i` resolves to "169.254.0." followed by `6 + i`, over any link state. -/
theorem serviceAddress_interlake (H : Header) {i : ℕ} (hi : i < H.maxInterlakeSystemSize)
    (operstate : Option String) :
    serviceAddress H operstate (H.tivaServiceIdPrefix ++ toString i) =
      tivaTcpIpAddressPrefix ++ toString (masterSystemHostId + i) := by
  have hne := interlake_key_ne H i (show "TIVA".toList = "TIV".toList ++ ['A'] from rfl) rfl
  rw [serviceAddress, appendPostfixToService, if_pos hne, addressTable_find_interlake H hi]
  rfl

/-- The address of system `i` is valid exactly for `i ≤ 249`. -/
theorem isValidAddress_interlake (i : ℕ) :
    isValidAddress (tivaTcpIpAddressPrefix ++ toString (masterSystemHostId + i)) = true ↔ i ≤ 249 := by
  have hpre : tivaTcpIpAddressPrefix = toString 169 ++ "." ++ toString 254 ++ "." ++ toString 0 ++ "." :=
    rfl
  rw [hpre, isValidAddress, inetPton4, cStr_of_nulFree (nulFree_dotted _ _ _ _), toList_dotted,
    ← pton4Accepts, pton4Accepts_iff 3 0 rfl, dottedOctets_toString, masterSystemHostId]
  omega

/-- **Every interlake system up to the 250th has a valid address**, whatever the header:
system `i` resolves to "169.254.0." followed by `6 + i`, which `IsValidAddress` accepts
exactly when `i ≤ 249`. -/
theorem serviceAddress_interlake_valid (H : Header) {i : ℕ} (hi : i < H.maxInterlakeSystemSize)
    (operstate : Option String) :
    serviceAddress H operstate (H.tivaServiceIdPrefix ++ toString i) =
        tivaTcpIpAddressPrefix ++ toString (masterSystemHostId + i) ∧
      (isValidAddress (serviceAddress H operstate (H.tivaServiceIdPrefix ++ toString i)) = true ↔
        i ≤ 249) := by
  rw [serviceAddress_interlake H hi]
  exact ⟨rfl, isValidAddress_interlake i⟩

theorem serviceAddress_interlake_valid_sample :
    1 < sampleHeader.maxInterlakeSystemSize ∧
      (serviceAddress sampleHeader none (sampleHeader.tivaServiceIdPrefix ++ toString 1) =
          tivaTcpIpAddressPrefix ++ toString (masterSystemHostId + 1) ∧
        (isValidAddress (serviceAddress sampleHeader none (sampleHeader.tivaServiceIdPrefix ++ toString 1)) =
          true ↔ 1 ≤ 249)) :=
  ⟨by decide, serviceAddress_interlake_valid sampleHeader (by decide) none⟩

/-- What a header needs for its interlake systems to have a port: the prefix reads "TIVA"
up to a "_" and holds no NUL, and the TIVA port is not 0. -/
structure Header.InterlakePorts (H : Header) : Prop where
  sep : '_' ∈ H.tivaServiceIdPrefix.toList
  base : baseName H.tivaServiceIdPrefix = "TIVA"
  nul : NulFree H.tivaServiceIdPrefix
  port : H.tivaTcpPort ≠ 0

theorem sampleHeader_interlakePorts : sampleHeader.InterlakePorts :=
  ⟨by decide, by decide, by decide, by decide⟩

/-- **A request for an interlake system**: for a header whose interlake systems have a
port, a notification for system `i` with a token and a region passes every check exactly
when `i ≤ 249`, and is otherwise rejected for its address. -/
theorem checkFields_interlake (H : Header) (hH : H.InterlakePorts) {i : ℕ}
    (hi : i < H.maxInterlakeSystemSize) (operstate clientMode : Option String) {t r : String}
    (ht : t ≠ "") (hr : r ≠ "") :
    checkFields H operstate "destination"
        ⟨clientMode, some [H.tivaServiceIdPrefix ++ toString i], some t, some r⟩ =
      if i ≤ 249 then
        .ok ⟨cStr t, cStr r, tivaTcpIpAddressPrefix ++ toString (masterSystemHostId + i), H.tivaTcpPort⟩
      else .error (.invalidAddress (H.tivaServiceIdPrefix ++ toString i)
        (tivaTcpIpAddressPrefix ++ toString (masterSystemHostId + i))) := by
  have hkey : NulFree (H.tivaServiceIdPrefix ++ toString i) := by
    simpa [NulFree] using ⟨hH.nul, nul_not_mem_of_digits (toString_digits i)⟩
  have hport : servicePort H (baseName (H.tivaServiceIdPrefix ++ toString i)) = H.tivaTcpPort := by
    simp [baseName_append hH.sep, hH.base, servicePort, portTable]
  simp only [checkFields, ne_eq, not_true_eq_false, if_false, List.cons_ne_self, ht, hr,
    cStr_of_nulFree hkey, serviceAddress_interlake H hi, hport]
  by_cases h : i ≤ 249
  · simp [h, (isValidAddress_interlake i).2 h, (isValidPort_toNat _).2 hH.port]
  · simp [h, Bool.eq_false_iff.2 (mt (isValidAddress_interlake i).1 h)]

theorem checkFields_interlake_sample :
    (sampleHeader.InterlakePorts ∧ 1 < sampleHeader.maxInterlakeSystemSize ∧ "token" ≠ "" ∧
      "us-east-1" ≠ "") ∧
    checkFields sampleHeader none "destination"
        ⟨some "destination", some [sampleHeader.tivaServiceIdPrefix ++ toString 1], some "token",
          some "us-east-1"⟩ =
      if 1 ≤ 249 then
        .ok ⟨cStr "token", cStr "us-east-1", tivaTcpIpAddressPrefix ++ toString (masterSystemHostId + 1),
          sampleHeader.tivaTcpPort⟩
      else .error (.invalidAddress (sampleHeader.tivaServiceIdPrefix ++ toString 1)
        (tivaTcpIpAddressPrefix ++ toString (masterSystemHostId + 1))) :=
  ⟨⟨sampleHeader_interlakePorts, by decide, by decide, by decide⟩,
    checkFields_interlake sampleHeader sampleHeader_interlakePorts (by decide) none (some "destination")
      (by decide) (by decide)⟩

end SecureTunneling
