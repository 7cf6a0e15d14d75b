import Luks.Answer

/-!
# What a recovery finds

The functions of `Luks.Spec` read backwards. A keyslot gives a key exactly when its
material lies in the image and the candidate in it verifies; it is passed over
exactly when the material is cut off or no digest verifies the candidate; and
anything else is a refusal of something the header asks for. A recovery gives the
key of the first keyslot that is not passed over.
-/

namespace Luks

open Basis

/-- The errors that refuse what a keyslot asks for. -/
def LuksError.IsRefusal : LuksError → Prop
  | .unsupported .. | .implausibleStripes .. | .derivationMemoryExceeded ..
  | .keyLengthExceeded .. => True
  | _ => False

/-- A hash specification with an implementation. -/
def SupportedHash (spec : String) : Prop := spec = "sha1" ∨ spec = "sha256" ∨ spec = "sha512"

instance (spec : String) : Decidable (SupportedHash spec) := by
  unfold SupportedHash
  infer_instance

/-- Every byte of the `len` bytes at `offset` is in the image. -/
def Inside (img : Bytes) (offset len : ℕ) : Prop := ∀ i < len, offset + i < img.length

theorem inside_iff {img : Bytes} {offset len : ℕ} :
    Inside img offset len ↔ ¬(window img offset len).length < len := by
  rw [length_window]
  constructor
  · intro h hlt
    have := h (len - 1) (by omega)
    omega
  · intro h i hi
    omega

theorem inside_of_le {img : Bytes} {offset len : ℕ} (h : offset + len ≤ img.length) :
    Inside img offset len := fun i hi => by omega

namespace Spec

/-! ### Refusals -/

/-- A computation whose failures are refusals. -/
structure OnlyRefuses {α : Type} (x : Except LuksError α) : Prop where
  /-- A failure refuses something. -/
  isRefusal : ∀ e, x = .error e → e.IsRefusal

theorem onlyRefuses_ok {α : Type} (a : α) : OnlyRefuses (.ok a) := ⟨fun _ h => by cases h⟩

theorem onlyRefuses_error {α : Type} {e : LuksError} (he : e.IsRefusal) :
    OnlyRefuses (.error e : Except LuksError α) := ⟨fun _ h => Except.error.inj h ▸ he⟩

theorem OnlyRefuses.bind {α β : Type} {x : Except LuksError α} {f : α → Except LuksError β}
    (hx : OnlyRefuses x) (hf : ∀ a, OnlyRefuses (f a)) : OnlyRefuses (x >>= f) := by
  refine ⟨fun e h => ?_⟩
  rcases bind_eq_error_iff.mp h with h | ⟨a, -, h⟩
  · exact hx.isRefusal e h
  · exact (hf a).isRefusal e h

theorem OnlyRefuses.findSomeM? {α β : Type} {l : List α}
    {f : α → Except LuksError (Option β)} (hf : ∀ a ∈ l, OnlyRefuses (f a)) :
    OnlyRefuses (l.findSomeM? f) := by
  refine ⟨fun e h => ?_⟩
  obtain ⟨l₁, a, l₂, rfl, -, ha⟩ := findSomeM?_eq_error_iff.mp h
  exact (hf a (by simp)).isRefusal e ha

section Found

variable {α : Type} {x : Except LuksError (Option α)}

/-- A search with a value for its end returns exactly what it found. -/
theorem bind_found_eq_ok_iff {a : α} : (x >>= found) = .ok a ↔ x = .ok (some a) := by
  rw [bind_eq_ok_iff]
  constructor
  · rintro ⟨found? | a', hfound, h⟩
    · cases h
    · obtain rfl : a' = a := Except.ok.inj h
      exact hfound
  · intro h
    exact ⟨some a, h, rfl⟩

/-- It fails exactly when the search failed, or found nothing. -/
theorem bind_found_eq_error_iff {e : LuksError} :
    (x >>= found) = .error e ↔ x = .error e ∨ x = .ok none ∧ e = .authenticationFailed := by
  rw [bind_eq_error_iff]
  refine or_congr_right ⟨?_, ?_⟩
  · rintro ⟨found? | a, hfound, h⟩
    · exact ⟨hfound, (Except.error.inj h).symm⟩
    · cases h
  · rintro ⟨h, rfl⟩
    exact ⟨none, h, rfl⟩

end Found

variable (K : Crates)

section Steps

theorem onlyRefuses_hashOf (spec : String) : OnlyRefuses (hashOf spec) := by
  rw [hashOf]
  split_ifs
  · exact onlyRefuses_ok _
  · exact onlyRefuses_ok _
  · exact onlyRefuses_ok _
  · exact onlyRefuses_error trivial

theorem exists_hashOf_iff {spec : String} : (∃ h, hashOf spec = .ok h) ↔ SupportedHash spec := by
  rw [hashOf, SupportedHash]
  split_ifs with h₁ h₂ h₃ <;> simp [*]

theorem onlyRefuses_deriveKey (hashSpec : String) (password salt : Bytes) (iterations : UInt32)
    (keyLen : ℕ) : OnlyRefuses (deriveKey K hashSpec password salt iterations keyLen) := by
  rw [deriveKey]
  split_ifs
  · exact onlyRefuses_error trivial
  · exact (onlyRefuses_hashOf hashSpec).bind fun _ => onlyRefuses_ok _

/-- PBKDF2 gives a key exactly when the length is allowed and the hash supported. -/
theorem exists_deriveKey_iff {hashSpec : String} {password salt : Bytes} {iterations : UInt32}
    {keyLen : ℕ} : (∃ k, deriveKey K hashSpec password salt iterations keyLen = .ok k) ↔
      keyLen ≤ maxKeyBytes ∧ SupportedHash hashSpec := by
  rw [← exists_hashOf_iff, deriveKey]
  split_ifs with hlen
  · simp
    omega
  · rw [pbkdf2Into]
    have hle : keyLen ≤ maxKeyBytes := Nat.le_of_not_lt hlen
    cases hashOf hashSpec <;> simp [bind, Except.bind, pure, Except.pure, hle]

theorem length_of_deriveKey_eq_ok {hashSpec : String} {password salt key : Bytes}
    {iterations : UInt32} {keyLen : ℕ}
    (h : deriveKey K hashSpec password salt iterations keyLen = .ok key) :
    key.length = keyLen := by
  rw [deriveKey] at h
  split_ifs at h
  obtain ⟨hash, -, hkey⟩ := bind_eq_ok_iff.mp h
  obtain rfl := Except.ok.inj hkey
  exact K.length_pbkdf2Hmac ..

theorem onlyRefuses_argon2Run (alg : Algorithm) (p : Argon2Params) (password : Bytes)
    (keyLen time : ℕ) : OnlyRefuses (argon2Run K alg p password keyLen time) := by
  rw [argon2Run]
  split
  · exact onlyRefuses_error trivial
  · exact onlyRefuses_error trivial
  · split
    · exact onlyRefuses_error trivial
    · exact onlyRefuses_ok _

theorem onlyRefuses_deriveKeyArgon2 (p : Argon2Params) (password : Bytes) (keyLen : ℕ) :
    OnlyRefuses (deriveKeyArgon2 K p password keyLen) := by
  rw [deriveKeyArgon2]
  refine OnlyRefuses.bind ?_ fun alg => ?_
  · rw [algorithmOf]
    split_ifs
    · exact onlyRefuses_ok _
    · exact onlyRefuses_ok _
    · exact onlyRefuses_error trivial
  · split_ifs
    · exact onlyRefuses_error trivial
    · exact onlyRefuses_error trivial
    · exact (onlyRefuses_argon2Run K ..).bind fun _ => onlyRefuses_argon2Run K ..
    · exact onlyRefuses_argon2Run K ..

theorem onlyRefuses_deriveSlotKey (passphrase : Bytes) (slot : Luks2Keyslot) :
    OnlyRefuses (deriveSlotKey K passphrase slot) := by
  rw [deriveSlotKey]
  split
  · exact onlyRefuses_deriveKeyArgon2 K ..
  · exact onlyRefuses_deriveKey K ..

theorem onlyRefuses_xtsDecryptArea (cipherMode : String) (key buffer : Bytes)
    (unitSize base : ℕ) : OnlyRefuses (xtsDecryptArea K cipherMode key buffer unitSize base) := by
  rw [xtsDecryptArea]
  by_cases hmode : cipherMode ≠ "xts-plain64"
  · rw [if_pos hmode]
    exact onlyRefuses_error trivial
  · rw [if_neg hmode]
    refine OnlyRefuses.bind ?_ fun _ => onlyRefuses_ok _
    rw [xtsCipher]
    split_ifs
    · exact onlyRefuses_ok _
    · exact onlyRefuses_ok _
    · exact onlyRefuses_error trivial

theorem onlyRefuses_merge (hashSpec : String) (material : Bytes) (blockSize stripes : ℕ) :
    OnlyRefuses (merge K hashSpec material blockSize stripes) := by
  rw [merge]
  split_ifs
  · exact onlyRefuses_error trivial
  · exact (onlyRefuses_hashOf hashSpec).bind fun _ => onlyRefuses_ok _

theorem onlyRefuses_openMaterial (img : Bytes) (cipherMode hashSpec : String) (slotKey : Bytes)
    (offset blockSize stripes : ℕ) :
    OnlyRefuses (openMaterial K img cipherMode hashSpec slotKey offset blockSize stripes) := by
  rw [openMaterial]
  refine OnlyRefuses.bind ?_ fun len => ?_
  · rw [materialLen]
    split_ifs
    · exact onlyRefuses_error trivial
    · exact onlyRefuses_ok _
  · split_ifs
    · exact onlyRefuses_ok _
    · exact (onlyRefuses_xtsDecryptArea K ..).bind fun _ =>
        (onlyRefuses_merge K ..).bind fun _ => onlyRefuses_ok _

theorem onlyRefuses_verify (hashSpec : String) (candidate salt : Bytes) (iterations : UInt32)
    (expected : Bytes) :
    OnlyRefuses (verify K hashSpec candidate salt iterations expected) :=
  (onlyRefuses_deriveKey K ..).bind fun _ => onlyRefuses_ok _

theorem onlyRefuses_tryKeyslot1 (img : Bytes) (header : Luks1Header) (passphrase : Bytes)
    (slot : Keyslot) : OnlyRefuses (tryKeyslot1 K img header passphrase slot) := by
  rw [tryKeyslot1]
  refine OnlyRefuses.bind ((onlyRefuses_deriveKey K ..).bind fun _ =>
    onlyRefuses_openMaterial K ..) fun candidate? => ?_
  cases candidate? with
  | none => exact onlyRefuses_ok _
  | some candidate =>
    refine OnlyRefuses.bind (onlyRefuses_verify K ..) fun verified => ?_
    cases verified <;> exact onlyRefuses_ok _

theorem onlyRefuses_tryDigest (slot : Luks2Keyslot) (candidate : Bytes) (dig : Luks2Digest) :
    OnlyRefuses (tryDigest K slot candidate dig) := by
  rw [tryDigest]
  split_ifs
  · refine OnlyRefuses.bind (onlyRefuses_verify K ..) fun verified => ?_
    cases verified <;> exact onlyRefuses_ok _
  · exact onlyRefuses_ok _

theorem onlyRefuses_tryKeyslot2 (img : Bytes) (digests : List Luks2Digest) (passphrase : Bytes)
    (slot : Luks2Keyslot) : OnlyRefuses (tryKeyslot2 K img digests passphrase slot) := by
  rw [tryKeyslot2]
  refine OnlyRefuses.bind ((onlyRefuses_deriveSlotKey K ..).bind fun _ =>
    onlyRefuses_openMaterial K ..) fun candidate? => ?_
  cases candidate? with
  | none => exact onlyRefuses_ok _
  | some candidate =>
    exact OnlyRefuses.findSomeM? fun dig _ => onlyRefuses_tryDigest K slot candidate dig

end Steps

/-! ### What the steps give -/

section Inversion

variable {K} {img : Bytes}

theorem materialLen_of_le {blockSize stripes : ℕ} (h : stripes ≤ maxStripes) :
    materialLen blockSize stripes = .ok (sectorRounded (blockSize * stripes)) := by
  rw [materialLen, if_neg (Nat.not_lt_of_le h)]

theorem materialLen_of_gt {blockSize stripes : ℕ} (h : maxStripes < stripes) :
    materialLen blockSize stripes =
      .error (.implausibleStripes stripes maxStripes blockSize) := by
  rw [materialLen, if_pos h]

section Material

variable {cipherMode hashSpec : String} {slotKey : Bytes} {offset blockSize stripes : ℕ}

/-- **Key material gives a candidate** exactly when it is all there, and decrypts and
merges to it. -/
theorem openMaterial_eq_some_iff {candidate : Bytes} :
    openMaterial K img cipherMode hashSpec slotKey offset blockSize stripes =
        .ok (some candidate) ↔
      stripes ≤ maxStripes ∧ Inside img offset (sectorRounded (blockSize * stripes)) ∧
        ∃ plain, xtsDecryptArea K cipherMode slotKey
            (window img offset (sectorRounded (blockSize * stripes))) 512 0 = .ok plain ∧
          merge K hashSpec plain blockSize stripes = .ok candidate := by
  rw [openMaterial, inside_iff]
  by_cases hs : stripes ≤ maxStripes
  · rw [materialLen_of_le hs, ok_bind]
    split_ifs with hshort
    · simp [hshort, pure, Except.pure, -length_window]
    · simp only [bind_eq_ok_iff, hs, hshort, not_false_eq_true, true_and]
      simp [pure, Except.pure]
  · rw [materialLen_of_gt (Nat.lt_of_not_le hs)]
    simp [bind, Except.bind, hs]

/-- Key material gives nothing exactly when the image ends before it does. -/
theorem openMaterial_eq_none_iff :
    openMaterial K img cipherMode hashSpec slotKey offset blockSize stripes = .ok none ↔
      stripes ≤ maxStripes ∧ ¬Inside img offset (sectorRounded (blockSize * stripes)) := by
  rw [openMaterial, inside_iff, not_not]
  by_cases hs : stripes ≤ maxStripes
  · rw [materialLen_of_le hs, ok_bind]
    split_ifs with hshort
    · simp [hshort, hs, pure, Except.pure, -length_window]
    · simp only [bind_eq_ok_iff, hshort, and_false, iff_false]
      simp [pure, Except.pure]
  · rw [materialLen_of_gt (Nat.lt_of_not_le hs)]
    simp [bind, Except.bind, hs]

end Material

/-- A digest verifies a candidate: deriving from it gives the expected bytes. -/
def Verifies (K : Crates) (hashSpec : String) (candidate salt : Bytes) (iterations : UInt32)
    (expected : Bytes) : Prop :=
  deriveKey K hashSpec candidate salt iterations expected.length = .ok expected

section Verify

variable {hashSpec : String} {candidate salt expected : Bytes} {iterations : UInt32}

theorem verify_eq_true_iff : verify K hashSpec candidate salt iterations expected = .ok true ↔
    Verifies K hashSpec candidate salt iterations expected := by
  rw [verify, bind_eq_ok_iff, Verifies]
  simp [pure, Except.pure]

theorem verify_eq_false_iff : verify K hashSpec candidate salt iterations expected = .ok false ↔
    expected.length ≤ maxKeyBytes ∧ SupportedHash hashSpec ∧
      ¬Verifies K hashSpec candidate salt iterations expected := by
  have hderive : (∃ k, deriveKey K hashSpec candidate salt iterations expected.length = .ok k) ↔
      expected.length ≤ maxKeyBytes ∧ SupportedHash hashSpec := exists_deriveKey_iff K
  rw [verify, bind_eq_ok_iff, Verifies, ← and_assoc, ← hderive]
  constructor
  · rintro ⟨d, hd, hne⟩
    refine ⟨⟨d, hd⟩, fun heq => ?_⟩
    rw [hd] at heq
    obtain rfl := Except.ok.inj heq
    simp [pure, Except.pure] at hne
  · rintro ⟨⟨d, hd⟩, hne⟩
    refine ⟨d, hd, ?_⟩
    rw [hd] at hne
    have hd' : d ≠ expected := fun h => hne (by rw [h])
    simp [pure, Except.pure, hd']

end Verify

/-! ### LUKS1 -/

section Luks1

variable {header : Luks1Header} {passphrase : Bytes} {slot : Keyslot} {r : Recovered}

/-- The digest of a LUKS1 header verifies a candidate. -/
def Verifies1 (K : Crates) (header : Luks1Header) (candidate : Bytes) : Prop :=
  Verifies K header.hashSpec candidate header.mkDigestSalt.toList header.mkDigestIter
    header.mkDigest.toList

/-- **A LUKS1 keyslot gives a key** exactly when the digest verifies its
candidate. -/
theorem tryKeyslot1_eq_some_iff : tryKeyslot1 K img header passphrase slot = .ok (some r) ↔
    candidate1 K img header passphrase slot = .ok (some r.key) ∧ Verifies1 K header r.key ∧
      r.acceptedBy = .luks1 slot := by
  rw [tryKeyslot1, bind_eq_ok_iff]
  constructor
  · rintro ⟨candidate? | candidate, hcand, h⟩
    · cases h
    · obtain ⟨verified, hverified, h⟩ := bind_eq_ok_iff.mp h
      cases verified with
      | false => cases h
      | true =>
        obtain rfl : Recovered.mk candidate (.luks1 slot) = r := Option.some.inj (Except.ok.inj h)
        exact ⟨hcand, verify_eq_true_iff.mp hverified, rfl⟩
  · obtain ⟨key, acceptedBy⟩ := r
    rintro ⟨hcand, hverifies, rfl⟩
    refine ⟨some key, hcand, bind_eq_ok_iff.mpr ⟨true, verify_eq_true_iff.mpr hverifies, rfl⟩⟩

/-- A LUKS1 keyslot is passed over exactly when its material is cut off, or the
digest refutes its candidate. -/
theorem tryKeyslot1_eq_none_iff : tryKeyslot1 K img header passphrase slot = .ok none ↔
    candidate1 K img header passphrase slot = .ok none ∨
      ∃ candidate, candidate1 K img header passphrase slot = .ok (some candidate) ∧
        verify1 K header candidate = .ok false := by
  rw [tryKeyslot1, bind_eq_ok_iff]
  constructor
  · rintro ⟨candidate? | candidate, hcand, h⟩
    · exact Or.inl hcand
    · obtain ⟨verified, hverified, h⟩ := bind_eq_ok_iff.mp h
      cases verified with
      | false => exact Or.inr ⟨candidate, hcand, hverified⟩
      | true => cases h
  · rintro (hcand | ⟨candidate, hcand, hverified⟩)
    · exact ⟨none, hcand, rfl⟩
    · exact ⟨some candidate, hcand, bind_eq_ok_iff.mpr ⟨false, hverified, rfl⟩⟩

/-- **A LUKS1 recovery succeeds** with the first keyslot that is not passed over. -/
theorem recoverMasterKey1_eq_ok_iff : recoverMasterKey1 K img header passphrase = .ok r ↔
    ∃ l₁ slot l₂, header.activeKeyslots = l₁ ++ slot :: l₂ ∧
      (∀ s ∈ l₁, tryKeyslot1 K img header passphrase s = .ok none) ∧
      tryKeyslot1 K img header passphrase slot = .ok (some r) := by
  rw [recoverMasterKey1, bind_found_eq_ok_iff, findSomeM?_eq_some_iff]

/-- A LUKS1 recovery ends in authentication failure exactly when every active keyslot
is passed over. -/
theorem recoverMasterKey1_eq_failed_iff :
    recoverMasterKey1 K img header passphrase = .error .authenticationFailed ↔
      ∀ s ∈ header.activeKeyslots, tryKeyslot1 K img header passphrase s = .ok none := by
  rw [recoverMasterKey1, bind_found_eq_error_iff, ← findSomeM?_eq_none_iff]
  constructor
  · rintro (h | ⟨h, -⟩)
    · have hrefusal := (OnlyRefuses.findSomeM? fun s _ =>
        onlyRefuses_tryKeyslot1 K img header passphrase s).isRefusal _ h
      exact hrefusal.elim
    · exact h
  · intro h
    exact Or.inr ⟨h, rfl⟩

/-- A LUKS1 recovery fails because no keyslot verifies, or refuses one. -/
theorem recoverMasterKey1_error {e : LuksError}
    (h : recoverMasterKey1 K img header passphrase = .error e) :
    e = .authenticationFailed ∨ e.IsRefusal := by
  rcases bind_found_eq_error_iff.mp h with h | ⟨-, rfl⟩
  · exact Or.inr ((OnlyRefuses.findSomeM? fun s _ =>
      onlyRefuses_tryKeyslot1 K img header passphrase s).isRefusal _ h)
  · exact Or.inl rfl

end Luks1

/-! ### LUKS2 -/

section Luks2

variable {header : Luks2Header} {digests : List Luks2Digest} {passphrase candidate : Bytes}
  {slot : Luks2Keyslot} {dig : Luks2Digest} {r : Recovered}

/-- A digest applies to a keyslot: it is of the one kind there is, and lists it. -/
def Applies (dig : Luks2Digest) (slot : Luks2Keyslot) : Prop :=
  dig.kind = "pbkdf2" ∧ slot.id ∈ dig.keyslots

/-- A LUKS2 digest verifies a candidate. -/
def Verifies2 (K : Crates) (dig : Luks2Digest) (candidate : Bytes) : Prop :=
  Verifies K dig.hash candidate dig.salt dig.iterations dig.digest

theorem tryDigest_eq_some_iff : tryDigest K slot candidate dig = .ok (some r) ↔
    Applies dig slot ∧ Verifies2 K dig candidate ∧ r = ⟨candidate, .luks2 slot dig⟩ := by
  rw [tryDigest, Applies]
  split_ifs with happlies
  · rw [bind_eq_ok_iff]
    constructor
    · rintro ⟨verified, hverified, h⟩
      cases verified with
      | false => cases h
      | true =>
        exact ⟨happlies, verify_eq_true_iff.mp hverified,
          (Option.some.inj (Except.ok.inj h)).symm⟩
    · rintro ⟨-, hverifies, rfl⟩
      exact ⟨true, verify_eq_true_iff.mpr hverifies, rfl⟩
  · simp [happlies, pure, Except.pure]

theorem tryDigest_eq_none_iff : tryDigest K slot candidate dig = .ok none ↔
    (Applies dig slot → verify K dig.hash candidate dig.salt dig.iterations dig.digest =
      .ok false) := by
  rw [tryDigest, Applies]
  split_ifs with happlies
  · rw [bind_eq_ok_iff]
    constructor
    · rintro ⟨verified, hverified, h⟩ -
      cases verified with
      | false => exact hverified
      | true => cases h
    · intro h
      exact ⟨false, h happlies, rfl⟩
  · simp [happlies, pure, Except.pure]

/-- **A LUKS2 keyslot gives a key** exactly when the first digest that is not passed
over verifies its candidate. -/
theorem tryKeyslot2_eq_some_iff : tryKeyslot2 K img digests passphrase slot = .ok (some r) ↔
    candidate2 K img passphrase slot = .ok (some r.key) ∧
      ∃ l₁ dig l₂, digests = l₁ ++ dig :: l₂ ∧
        (∀ g ∈ l₁, tryDigest K slot r.key g = .ok none) ∧ Applies dig slot ∧
        Verifies2 K dig r.key ∧ r.acceptedBy = .luks2 slot dig := by
  rw [tryKeyslot2, bind_eq_ok_iff]
  constructor
  · rintro ⟨candidate? | candidate, hcand, h⟩
    · cases h
    · obtain ⟨l₁, dig, l₂, hl, hpass, hdig⟩ := findSomeM?_eq_some_iff.mp h
      obtain ⟨happlies, hverifies, rfl⟩ := tryDigest_eq_some_iff.mp hdig
      exact ⟨hcand, l₁, dig, l₂, hl, hpass, happlies, hverifies, rfl⟩
  · obtain ⟨key, acceptedBy⟩ := r
    rintro ⟨hcand, l₁, dig, l₂, hl, hpass, happlies, hverifies, rfl⟩
    exact ⟨some key, hcand, findSomeM?_eq_some_iff.mpr
      ⟨l₁, dig, l₂, hl, hpass, tryDigest_eq_some_iff.mpr ⟨happlies, hverifies, rfl⟩⟩⟩

/-- A LUKS2 keyslot is passed over exactly when its material is cut off, or every
digest that applies refutes its candidate. -/
theorem tryKeyslot2_eq_none_iff : tryKeyslot2 K img digests passphrase slot = .ok none ↔
    candidate2 K img passphrase slot = .ok none ∨
      ∃ candidate, candidate2 K img passphrase slot = .ok (some candidate) ∧
        ∀ g ∈ digests, tryDigest K slot candidate g = .ok none := by
  rw [tryKeyslot2, bind_eq_ok_iff]
  constructor
  · rintro ⟨candidate? | candidate, hcand, h⟩
    · exact Or.inl hcand
    · exact Or.inr ⟨candidate, hcand, findSomeM?_eq_none_iff.mp h⟩
  · rintro (hcand | ⟨candidate, hcand, h⟩)
    · exact ⟨none, hcand, rfl⟩
    · exact ⟨some candidate, hcand, findSomeM?_eq_none_iff.mpr h⟩

/-- **A LUKS2 recovery succeeds** with the first keyslot that is not passed over. -/
theorem recoverMasterKey2_eq_ok_iff : recoverMasterKey2 K img header passphrase = .ok r ↔
    ∃ l₁ slot l₂, header.keyslots = l₁ ++ slot :: l₂ ∧
      (∀ s ∈ l₁, tryKeyslot2 K img header.digests passphrase s = .ok none) ∧
      tryKeyslot2 K img header.digests passphrase slot = .ok (some r) := by
  rw [recoverMasterKey2, bind_found_eq_ok_iff, findSomeM?_eq_some_iff]

/-- A LUKS2 recovery ends in authentication failure exactly when every keyslot is
passed over. -/
theorem recoverMasterKey2_eq_failed_iff :
    recoverMasterKey2 K img header passphrase = .error .authenticationFailed ↔
      ∀ s ∈ header.keyslots, tryKeyslot2 K img header.digests passphrase s = .ok none := by
  rw [recoverMasterKey2, bind_found_eq_error_iff, ← findSomeM?_eq_none_iff]
  constructor
  · rintro (h | ⟨h, -⟩)
    · have hrefusal := (OnlyRefuses.findSomeM? fun s _ =>
        onlyRefuses_tryKeyslot2 K img header.digests passphrase s).isRefusal _ h
      exact hrefusal.elim
    · exact h
  · intro h
    exact Or.inr ⟨h, rfl⟩

/-- A LUKS2 recovery fails because no keyslot verifies, or refuses one. -/
theorem recoverMasterKey2_error {e : LuksError}
    (h : recoverMasterKey2 K img header passphrase = .error e) :
    e = .authenticationFailed ∨ e.IsRefusal := by
  rcases bind_found_eq_error_iff.mp h with h | ⟨-, rfl⟩
  · exact Or.inr ((OnlyRefuses.findSomeM? fun s _ =>
      onlyRefuses_tryKeyslot2 K img header.digests passphrase s).isRefusal _ h)
  · exact Or.inl rfl

end Luks2

/-! ### Whole images -/

section Images

variable {passphrase : Bytes} {u : Unlocked Bytes}

/-- The header of a LUKS1 container. -/
def header1 (img : Bytes) : Except LuksError Luks1Header :=
  readFill img 0 luks1PhdrLen >>= Luks1Header.parse

/-- A LUKS1 image whose header parses and has an active keyslot comes to what a recovery
does. -/
theorem unlock1_eq {header : Luks1Header} (h : header1 img = .ok header)
    (hne : header.activeKeyslots ≠ []) : unlock1 K img passphrase =
      (fun r => ⟨header.payload img r.key img.length, r.acceptedBy⟩) <$>
        recoverMasterKey1 K img header passphrase := by
  rw [header1] at h
  rw [unlock1, ← bind_assoc, h, ok_bind, if_neg (by simpa using hne)]
  rfl

/-- **A LUKS1 image unlocks** exactly when its header parses and a recovery
succeeds. -/
theorem unlock1_eq_ok_iff : unlock1 K img passphrase = .ok u ↔
    ∃ header r, header1 img = .ok header ∧ recoverMasterKey1 K img header passphrase = .ok r ∧
      u = ⟨header.payload img r.key img.length, r.acceptedBy⟩ := by
  rw [unlock1, header1, ← bind_assoc, bind_eq_ok_iff]
  constructor
  · rintro ⟨header, hheader, h⟩
    split_ifs at h with hslots
    obtain ⟨r, hr, h⟩ := bind_eq_ok_iff.mp h
    exact ⟨header, r, hheader, hr, (Except.ok.inj h).symm⟩
  · rintro ⟨header, r, hheader, hr, rfl⟩
    refine ⟨header, hheader, ?_⟩
    obtain ⟨l₁, slot, l₂, hl, -, -⟩ := recoverMasterKey1_eq_ok_iff.mp hr
    rw [if_neg (by simp [hl]), hr]
    rfl

/-- **A LUKS2 image unlocks** exactly when it has room for the binary header, its
header parses and has an encrypted segment, and a recovery succeeds. -/
theorem unlock2_eq_ok_iff : unlock2 K img passphrase = .ok u ↔
    luks2BinHdrLen ≤ img.length ∧ ∃ header segment r, header2 K img = .ok header ∧
      header.cryptSegment = some segment ∧
      recoverMasterKey2 K img header passphrase = .ok r ∧
      u = ⟨segment.payload img r.key img.length, r.acceptedBy⟩ := by
  by_cases hlen : luks2BinHdrLen ≤ img.length
  · rw [unlock2, readFill_front hlen, ok_bind, bind_eq_ok_iff]
    constructor
    · rintro ⟨header, hheader, h⟩
      cases hseg : header.cryptSegment with
      | none => simp [hseg] at h
      | some segment =>
        simp only [hseg] at h
        split_ifs at h with hslots
        obtain ⟨r, hr, h⟩ := bind_eq_ok_iff.mp h
        exact ⟨hlen, header, segment, r, hheader, hseg, hr, (Except.ok.inj h).symm⟩
    · rintro ⟨-, header, segment, r, hheader, hseg, hr, rfl⟩
      refine ⟨header, hheader, ?_⟩
      -- a recovery that succeeds had a keyslot to try, so the test before it passes
      obtain ⟨l₁, slot, l₂, hl, -, -⟩ := recoverMasterKey2_eq_ok_iff.mp hr
      simp only [hseg]
      rw [if_neg (by simp [hl]), hr]
      rfl
  · rw [unlock2_of_short K (Nat.lt_of_not_le hlen)]
    simp [hlen]

/-- An image that has a version is unlocked as that version. -/
theorem unlock_eq_of_le (hle : 8 ≤ img.length) : unlock K img passphrase =
    if beU16 img 6 = 1 then unlock1 K img passphrase
    else if beU16 img 6 = 2 then unlock2 K img passphrase
    else if luksMagic.toList.isPrefixOf (window img 0 8) then
      .error (.unsupportedVersion (beU16 img 6))
    else .error (.notLuks (bytesN 6 (window img 0 8) 0)) := by
  rw [unlock, readFill_front hle, ← beU16_window (n := 8) (by decide) hle]
  rfl

end Images

end Inversion

end Spec

end Luks
