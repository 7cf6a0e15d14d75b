import Luks.Stored
import Luks.Variants

/-!
# The costs a document writes

The cost parameters of a keyslot – the iterations of PBKDF2, the passes, memory and lanes
of Argon2, the stripes – are written in the document as numbers or decimal strings of up
to 64 bits, and are cut to 32 bits when the document is read (`Luks.parseKeyslot`). The
ceilings and budgets apply to what is left.

So the code runs with the costs that were written exactly when all of them fit 32 bits
(`Luks.keyslot_honoursCosts_iff`).
-/

namespace Luks

open Basis

/-! ### Numbers in 32 bits -/

/-- What a 32-bit field keeps of a number that was written. -/
theorem Writes.toNat_asU64 {v : Value} {n : ℕ} (h : Writes v n) :
    (asU64 v).toUInt32.toNat = n % 2 ^ 32 := by
  rw [h.asU64_eq, UInt64.toNat_toUInt32, UInt64.toNat_ofNat_of_lt' h.lt]

/-- **A 32-bit field keeps a number** exactly when it fits. -/
theorem Writes.toNat_asU64_eq_iff {v : Value} {n : ℕ} (h : Writes v n) :
    (asU64 v).toUInt32.toNat = n ↔ n < 2 ^ 32 := by
  rw [h.toNat_asU64]
  constructor
  · intro hn
    rw [← hn]
    exact Nat.mod_lt _ (by decide)
  · exact Nat.mod_eq_of_lt

/-! ### The costs of a keyslot -/

/-- The costs of a key-derivation function. -/
inductive KdfCosts where
  /-- PBKDF2: iterations. -/
  | pbkdf2 (iterations : ℕ)
  /-- Argon2: passes, memory in KiB, lanes. -/
  | argon2 (time memory cpus : ℕ)
  deriving DecidableEq

/-- The costs of a keyslot. -/
structure Costs where
  /-- Those of its key-derivation function. -/
  kdf : KdfCosts
  /-- The stripes of its key material. -/
  stripes : ℕ
  deriving DecidableEq

/-- All costs of a function fit 32 bits. -/
def KdfCosts.Fit : KdfCosts → Prop
  | pbkdf2 iterations => iterations < 2 ^ 32
  | argon2 time memory cpus => time < 2 ^ 32 ∧ memory < 2 ^ 32 ∧ cpus < 2 ^ 32

/-- All costs fit 32 bits. -/
def Costs.Fit (c : Costs) : Prop := c.kdf.Fit ∧ c.stripes < 2 ^ 32

/-- The costs that the code runs a function with. -/
def Luks2Kdf.costs : Luks2Kdf → KdfCosts
  | argon2 _ time memory cpus _ => .argon2 time.toNat memory.toNat cpus.toNat
  | pbkdf2 _ iterations _ => .pbkdf2 iterations.toNat

/-- The costs that the code runs a keyslot with. -/
def Luks2Keyslot.costs (slot : Luks2Keyslot) : Costs := ⟨slot.kdf.costs, slot.afStripes.toNat⟩

/-- A field of an object writes a positive number. -/
def WritesField (v : Value) (key : String) (n : ℕ) : Prop :=
  1 ≤ n ∧ ∃ x, v.get key = some x ∧ Writes x n

/-- A `kdf` object writes these costs. -/
def WritesKdf (v : Value) : KdfCosts → Prop
  | .pbkdf2 iterations =>
      v.get "type" = some (.string "pbkdf2") ∧ WritesField v "iterations" iterations
  | .argon2 time memory cpus =>
      (v.get "type" = some (.string "argon2i") ∨ v.get "type" = some (.string "argon2id")) ∧
        WritesField v "time" time ∧ WritesField v "memory" memory ∧ WritesField v "cpus" cpus

/-- A keyslot object writes these costs. -/
def WritesCosts (v : Value) (c : Costs) : Prop :=
  ∃ kdf af, v.get "kdf" = some kdf ∧ v.get "af" = some af ∧ WritesKdf kdf c.kdf ∧
    WritesField af "stripes" c.stripes

variable {K : Crates} {v : Value} {id : String} {slot : Luks2Keyslot} {c : Costs}

/-- The costs of a function are those that were written, exactly when they fit. -/
theorem costs_parseKdf_eq_iff {kdf : Luks2Kdf} {k : KdfCosts} (h : parseKdf K v = some kdf)
    (hk : WritesKdf v k) : kdf.costs = k ↔ k.Fit := by
  cases k with
  | pbkdf2 iterations =>
    obtain ⟨htype, -, x, hx, hwrites⟩ := hk
    simp only [parseKdf, htype, Value.asStr, hx, Option.pure_def, Option.bind_eq_bind,
      Option.bind_some, if_true, Option.bind_eq_some_iff, Option.some.injEq] at h
    obtain ⟨salt, -, rfl⟩ := h
    rw [Luks2Kdf.costs, KdfCosts.pbkdf2.injEq, hwrites.toNat_asU64_eq_iff, KdfCosts.Fit]
  | argon2 time memory cpus =>
    obtain ⟨htype, ⟨-, x, hx, htime⟩, ⟨-, y, hy, hmemory⟩, -, z, hz, hcpus⟩ := hk
    -- both variants are parsed alike
    obtain ⟨kind, hkind, hne, hor⟩ : ∃ kind, v.get "type" = some (.string kind) ∧
        kind ≠ "pbkdf2" ∧ (kind = "argon2i" ∨ kind = "argon2id") := by
      rcases htype with htype | htype
      · exact ⟨_, htype, by decide, Or.inl rfl⟩
      · exact ⟨_, htype, by decide, Or.inr rfl⟩
    simp only [parseKdf, hkind, Value.asStr, hx, hy, hz, Option.pure_def, Option.bind_eq_bind,
      Option.bind_some, if_neg hne, if_pos hor, Option.bind_eq_some_iff, Option.some.injEq] at h
    obtain ⟨salt, -, rfl⟩ := h
    rw [Luks2Kdf.costs, KdfCosts.argon2.injEq, htime.toNat_asU64_eq_iff,
      hmemory.toNat_asU64_eq_iff, hcpus.toNat_asU64_eq_iff, KdfCosts.Fit]

/-- **The costs of a keyslot are those that were written, exactly when they fit.** -/
theorem costs_parseKeyslot_eq_iff (h : parseKeyslot K id v = some slot) (hc : WritesCosts v c) :
    slot.costs = c ↔ c.Fit := by
  obtain ⟨kdfv, af, hkdfv, haf, hk, -, x, hx, hwrites⟩ := hc
  simp only [parseKeyslot, hkdfv, haf, hx, Option.pure_def, Option.bind_eq_bind, Option.bind_some,
    Option.bind_eq_some_iff, Option.some.injEq] at h
  obtain ⟨area, -, kdf, hkdf, size, -, offset, -, areaSize, -, enc, -, rfl⟩ := h
  obtain ⟨k, n⟩ := c
  rw [Luks2Keyslot.costs, Costs.mk.injEq, costs_parseKdf_eq_iff hkdf hk, hwrites.toNat_asU64_eq_iff,
    Costs.Fit]

/-! ### What the code runs -/

/-- A key was derived with a function, and its hash or variant and its salt, at these costs. -/
def DerivedAt (K : Crates) (passphrase : Bytes) (keyLen : ℕ) (key : Bytes) :
    Luks2Kdf → KdfCosts → Prop
  | .pbkdf2 hash _ salt, .pbkdf2 iterations =>
      ∃ h, hashOf hash = .ok h ∧ key = K.pbkdf2Hmac h passphrase salt iterations keyLen
  | .argon2 kind _ _ _ salt, .argon2 time memory cpus =>
      ∃ alg, algorithmOf kind = .ok alg ∧
        K.argon2Hash alg memory time cpus passphrase salt keyLen = .ok key
  | _, _ => False

/-- **The code honours costs** of a keyslot: they are the parsed ones; a derivation that
does not end in a refusal ran at them; and so did the merge of the key material. -/
structure HonoursCosts (ρ : Type) [ImageReader ρ] (K : Crates) (slot : Luks2Keyslot) (c : Costs) :
    Prop where
  /-- They are the parsed ones. -/
  parsed : slot.costs = c
  /-- A derivation that returns a key ran at them. -/
  derived : ∀ clk d tried passphrase (w : World ρ) key,
    (deriveSlotKey K clk passphrase d slot tried w).out = .ok key →
      DerivedAt K passphrase slot.keySize.toNat key slot.kdf c.kdf
  /-- A merge that returns a candidate ran at them, on as much of the image as they ask for. -/
  merged : ∀ mode slotKey (w : World ρ) candidate, slot.keySize.toNat ≤ maxKeyBytes →
    (openMaterial K mode slot.afHash slotKey slot.areaOffset slot.keySize.toNat
      slot.afStripes.toNat w).out = .ok (some candidate) →
      ∃ hash plain, hashOf slot.afHash = .ok hash ∧
        Spec.xtsDecryptArea K mode slotKey (window (ImageReader.image w.reader)
          slot.areaOffset.toNat (Spec.sectorRounded (slot.keySize.toNat * c.stripes))) 512 0 =
            .ok plain ∧
        candidate = Spec.afMerge (K.digest hash) plain slot.keySize.toNat c.stripes

theorem Spec.derivedAt_of_deriveSlotKey {passphrase key : Bytes}
    (hpos : ∀ hash iterations salt, slot.kdf = .pbkdf2 hash iterations salt → 1 ≤ iterations.toNat)
    (h : Spec.deriveSlotKey K passphrase slot = .ok key) :
    DerivedAt K passphrase slot.keySize.toNat key slot.kdf slot.kdf.costs := by
  rw [Spec.deriveSlotKey] at h
  cases hk : slot.kdf with
  | argon2 kind time memory cpus salt =>
    rw [hk] at h
    exact Spec.exists_argon2Hash_of_deriveKeyArgon2 K h
  | pbkdf2 hash iterations salt =>
    rw [hk] at h
    change Spec.deriveKey K hash passphrase salt iterations _ = _ at h
    rw [Spec.deriveKey, max_eq_left (hpos hash iterations salt hk)] at h
    split_ifs at h
    obtain ⟨alg, halg, hkey⟩ := bind_eq_ok_iff.mp h
    exact ⟨alg, halg, (Except.ok.inj hkey).symm⟩

/-- A keyslot with the costs that were written honours them. -/
theorem honoursCosts_of_eq {ρ : Type} [ImageReader ρ] (hc : WritesCosts v c)
    (heq : slot.costs = c) : HonoursCosts ρ K slot c := by
  obtain ⟨kdfv, af, -, -, hk, -⟩ := hc
  refine ⟨heq, fun clk d tried passphrase w key hkey => ?_,
    fun mode slotKey w candidate hlen hcand => ?_⟩
  · have hanswers : AnswersUnless slot.Stops (ρ := ρ) (ImageReader.image w.reader)
        (d.Refuses clk) (fun _ => True) (id <$> deriveSlotKey K clk passphrase d slot tried)
        (Spec.deriveSlotKey K passphrase slot) := by
      rw [id_map]
      exact deriveSlotKey_answers K clk (permits_true [] d).derivation (fun _ he => he) passphrase
        slot tried
    rw [← heq]
    refine Spec.derivedAt_of_deriveSlotKey (fun hash iterations salt hkdf => ?_)
      (hanswers.eq_ok rfl hkey)
    rw [← heq, Luks2Keyslot.costs, hkdf] at hk
    exact hk.2.1
  · have hanswers : Answers (ρ := ρ) (ImageReader.image w.reader) (fun _ => False) (fun _ => True)
        (id <$> openMaterial K mode slot.afHash slotKey slot.areaOffset slot.keySize.toNat
          slot.afStripes.toNat)
        (Spec.openMaterial K (ImageReader.image w.reader) mode slot.afHash slotKey
          slot.areaOffset.toNat slot.keySize.toNat slot.afStripes.toNat) := by
      rw [id_map]
      exact openMaterial_answers K (permits_true _ ⟨0, 0⟩) mode slot.afHash slotKey slot.areaOffset
        slot.afStripes.toNat hlen
    -- the candidate was merged, so the count was not refused
    obtain ⟨-, -, plain, hplain, hmerge⟩ :=
      Spec.openMaterial_eq_some_iff.mp (hanswers.eq_ok rfl hcand)
    rw [Spec.merge] at hmerge
    split_ifs at hmerge
    obtain ⟨hash, hhash, hkey⟩ := bind_eq_ok_iff.mp hmerge
    subst heq
    exact ⟨hash, plain, hhash, hplain, (Except.ok.inj hkey).symm⟩

/-- **When written costs are honoured.** A keyslot that a header has from an entry of its
document, in which costs are written, is run with them exactly when they fit 32 bits. -/
theorem keyslot_honoursCosts_iff {ρ : Type} [ImageReader ρ] {data : Bytes} {header : Luks2Header}
    {root : Value} (hparse : Luks2Header.parse K data = .ok header)
    (hroot : Luks2Header.document K data = some root) (hv : (id, v) ∈ root.entries "keyslots")
    (hslot : parseKeyslot K id v = some slot) (hc : WritesCosts v c) :
    slot ∈ header.keyslots ∧ (HonoursCosts ρ K slot c ↔ c.Fit) := by
  refine ⟨?_, fun h => (costs_parseKeyslot_eq_iff hslot hc).mp h.parsed, fun h =>
    honoursCosts_of_eq hc ((costs_parseKeyslot_eq_iff hslot hc).mpr h)⟩
  obtain ⟨-, -, root', hroot', rfl⟩ := Luks2Header.parse_eq_ok_iff.mp hparse
  obtain rfl : root = root' := Option.some.inj (hroot.symm.trans hroot')
  exact List.mem_filterMap.mpr ⟨(id, v), hv, hslot⟩

namespace Sample

/-- The keyslot of the document writes its costs. -/
theorem exists_writesCosts (K : Crates) (m : Metadata)
    (hi : 1 ≤ m.iterations ∧ m.iterations < 2 ^ 64)
    (hs : 1 ≤ m.stripes ∧ m.stripes < 2 ^ 64) :
    ∃ v, ("0", v) ∈ (document m).entries "keyslots" ∧
      parseKeyslot K "0" v = some (m.slotRecord K) ∧
      WritesCosts v ⟨.pbkdf2 m.iterations, m.stripes⟩ :=
  ⟨_, List.mem_cons_self, rfl, _, _, rfl, rfl, ⟨rfl, hi.1, _, rfl, .number hi.2⟩, hs.1, _, rfl,
    .number hs.2⟩

/-- Metadata with an iteration count of 33 bits. -/
def bigCount : Metadata := { metadata with iterations := 4294968296 }

theorem fits_bigCount : bigCount.Fits :=
  Metadata.fits_of_texts (by decide +kernel) (by decide +kernel)

end Sample

theorem keyslot_honoursCosts_sample : ∃ slot ∈ (Sample.metadata.header
      (Sample.cratesOf Sample.metadata)).keyslots,
    HonoursCosts Cursor (Sample.cratesOf Sample.metadata) slot ⟨.pbkdf2 1000, 2⟩ := by
  obtain ⟨v, hv, hslot, hc⟩ := Sample.exists_writesCosts (Sample.cratesOf Sample.metadata)
    Sample.metadata (by decide) (by decide)
  obtain ⟨hmem, hiff⟩ := keyslot_honoursCosts_iff (ρ := Cursor)
    (Sample.parse_headerArea Sample.fits_metadata) (Sample.document_headerArea Sample.fits_metadata)
    hv hslot hc
  exact ⟨_, hmem, hiff.mpr ⟨show 1000 < 2 ^ 32 by decide, show 2 < 2 ^ 32 by decide⟩⟩

/-- **An iteration count of 33 bits is cut**, to 1000 here. -/
theorem not_honoursCosts_bigCount : ∃ header root v slot,
    Luks2Header.parse (Sample.cratesOf Sample.bigCount)
      (Sample.headerArea Sample.fits_bigCount).bytes = .ok header ∧
    Luks2Header.document (Sample.cratesOf Sample.bigCount)
      (Sample.headerArea Sample.fits_bigCount).bytes = some root ∧
    ("0", v) ∈ root.entries "keyslots" ∧
    parseKeyslot (Sample.cratesOf Sample.bigCount) "0" v = some slot ∧ slot ∈ header.keyslots ∧
    WritesCosts v ⟨.pbkdf2 4294968296, 2⟩ ∧ slot.costs = ⟨.pbkdf2 1000, 2⟩ ∧
    ¬HonoursCosts Cursor (Sample.cratesOf Sample.bigCount) slot ⟨.pbkdf2 4294968296, 2⟩ := by
  obtain ⟨v, hv, hslot, hc⟩ := Sample.exists_writesCosts (Sample.cratesOf Sample.bigCount)
    Sample.bigCount (by decide) (by decide)
  have hcosts : (Sample.bigCount.slotRecord (Sample.cratesOf Sample.bigCount)).costs =
      ⟨.pbkdf2 1000, 2⟩ := rfl
  refine ⟨_, _, v, _, Sample.parse_headerArea Sample.fits_bigCount,
    Sample.document_headerArea Sample.fits_bigCount, hv, hslot, List.mem_singleton_self _, hc,
    hcosts, fun h => ?_⟩
  have hparsed := h.parsed
  rw [hcosts] at hparsed
  exact absurd hparsed (by decide)

end Luks
