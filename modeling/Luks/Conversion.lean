import Luks.Format1
import Mathlib.Data.List.TakeDrop

/-!
# Converting LUKS1 to LUKS2

A LUKS1 header can be rewritten as the LUKS2 metadata of the same volume: a keyslot for
each active slot, in order, and one digest that lists them all (`Luks.Luks1Header.convert`).
The two formats are recovered by loops of their own. On a header and on its conversion
they are the same program, up to what the result says of the keyslot that accepted
(`Luks.recoverMasterKey_convert`): the same derivations and reads in the same order, the
same key, or the same error.

The loops differ in how they split the work. The second searches the digests of a header
for one that lists the keyslot, and after the conversion there is one digest to search.
-/

namespace Luks

open Basis

/-- The LUKS2 keyslot a LUKS1 keyslot is converted to. -/
def Keyslot.convert (h : Luks1Header) (id : String) (slot : Keyslot) : Luks2Keyslot where
  id := id
  keySize := h.keyBytes.toUInt64
  afStripes := slot.stripes
  afHash := h.hashSpec
  areaOffset := slot.keyMaterialOffset.toUInt64 * UInt64.ofNat sector
  areaSize := h.keyBytes.toUInt64 * slot.stripes.toUInt64
  areaEncryption := h.cipherName ++ "-" ++ h.cipherMode
  kdf := .pbkdf2 h.hashSpec slot.iterations slot.salt.toList

/-- The digest of the converted header, which lists every keyslot. -/
def Luks1Header.convertDigest (h : Luks1Header) (ids : ℕ → String) : Luks2Digest where
  kind := "pbkdf2"
  hash := h.hashSpec
  iterations := h.mkDigestIter
  salt := h.mkDigestSalt.toList
  digest := h.mkDigest.toList
  keyslots := (List.range h.activeKeyslots.length).map ids

/-- The conversion of a LUKS1 header, its `i`-th active keyslot under the id `ids i`. The
version, the segments and the size are those of `base`. -/
def Luks1Header.convert (h : Luks1Header) (ids : ℕ → String) (base : Luks2Header) :
    Luks2Header :=
  { base with
    keyslots := h.activeKeyslots.zipIdx.map fun (slot, i) => slot.convert h (ids i)
    digests := [h.convertDigest ids] }

/-- A name without a hyphen and a mode are what their joining by one splits to. -/
theorem splitEncryption_join {name : String} (mode : String) (hname : '-' ∉ name.toList) :
    splitEncryption (name ++ "-" ++ mode) = (name, mode) := by
  have hspan : (name ++ "-" ++ mode).toList.span (· ≠ '-') =
      (name.toList, '-' :: mode.toList) := by
    have hne : ∀ c ∈ name.toList, decide (c ≠ '-') = true := fun c hc =>
      decide_eq_true fun h => hname (h ▸ hc)
    rw [List.span_eq_takeWhile_dropWhile, String.toList_append, String.toList_append,
      List.append_assoc, List.takeWhile_append_of_pos hne, List.dropWhile_append_of_pos hne]
    simp
  rw [splitEncryption, hspan]
  simp only [String.ofList_toList]

section Programs

variable {ρ : Type} [ReadSeek ρ] (K : Crates) (clk : Clock) {h : Luks1Header}
  {ids : ℕ → String} {base : Luks2Header} (passphrase : Bytes) (deadline : UnlockDeadline)

omit [ReadSeek ρ] in
/-- The digest of the conversion accepts a candidate as the LUKS1 header does. -/
theorem tryDigest_convert (slot : Keyslot) (candidate : Bytes) {i : ℕ}
    (hi : i < h.activeKeyslots.length) :
    Option.map Recovered.key <$> (h.convert ids base).digests.findSomeM?
        (tryDigest (ρ := ρ) K clk deadline (slot.convert h (ids i)) i candidate) =
      do
        if ← verify K clk deadline i h.hashSpec candidate h.mkDigestSalt.toList h.mkDigestIter
            h.mkDigest.toList then
          return some candidate
        else return none := by
  have hlists : (slot.convert h (ids i)).id ∈ (h.convertDigest ids).keyslots :=
    List.mem_map.mpr ⟨i, List.mem_range.mpr hi, rfl⟩
  change Option.map Recovered.key <$> List.findSomeM? _ [h.convertDigest ids] = _
  rw [findSomeM?_singleton, tryDigest, if_pos ⟨rfl, hlists⟩, map_bind]
  refine bind_congr fun accepted => ?_
  cases accepted <;> simp

/-- **A converted keyslot is tried as the original is.** -/
theorem tryKeyslot_convert (hname : '-' ∉ h.cipherName.toList) (slot : Keyslot) {i : ℕ}
    (hi : i < h.activeKeyslots.length) :
    Option.map Recovered.key <$>
        tryKeyslot1 (ρ := ρ) K clk h passphrase h.keyBytes.toNat deadline slot i =
      Option.map Recovered.key <$> tryKeyslot2 K clk (h.convert ids base) passphrase deadline
        (slot.convert h (ids i)) i := by
  have hmode : (splitEncryption (slot.convert h (ids i)).areaEncryption).2 = h.cipherMode :=
    congrArg Prod.snd (splitEncryption_join h.cipherMode hname)
  have hkey : (slot.convert h (ids i)).keySize.toNat = h.keyBytes.toNat :=
    UInt32.toNat_toUInt64 h.keyBytes
  have hderive : deriveSlotKey (ρ := ρ) K clk passphrase deadline (slot.convert h (ids i)) i =
      deadline.remaining clk i >>= deriveKeyWithin K clk h.hashSpec passphrase
        slot.salt.toList slot.iterations h.keyBytes.toNat := by
    rw [← hkey]
    rfl
  rw [tryKeyslot1, tryKeyslot2, hderive, hmode, hkey, bind_assoc, map_bind, map_bind]
  -- step by step: the time left, the key of the slot, the candidate, the digest
  refine bind_congr fun left => ?_
  rw [map_bind, map_bind]
  refine bind_congr fun slotKey => ?_
  rw [map_bind, map_bind]
  refine bind_congr fun candidate => ?_
  cases candidate with
  | none => simp
  | some candidate =>
    rw [tryDigest_convert K clk deadline slot candidate hi, map_bind]
    refine bind_congr fun accepted => ?_
    cases accepted <;> simp

/-- **The two recovery loops agree on converted volumes.** On a LUKS1 header, its cipher
name without a hyphen, and on its conversion they run the same program up to the key. -/
theorem recoverMasterKey_convert (ids : ℕ → String) (base : Luks2Header)
    (hname : '-' ∉ h.cipherName.toList) :
    Recovered.key <$>
        recoverMasterKey1 (ρ := ρ) K clk h passphrase h.keyBytes.toNat deadline =
      Recovered.key <$> recoverMasterKey2 K clk (h.convert ids base) passphrase deadline := by
  have hkeyslots : (h.convert ids base).keyslots.zipIdx =
      h.activeKeyslots.zipIdx.map fun p => (p.1.convert h (ids p.2), p.2) :=
    zipIdx_map_zipIdx (fun p : Keyslot × ℕ => p.1.convert h (ids p.2)) h.activeKeyslots
  have hloop : Option.map Recovered.key <$> (h.activeKeyslots.zipIdx.findSomeM? fun p =>
        tryKeyslot1 (ρ := ρ) K clk h passphrase h.keyBytes.toNat deadline p.1 p.2) =
      Option.map Recovered.key <$> (h.convert ids base).keyslots.zipIdx.findSomeM? fun p =>
        tryKeyslot2 K clk (h.convert ids base) passphrase deadline p.1 p.2 := by
    rw [hkeyslots, findSomeM?_map, map_findSomeM?, map_findSomeM?]
    refine findSomeM?_congr fun p hp => ?_
    exact tryKeyslot_convert K clk passphrase deadline hname p.1 (List.snd_lt_of_mem_zipIdx hp)
  rw [recoverMasterKey1, recoverMasterKey2, map_bind, map_bind]
  -- what follows the loop asks of its result no more than the key
  refine bind_eq_of_map_eq hloop (fun key? => key?.elim (Prog.throw .authenticationFailed) pure) ?_
  intro found
  cases found with
  | none => rfl
  | some found => simp

end Programs

theorem recoverMasterKey_convert_sample :
    Recovered.key <$> recoverMasterKey1 (ρ := Cursor) Sample.crates1 Sample.clock
        (Sample.format1.header Sample.crates1) Sample.passphrase
        (Sample.format1.header Sample.crates1).keyBytes.toNat ⟨0, unlockBudget⟩ =
      Recovered.key <$> recoverMasterKey2 Sample.crates1 Sample.clock
        ((Sample.format1.header Sample.crates1).convert Nat.repr ⟨2, 16384, [], [], []⟩)
        Sample.passphrase ⟨0, unlockBudget⟩ :=
  recoverMasterKey_convert _ _ _ _ _ _ (show '-' ∉ "aes".toList by decide)

end Luks
