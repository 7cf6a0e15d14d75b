import Luks.Encryption
import Luks.PayloadFile
import Luks.Recovery
import Luks.Tables
import Luks.Tks1

/-!
# What a formatter writes

A formatter splits a master key anti-forensically and encrypts the stripes under the
key of a slot. That is no part of the code, which only reads; it is here to say what a
well-made container is.

Merging undoes splitting, whatever the stripes were filled with
(`Luks.Spec.afMerge_afSplit`), so key material opens to the master key
(`Luks.Spec.openMaterial_of_material`); and an encrypted payload shows its plaintext
(`Luks.DecryptedPayload.shows_of_encryptArea`).
-/

namespace Luks

open Basis

variable {K : Crates} {enc : Encipher} {key plain : Bytes} {k : ℕ}

/-! ### The anti-forensic splitter -/

/-- An accumulator after a list of blocks: each is XORed in, and diffused. -/
def absorb (D : Digest) (acc : Bytes) (blocks : List Bytes) : Bytes :=
  blocks.foldl (fun acc block => Tks1.diffuse D (Tks1.xor acc block)) acc

/-- A master key split to the blocks `filler` and one more. -/
def afSplit (D : Digest) (key : Bytes) (filler : List Bytes) : Bytes :=
  filler.flatten ++ Tks1.xor (absorb D (List.replicate key.length 0) filler) key

section Splitting

variable {D : Digest} {filler : List Bytes}

/-- Absorbing blocks of one length leaves an accumulator of that length. -/
theorem length_absorb (D : Digest) {acc : Bytes} {blocks : List Bytes}
    (h : ∀ b ∈ blocks, b.length = acc.length) : (absorb D acc blocks).length = acc.length := by
  induction blocks generalizing acc with
  | nil => rfl
  | cons b blocks ih =>
    have hb : acc.length = b.length := (h b (by simp)).symm
    have hlen : (diffuseFrom D 0 (xorInto acc b)).length = acc.length := by simp
    rw [absorb, List.foldl_cons, ← absorb, reference_diffuse_xor D hb,
      ih fun b' hb' => (h b' (by simp [hb'])).trans hlen.symm, hlen]

/-- The accumulator that the last stripe is made with. -/
theorem length_absorb_zeros {n : ℕ} (h : ∀ b ∈ filler, b.length = n) :
    (absorb D (List.replicate n 0) filler).length = n := by
  rw [length_absorb D fun b hb => (h b hb).trans List.length_replicate.symm, List.length_replicate]

/-- The last stripe, with the XOR of the code. -/
theorem afSplit_eq (hfiller : ∀ b ∈ filler, b.length = key.length) : afSplit D key filler =
    filler.flatten ++ xorInto (absorb D (List.replicate key.length 0) filler) key := by
  rw [afSplit, xorInto_eq_xor (length_absorb_zeros hfiller)]

theorem length_afSplit (hfiller : ∀ b ∈ filler, b.length = key.length) :
    (afSplit D key filler).length = key.length * (filler.length + 1) := by
  rw [afSplit_eq hfiller, List.length_append, length_flatten_of_length hfiller, length_xorInto,
    length_absorb_zeros hfiller, Nat.mul_succ, Nat.mul_comm]

namespace Spec

/-- Merging absorbs the filler, block after block. -/
theorem mergeBlocks_flatten {n m : ℕ} (hfiller : ∀ b ∈ filler, b.length = n) (rest : Bytes)
    (hm : m ≤ filler.length) : mergeBlocks D (filler.flatten ++ rest) n m =
      absorb D (List.replicate n 0) (filler.take m) := by
  induction m with
  | zero => rfl
  | succ m ih =>
    have hlt : m < filler.length := hm
    have hflat := length_flatten_of_length hfiller
    have hmul := Nat.mul_le_mul_right n hm
    rw [Nat.succ_mul] at hmul
    -- block `m` of the material is stripe `m` of the filler
    have hblock : slice? (filler.flatten ++ rest) (m * n) (m * n + n) = some filler[m] := by
      have hwin := window_flatten (w := 0) (k := n) hfiller hlt (by omega)
      rw [Nat.add_zero, window_of_length (hfiller _ (List.getElem_mem hlt))] at hwin
      rw [slice?_of_le (by omega) (by rw [List.length_append]; omega), Nat.add_sub_cancel_left,
        window_append_left (by omega), hwin]
    have hstep : mergeBlocks D (filler.flatten ++ rest) n (m + 1) =
        mergeStep D (filler.flatten ++ rest) n (mergeBlocks D (filler.flatten ++ rest) n m) m := by
      rw [mergeBlocks, List.range_succ, List.foldl_append]
      rfl
    have hacc : (absorb D (List.replicate n 0) (filler.take m)).length = filler[m].length :=
      (length_absorb_zeros fun b hb => hfiller b (List.mem_of_mem_take hb)).trans
        (hfiller _ (List.getElem_mem hlt)).symm
    rw [hstep, ih (by omega), mergeStep, hblock, List.take_succ_eq_append_getElem hlt]
    dsimp only
    rw [← reference_diffuse_xor D hacc, absorb, absorb, List.foldl_append]
    rfl

/-- **Merging undoes splitting**, whatever the blocks were filled with and whatever
follows. -/
theorem afMerge_afSplit (hfiller : ∀ b ∈ filler, b.length = key.length) (pad : Bytes) :
    afMerge D (afSplit D key filler ++ pad) key.length (filler.length + 1) = key := by
  have hflat := length_flatten_of_length hfiller
  have hlen := length_afSplit (D := D) hfiller
  have hlast : slice? (afSplit D key filler ++ pad) (filler.length * key.length)
      (filler.length * key.length + key.length) =
        some (xorInto (absorb D (List.replicate key.length 0) filler) key) := by
    have hfit : filler.length * key.length + key.length ≤ (afSplit D key filler).length := by
      rw [hlen, Nat.mul_succ, Nat.mul_comm]
    rw [slice?_of_le (by omega) (by rw [List.length_append]; omega), Nat.add_sub_cancel_left,
      window_append_left hfit, afSplit_eq hfiller, window_append_right (by omega), hflat,
      Nat.sub_self, window_of_length (by rw [length_xorInto, length_absorb_zeros hfiller])]
  have hacc : (absorb D (List.replicate key.length 0) filler).length = key.length :=
    length_absorb_zeros hfiller
  rw [afMerge, Nat.add_sub_cancel, hlast, afSplit_eq hfiller, List.append_assoc,
    mergeBlocks_flatten hfiller _ (le_refl _), List.take_length]
  change xorInto _ (xorInto _ key) = key
  rw [xorInto_comm hacc, xorInto_comm (by rw [length_xorInto, hacc]), xorInto_xorInto]

end Spec

end Splitting

/-! ### Key material -/

/-- The name a header gives a hash. -/
def Hash.name : Hash → String
  | sha1 => "sha1"
  | sha256 => "sha256"
  | sha512 => "sha512"

@[simp] theorem hashOf_name (h : Hash) : hashOf h.name = .ok h := by
  cases h <;> rfl

theorem supportedHash_name (h : Hash) : SupportedHash h.name := by
  cases h <;> decide

/-- The stripes of a keyslot: what they are filled with, and what the last sector is
filled up with. -/
structure Stripes (keyLen : ℕ) where
  /-- The blocks before the last. -/
  filler : List Bytes
  /-- The bytes after the last. -/
  pad : Bytes
  /-- Each block has the size of a key. -/
  length_filler : ∀ b ∈ filler, b.length = keyLen
  /-- Blocks and padding make whole sectors. -/
  length_pad : keyLen * (filler.length + 1) + pad.length =
    Spec.sectorRounded (keyLen * (filler.length + 1))
  /-- There are not too many. -/
  count_le : filler.length + 1 ≤ maxStripes

namespace Stripes

/-- How many stripes there are. -/
def count {keyLen : ℕ} (s : Stripes keyLen) : ℕ := s.filler.length + 1

variable {masterKey : Bytes} (s : Stripes masterKey.length)

/-- The key material before it is encrypted. -/
def split (D : Digest) : Bytes := afSplit D masterKey s.filler ++ s.pad

/-- The key material of a master key, encrypted under the key of a slot. -/
def material (D : Digest) (enc : Encipher) (slotKey : Bytes) : Bytes :=
  encryptArea enc slotKey (s.split D) 512 0

theorem length_split (D : Digest) :
    (s.split D).length = Spec.sectorRounded (masterKey.length * s.count) := by
  rw [split, List.length_append, length_afSplit s.length_filler]
  exact s.length_pad

theorem length_material (h : Inverts K enc) (D : Digest) (slotKey : Bytes) :
    (s.material D enc slotKey).length = Spec.sectorRounded (masterKey.length * s.count) := by
  obtain ⟨k, hk⟩ := Spec.sectorRounded_eq_mul (masterKey.length * s.count)
  rw [material, h.length_encryptArea (by omega) ((s.length_split D).trans hk), hk]

end Stripes

/-- The stripes of the master key. -/
def Sample.stripes : Stripes Sample.masterKey.length where
  filler := [Sample.filler]
  pad := List.replicate 448 0
  length_filler := by decide
  length_pad := by
    rw [List.length_replicate]
    rfl
  count_le := by decide

/-- **Key material opens to the master key** under the key of its slot. -/
theorem Spec.openMaterial_of_material (h : Inverts K enc) {img masterKey slotKey : Bytes}
    {offset : ℕ} (s : Stripes masterKey.length) (hash : Hash) (hkey : IsXtsKey slotKey)
    (himg : window img offset (Spec.sectorRounded (masterKey.length * s.count)) =
      s.material (K.digest hash) enc slotKey) :
    Spec.openMaterial K img "xts-plain64" hash.name slotKey offset masterKey.length s.count =
      .ok (some masterKey) := by
  obtain ⟨k, hk⟩ := Spec.sectorRounded_eq_mul (masterKey.length * s.count)
  have hcount : s.count ≤ maxStripes := s.count_le
  refine Spec.openMaterial_eq_some_iff.mpr ⟨hcount, ?_, s.split (K.digest hash), ?_, ?_⟩
  · rw [inside_iff, himg, s.length_material h]
    omega
  · rw [himg, Stripes.material]
    exact Spec.xtsDecryptArea_encryptArea h hkey (by omega) ((s.length_split _).trans hk) 0
  · rw [Spec.merge, if_neg (Nat.not_lt_of_le hcount), hashOf_name]
    exact congrArg Except.ok (Spec.afMerge_afSplit s.length_filler s.pad)

/-- Key material that is all there opens to some candidate under any key of a good
size. -/
theorem Spec.exists_openMaterial {img slotKey : Bytes} {offset blockSize stripes : ℕ}
    (hash : Hash) (hkey : IsXtsKey slotKey) (hcount : stripes ≤ maxStripes)
    (hin : Inside img offset (Spec.sectorRounded (blockSize * stripes))) :
    ∃ c, Spec.openMaterial K img "xts-plain64" hash.name slotKey offset blockSize stripes =
      .ok (some c) := by
  obtain ⟨dec, hdec⟩ : ∃ dec, xtsCipher K slotKey = .ok dec := by
    rw [xtsCipher]
    rcases hkey with hkey | hkey
    · exact ⟨_, if_pos hkey⟩
    · exact ⟨_, by rw [if_neg (by omega), if_pos hkey]⟩
  have hmerge : ∀ plain, ∃ c, Spec.merge K hash.name plain blockSize stripes = .ok c := by
    intro plain
    rw [Spec.merge, if_neg (Nat.not_lt_of_le hcount), hashOf_name]
    exact ⟨_, rfl⟩
  obtain ⟨c, hc⟩ := hmerge _
  exact ⟨c, Spec.openMaterial_eq_some_iff.mpr ⟨hcount, hin, _,
    (Spec.xtsDecryptArea_eq_ok_iff K).mpr ⟨rfl, dec, hdec, rfl⟩, hc⟩⟩

/-- PBKDF2 with a hash that has a name. -/
theorem Spec.deriveKey_name (hash : Hash) (password salt : Bytes) {iterations : UInt32}
    {keyLen : ℕ} (hiter : 1 ≤ iterations.toNat) (hlen : keyLen ≤ maxKeyBytes) :
    Spec.deriveKey K hash.name password salt iterations keyLen =
      .ok (K.pbkdf2Hmac hash password salt iterations.toNat keyLen) := by
  rw [Spec.deriveKey, if_neg (Nat.not_lt_of_le hlen), pbkdf2Into, hashOf_name, max_eq_left hiter]
  rfl

/-! ### Payloads -/

/-- **A payload shows the plaintext** it was encrypted from. -/
theorem DecryptedPayload.shows_of_encryptArea {ρ : Type} [ImageReader ρ] (h : Inverts K enc)
    {p : DecryptedPayload ρ} {q : DecryptedPayload Bytes} (hpq : p.map ImageReader.image = q)
    (hmode : q.cipherMode = "xts-plain64") (hkey : IsXtsKey q.masterKey)
    (hlen : plain.length = k * q.unitSize)
    (hfit : q.payloadOffset.toNat + plain.length ≤ q.reader.length)
    (himg : window q.reader q.payloadOffset.toNat plain.length =
      encryptArea enc q.masterKey plain q.unitSize q.ivTweak.toNat)
    (htweak : ∀ u < k, q.ivTweak.toNat + u * tweakStep q.unitSize < 2 ^ 128) :
    Shows K p q.reader plain k := by
  have hunit : 512 ≤ q.unitSize := q.sector_le
  have hbulk := Spec.xtsDecryptArea_encryptArea h hkey hunit hlen q.ivTweak.toNat
  rw [← himg, ← hmode] at hbulk
  subst hpq
  exact ⟨rfl, fun _ => hfit, Spec.decrypts_of_bulk (n := plain.length) hlen hfit hbulk, htweak⟩

end Luks
