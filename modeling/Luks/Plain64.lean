import Luks.Addresses
import Luks.Geometry
import Luks.WholeUnits

/-!
# Tweaks of 64 bits

The tweak of a data unit is named `plain64`: its number of 512-byte sectors, in 64 bits,
the lowest byte first, and eight bytes of zero after it (`Luks.plain64`). The code forms
the number in 128 bits and writes all sixteen of them. For a sector of key material, which
is counted from zero, the two are the same. For a unit of a payload the count starts where
the header says, at any number of 64 bits, and a sum that needs one more carries into the
bytes that should be zero, where a count in 64 bits starts again.

A read has the tweaks it should exactly when no unit that it decrypts is counted beyond 64
bits (`Luks.usesPlain64_iff`).
-/

namespace Luks

open Basis

/-! ### A sector number of 64 bits -/

/-- The tweak of a sector number: its 64 low bits, the lowest byte first, in the low half
of the block. -/
def plain64 (n : ℕ) : Bytes := toLe 8 (n % 2 ^ 64) ++ List.replicate 8 0

theorem fromLe_plain64 (n : ℕ) : fromLe (plain64 n) = n % 2 ^ 64 := by
  rw [plain64, fromLe_append, fromLe_toLe, fromLe_replicate_zero, Nat.mul_zero, Nat.add_zero]
  exact Nat.mod_mod n (2 ^ 64)

/-- Below 2^64, it is what the code writes. -/
theorem toLe_eq_plain64 {n : ℕ} (h : n < 2 ^ 64) : toLe 16 n = plain64 n := by
  have hlen : (plain64 n).length = 16 := by
    rw [plain64, List.length_append, length_toLe, List.length_replicate]
  have hbytes := toLe_fromLe (plain64 n)
  rwa [hlen, fromLe_plain64, Nat.mod_eq_of_lt h] at hbytes

/-- What the code writes is the tweak of no other number. -/
theorem lt_of_toLe_eq_plain64 {n m : ℕ} (hn : n < 2 ^ 128) (h : toLe 16 n = plain64 m) :
    n < 2 ^ 64 := by
  have hvalue := congrArg fromLe h
  rw [fromLe_toLe, fromLe_plain64, Nat.mod_eq_of_lt (lt_of_lt_of_eq hn (by decide))] at hvalue
  omega

/-! ### The tweaks there should be -/

/-- The vocabulary of an unlock whose tweaks are those there should be: sector `u` of key
material has that of `u`. -/
def unlockPlain64 : Vocabulary :=
  { unlockVocabulary IsPreparation with sectorTweak := fun u tweak => tweak = plain64 u }

/-- The vocabulary of a read whose tweaks are those there should be: unit `n` of the payload
has that of its first sector, counted from the first tweak. -/
def DecryptedPayload.readPlain64 {ρ : Type} (p : DecryptedPayload ρ) : Vocabulary where
  unitSize := p.unitSize
  other := IsPreparation
  sectorTweak _ _ := False
  unitTweak physical tweak := ∃ n, physical = p.payloadOffset.toNat + n * p.unitSize ∧
    tweak = plain64 (p.ivTweak.toNat + n * (p.unitSize / 512))

/-- Every tweak is the one there should be: in every unlock, and in a read. -/
structure UsesPlain64 {ρ : Type} [ReadSeek ρ] (K : Crates) (p : DecryptedPayload ρ)
    (offset : UInt64) (len : ℕ) : Prop where
  /-- Every sector of key material has its own. -/
  material : ∀ (e : EntryPoint) clk passphrase budget (w : World ρ),
    MadeOf unlockPlain64.words begun (e.unlock K clk passphrase budget w)
  /-- Every unit that the read decrypts has its own. -/
  unit : MadeOf p.readPlain64.words begun (DecryptedPayload.readAt K offset len p)

/-- **Every sector of key material** has the tweak it should. -/
theorem EntryPoint.unlock_plain64 {ρ : Type} [ReadSeek ρ] (K : Crates) (e : EntryPoint)
    (clk : Clock) (passphrase : Bytes) (budget : Duration) (w : World ρ) :
    MadeOf unlockPlain64.words begun (e.unlock K clk passphrase budget w) := by
  refine MadeOf.mono (mem_words_of_mem (V := unlockVocabulary IsPreparation) rfl (fun _ hv => hv)
    (fun u tweak hu => ?_) fun _ _ hu => hu) (e.unlock_traced K clk passphrase budget w)
  exact hu.2.trans (toLe_eq_plain64 hu.1)

/-! ### What a read decrypts -/

section Units

variable {ρ τ : Type} {K : Crates} {p : DecryptedPayload τ} {offset len pos n : ℕ}

theorem tweakStep_unitSize (p : DecryptedPayload τ) : tweakStep p.unitSize = p.unitSize / 512 :=
  tweakStep_of_le p.sector_le

/-- A unit that is decrypted has a tweak of 128 bits. -/
theorem tweak_lt_of_decrypts (htweak : p.ivTweak.toNat < 2 ^ 64) (h : p.Decrypts offset len n) :
    p.ivTweak.toNat + n * tweakStep p.unitSize < 2 ^ 128 := by
  have haddress : p.unitAddress (n * p.unitSize) < 2 ^ 64 := by
    rw [DecryptedPayload.unitAddress, Nat.mul_div_cancel n p.unitSize_pos]
    exact h.address_lt
  have hlt := tweak_lt_of_unitAddress_lt htweak haddress
  rwa [Nat.mul_div_cancel n p.unitSize_pos] at hlt

/-- **A unit that is decrypted** leaves its tweak. -/
theorem sector_mem_events_readUnit [ReadSeek ρ] (haddress : p.unitAddress pos < 2 ^ 64)
    (htweak : p.ivTweak.toNat + pos / p.unitSize * tweakStep p.unitSize < 2 ^ 128) {r : ρ}
    {plain : Bytes} (h : (p.readUnit K pos r).out = .ok plain) :
    .sector p.unitSize (toLe 16 (p.ivTweak.toNat + pos / p.unitSize * tweakStep p.unitSize)) ∈
      (p.readUnit K pos r).events := by
  rw [DecryptedPayload.unitAddress] at haddress
  rw [DecryptedPayload.readUnit, mulU64_of_lt (by omega), pure_bind, addU64_of_lt haddress,
    pure_bind] at h ⊢
  obtain ⟨buf, hbuf, h⟩ := Prog.bind_out_eq_ok_iff.mp h
  obtain ⟨ct, hct, h⟩ := Prog.bind_out_eq_ok_iff.mp h
  refine Prog.mem_events_bind_right hbuf (Prog.mem_events_bind_right hct ?_)
  refine Prog.mem_events_bind_right (a := ()) rfl ?_
  obtain ⟨-, -, h⟩ := Prog.bind_out_eq_ok_iff.mp h
  rw [mulU128_of_lt (by omega), pure_bind, addU128_of_lt htweak, pure_bind] at h ⊢
  -- the ciphertext is one unit, so its only tweak is that of the first sector
  have hunit : ct.2.length = 1 * p.unitSize := by
    rw [readAvailableAt_gives _ _ _ _ hct, Nat.one_mul]
  have hle : 16 ≤ p.unitSize := le_trans (by decide) p.sector_le
  rcases xtsDecryptArea_events K p.cipherMode p.masterKey hle hunit (fun u hu => by
    obtain rfl : u = 0 := by omega
    rwa [Nat.zero_mul, Nat.add_zero]) _ with ⟨-, hev⟩ | ⟨-, hne⟩
  · rw [hev, tweaksOf_one]
    exact List.mem_singleton_self _
  · exact absurd h (hne plain)

variable [ImageReader ρ]

/-- **Every unit that a read touches is decrypted**, if it has an address and there is a
key: the passes before it go through. -/
theorem sector_mem_events_readUnits (hkey : IsXtsKey p.masterKey)
    (htweak : p.ivTweak.toNat < 2 ^ 64) (hn : p.Decrypts offset len n) {done : ℕ}
    (hdone : done < len) (hpos : offset + done < 2 ^ 64)
    (hle : (offset + done) / p.unitSize ≤ n) (r : ρ) :
    .sector p.unitSize (toLe 16 (p.ivTweak.toNat + n * tweakStep p.unitSize)) ∈
      (p.readUnits K offset len done r).events := by
  obtain ⟨dec, hdec⟩ := (Spec.exists_xtsCipher_iff (K := K)).mpr hkey
  -- from any state of the reader
  induction done using p.loop_induct len generalizing r with
  | stop done hge => exact absurd hdone (Nat.not_lt_of_le hge)
  | pass done _ ih =>
    have haddress : p.unitAddress (offset + done) < 2 ^ 64 :=
      lt_of_le_of_lt (Nat.add_le_add_left (Nat.mul_le_mul_right _ hle) _) hn.address_lt
    have hfit := tweak_lt_of_unitAddress_lt htweak haddress
    have hout := readUnit_out K p haddress hn.size_le hfit r
    rw [Spec.decryptedUnit_eq (p := p.map fun _ => ImageReader.image r) hn.mode hdec] at hout
    rw [p.readUnits_of_lt K hdone, addU64_of_lt hpos, pure_bind]
    rcases Nat.lt_or_ge ((offset + done) / p.unitSize) n with hlt | hge
    -- the next pass starts at the front of the next unit
    · have hends := hn.ends
      have hnext : ((offset + done) / p.unitSize + 1) * p.unitSize ≤ n * p.unitSize :=
        Nat.mul_le_mul_right _ hlt
      have hstart : offset +
          (done + min (p.unitSize - (offset + done) % p.unitSize) (len - done)) =
          ((offset + done) / p.unitSize + 1) * p.unitSize := by
        have hdiv := Nat.div_add_mod' (offset + done) p.unitSize
        have hmod := Nat.mod_lt (offset + done) p.unitSize_pos
        rw [Nat.succ_mul] at hnext ⊢
        omega
      have haddress' := hn.address_lt
      refine Prog.mem_events_bind_right hout (Prog.mem_events_bind_left
        (ih (offset + done) (by omega) (by omega) ?_ _))
      rw [hstart, Nat.mul_div_cancel _ p.unitSize_pos]
      exact hlt
    -- it is this one
    · obtain rfl : (offset + done) / p.unitSize = n := Nat.le_antisymm hle hge
      exact Prog.mem_events_bind_left (sector_mem_events_readUnit haddress hfit hout)

end Units

/-! ### When every tweak is the one there should be -/

section Reads

variable {ρ : Type} {K : Crates} {p : DecryptedPayload ρ} {offset : UInt64} {len : ℕ}

/-- Where no unit that is decrypted is counted beyond 64 bits, every tweak is the one there
should be. -/
theorem usesPlain64_of_lt [ReadSeek ρ] (h : ∀ n, p.Decrypts offset.toNat len n →
    p.ivTweak.toNat + n * (p.unitSize / 512) < 2 ^ 64) : UsesPlain64 K p offset len where
  material e clk passphrase budget w := e.unlock_plain64 K clk passphrase budget w
  unit := by
    refine MadeOf.mono (mem_words_of_mem (V := p.readVocabulary offset.toNat len) rfl
      (fun _ hv => hv) (fun _ _ hu => hu) ?_) (p.readAt_madeOf K offset len)
    rintro physical tweak ⟨n, hn, hphysical, htweak⟩
    rw [tweakStep_unitSize p] at htweak
    exact ⟨n, hphysical, htweak.trans (toLe_eq_plain64 (h n hn))⟩

/-- A tweak is one of 64 bits. -/
def IsPlain64 : Event → Prop
  | .sector _ tweak => ∃ m, tweak = plain64 m
  | _ => True

/-- Where every tweak is the one there should be, no unit that is decrypted is counted
beyond 64 bits. -/
theorem lt_of_usesPlain64 [ImageReader ρ] (hkey : IsXtsKey p.masterKey)
    (htweak : p.ivTweak.toNat < 2 ^ 64) (h : UsesPlain64 K p offset len) {n : ℕ}
    (hn : p.Decrypts offset.toNat len n) :
    p.ivTweak.toNat + n * (p.unitSize / 512) < 2 ^ 64 := by
  have hall : ∀ v ∈ (DecryptedPayload.readAt K offset len p).events, IsPlain64 v := by
    refine forall_mem_of_madeOf h.unit (fun v hv => ?_) (fun _ _ => trivial) (fun _ => trivial)
      (fun _ _ hu => hu.elim) fun _ _ hu => ?_
    · cases v <;> trivial
    · obtain ⟨n, -, rfl⟩ := hu
      exact ⟨_, rfl⟩
  have hfirst : offset.toNat / p.unitSize ≤ n :=
    Nat.le_of_lt_succ ((Nat.div_lt_iff_lt_mul p.unitSize_pos).mpr hn.starts)
  obtain ⟨m, hm⟩ := hall _ (sector_mem_events_readUnits hkey htweak hn hn.asks offset.toNat_lt
    hfirst p.reader)
  have hlt := lt_of_toLe_eq_plain64 (tweak_lt_of_decrypts htweak hn) hm
  rwa [tweakStep_unitSize p] at hlt

theorem decrypts_movedTo {r : ρ} {pos : UInt64} {offset n : ℕ} :
    (p.movedTo r pos).Decrypts offset len n ↔ p.Decrypts offset len n :=
  ⟨fun ⟨h₁, h₂, h₃, h₄, h₅, h₆⟩ => ⟨h₁, h₂, h₃, h₄, h₅, h₆⟩,
    fun ⟨h₁, h₂, h₃, h₄, h₅, h₆⟩ => ⟨h₁, h₂, h₃, h₄, h₅, h₆⟩⟩

end Reads

/-- **When every tweak is the one there should be.** In every unlock, and in every read of
an unlocked volume, after any calls: a sector of key material, and a unit of the payload,
has for its tweak the 64 low bits of its number of sectors, and eight bytes of zero after
them, exactly when for every unit that the read decrypts that number has no more than 64
bits. -/
theorem usesPlain64_iff {ρ : Type} [ImageReader ρ] (K : Crates) (r : ρ) (passphrase : Bytes)
    {u : Unlocked ρ} (hu : UnlockedFrom K r passphrase u) (calls : List File.Call)
    (offset : UInt64) (len : ℕ) :
    UsesPlain64 K (replies (DecryptedPayload.call K) u.payload calls).2 offset len ↔
      ∀ n, u.payload.Decrypts offset.toNat len n →
        u.payload.ivTweak.toNat + n * (u.payload.unitSize / 512) < 2 ^ 64 := by
  obtain ⟨hkey, htweak⟩ := hu.isXtsKey
  obtain ⟨r', pos, -, hmoved⟩ := DecryptedPayload.movedFrom_replies K (p := u.payload) calls
  rw [hmoved]
  constructor
  · intro h n hn
    exact lt_of_usesPlain64 (p := u.payload.movedTo r' pos) hkey htweak h
      (decrypts_movedTo.mpr hn)
  · intro h
    exact usesPlain64_of_lt fun n hn => h n (decrypts_movedTo.mp hn)

/-! ### A container that counts from the last number -/

namespace Sample

/-- The first tweak is the largest of 64 bits. -/
def lastTweak : Geometry := ⟨512, 512, 2 ^ 64 - 1⟩

theorem fits_lastTweak : lastTweak.Fits :=
  Geometry.fits_of_digits (by decide +kernel) (by decide +kernel)

/-- The volume of the container. -/
theorem exists_unlocked_lastTweak : ∃ u,
    UnlockedFrom lastTweak.crates (Geometry.reader fits_lastTweak) passphrase u ∧
      u.payload.cipherMode = "xts-plain64" ∧ u.payload.payloadOffset.toNat = 12288 ∧
        u.payload.unitSize = 512 ∧ u.payload.ivTweak.toNat = 2 ^ 64 - 1 := by
  obtain ⟨u, hu, himg⟩ := exists_unlockedFrom_of_accepts2 lastTweak.crates
    (Geometry.reader fits_lastTweak) passphrase (Geometry.isLuks2_image fits_lastTweak)
    (Geometry.accepts2_image fits_lastTweak)
  obtain ⟨hmode, hoffset, hunit, htweak⟩ := Unlocked.segment_of_map_eq himg
  refine ⟨u, hu, hmode.trans (by decide), ?_, hunit.trans (by decide), ?_⟩
  · rw [hoffset]
    decide
  · rw [htweak]
    decide

end Sample

/-- **A sum carries out of 64 bits**: on this container, in a read of the second sector of
the payload. -/
theorem not_usesPlain64_lastTweak :
    ¬∀ u, UnlockedFrom Sample.lastTweak.crates (Sample.Geometry.reader Sample.fits_lastTweak)
      Sample.passphrase u → UsesPlain64 Sample.lastTweak.crates u.payload 512 1 := by
  intro h
  obtain ⟨u, hu, hmode, hoffset, hunit, htweak⟩ := Sample.exists_unlocked_lastTweak
  obtain ⟨hkey, hlt⟩ := hu.isXtsKey
  have hdecrypts : u.payload.Decrypts (512 : UInt64).toNat 1 1 := by
    refine ⟨hmode, ?_, Nat.one_pos, ?_, ?_, ?_⟩ <;> rw [hunit]
    · decide
    · decide
    · decide
    · rw [hoffset]
      decide
  have hcount := lt_of_usesPlain64 hkey hlt (h u hu) hdecrypts
  rw [htweak, hunit] at hcount
  exact absurd hcount (by decide)

theorem usesPlain64_lastTweak : ∃ u,
    UnlockedFrom Sample.lastTweak.crates (Sample.Geometry.reader Sample.fits_lastTweak)
      Sample.passphrase u ∧ UsesPlain64 Sample.lastTweak.crates
        (replies (DecryptedPayload.call Sample.lastTweak.crates) u.payload []).2 0 512 := by
  obtain ⟨u, hu, -, -, hunit, htweak⟩ := Sample.exists_unlocked_lastTweak
  refine ⟨u, hu, (usesPlain64_iff _ _ _ hu [] 0 512).mpr fun n hn => ?_⟩
  -- the range is that of the first sector
  have hends : n * u.payload.unitSize < 0 + 512 := hn.ends
  rw [hunit] at hends
  obtain rfl : n = 0 := by omega
  rw [htweak, Nat.zero_mul]
  decide

end Luks
