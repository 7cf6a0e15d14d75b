import Luks.Blocking
import Luks.EntryPoints
import Luks.Triage

/-!
# What a failure names

An error names what is wrong, so that who looks into a container can act on it. Here is what
each one says: of the bytes of the container, of the keyslot that the unlock had come to, or
of the time it took (`Luks.EntryPoint.Fault`). An error that names a fault is true: the fault
is there (`Luks.unlock_names_fault`).

A keyslot is blamed only for what it asks for itself, or what its header or the digests that
list it do, and only where all keyslots before it were passed over. The time is blamed only
where the clock shows it.
-/

namespace Luks

open Basis

/-! ### Faults of a derivation -/

section Faults

variable (K : Crates) (clk : Clock) (total : Duration)

/-- What there is to blame in a derivation with PBKDF2, within a total. -/
inductive Pbkdf2Fault (hash : String) (iterations : UInt32) (keyLen : ℕ) : LuksError → Prop
  /-- The key would be too long. -/
  | keyLength (h : maxKeyBytes < keyLen) :
      Pbkdf2Fault hash iterations keyLen (.keyLengthExceeded keyLen maxKeyBytes)
  /-- The hash has no implementation. -/
  | hash (h : ¬SupportedHash hash) :
      Pbkdf2Fault hash iterations keyLen (.unsupported "hash" hash)
  /-- By the time that the calibration took, from one reading of the clock to the next, the
  count takes too long. -/
  | slow {left : Duration} {n : ℕ} (hleft : left ≤ min derivationBudget total)
      (hlarge : calibrationIters < iterations.toNat)
      (h : left < projectedPbkdf2 (clk.now (n + 1) - clk.now n) iterations.toNat) :
      Pbkdf2Fault hash iterations keyLen (.derivationBudgetExceeded iterations.toNat
        (projectedPbkdf2 (clk.now (n + 1) - clk.now n) iterations.toNat).asSecs left.asSecs)

/-- What there is to blame in a derivation with Argon2, within a total. -/
inductive Argon2Fault (p : Argon2Params) (keyLen : ℕ) : LuksError → Prop
  /-- There is no such variant. -/
  | variant (h : p.kind ≠ "argon2i" ∧ p.kind ≠ "argon2id") :
      Argon2Fault p keyLen (.unsupported "argon2 variant" p.kind)
  /-- The key would be too long. -/
  | keyLength (h : maxKeyBytes < keyLen) :
      Argon2Fault p keyLen (.keyLengthExceeded keyLen maxKeyBytes)
  /-- It takes too much memory. -/
  | memory (h : maxArgon2MemoryKib < p.memory.toNat) :
      Argon2Fault p keyLen (.derivationMemoryExceeded p.memory.toNat maxArgon2MemoryKib)
  /-- By the time that one pass took, from one reading of the clock to the next, the passes take
  too long. -/
  | slow {left : Duration} {n : ℕ} (hleft : left ≤ min derivationBudget total)
      (hmany : 1 < p.time.toNat)
      (h : left < projectedArgon2 (clk.now (n + 1) - clk.now n) p.time.toNat) :
      Argon2Fault p keyLen (.derivationBudgetExceeded p.time.toNat
        (projectedArgon2 (clk.now (n + 1) - clk.now n) p.time.toNat).asSecs left.asSecs)
  /-- The crate does not take the parameters, or not with a single pass. -/
  | parameters {passes : ℕ} {text : String} (hpasses : passes = 1 ∨ passes = p.time.toNat)
      (h : K.argon2Params p.memory.toNat passes p.cpus.toNat keyLen = .err text) :
      Argon2Fault p keyLen (.unsupported "argon2 params" text)
  /-- The crate fails to compute it. -/
  | crate {alg : Algorithm} {password : Bytes} {passes : ℕ} {text : String}
      (hpasses : passes = 1 ∨ passes = p.time.toNat)
      (h : K.argon2Hash alg p.memory.toNat passes p.cpus.toNat password p.salt keyLen =
        .error text) :
      Argon2Fault p keyLen (.unsupported "argon2" text)

/-- What there is to blame in the derivation of a LUKS2 keyslot. -/
def Luks2Kdf.Fault (keyLen : ℕ) : Luks2Kdf → LuksError → Prop
  | argon2 kind time memory cpus salt =>
      Argon2Fault K clk total ⟨kind, time, memory, cpus, salt⟩ keyLen
  | pbkdf2 hash iterations _ => Pbkdf2Fault clk total hash iterations keyLen

/-- What there is to blame in key material. -/
inductive MaterialFault (cipherMode hashSpec : String) (keyLen stripes : ℕ) : LuksError → Prop
  /-- It has too many stripes. -/
  | stripes (h : maxStripes < stripes) :
      MaterialFault cipherMode hashSpec keyLen stripes
        (.implausibleStripes stripes maxStripes keyLen)
  /-- It is encrypted in another mode. -/
  | mode (h : cipherMode ≠ "xts-plain64") :
      MaterialFault cipherMode hashSpec keyLen stripes (.unsupported "cipher mode" cipherMode)
  /-- Its key is no pair of AES keys. -/
  | keySize (h : keyLen ≠ 32 ∧ keyLen ≠ 64) :
      MaterialFault cipherMode hashSpec keyLen stripes
        (.unsupported "xts key size" (toString keyLen ++ " bytes"))
  /-- It is split with a hash that has no implementation. -/
  | hash (h : ¬SupportedHash hashSpec) :
      MaterialFault cipherMode hashSpec keyLen stripes (.unsupported "hash" hashSpec)

/-! ### Faults of a keyslot -/

/-- What there is to blame in a LUKS1 keyslot, when `tried` others were passed over. -/
inductive Keyslot.Fault (header : Luks1Header) (slot : Keyslot) (tried : ℕ) : LuksError → Prop
  /-- Since the clock was first read, the time is up. -/
  | late {n : ℕ} (h : total ≤ clk.now n - clk.now 0) :
      Keyslot.Fault header slot tried (.unlockBudgetExceeded tried total.asSecs)
  /-- The derivation of its key. -/
  | key {e : LuksError}
      (h : Pbkdf2Fault clk total header.hashSpec slot.iterations header.keyBytes.toNat e) :
      Keyslot.Fault header slot tried e
  /-- Its key material. -/
  | material {e : LuksError} (h : MaterialFault header.cipherMode header.hashSpec
      header.keyBytes.toNat slot.stripes.toNat e) : Keyslot.Fault header slot tried e
  /-- The digest of the header. -/
  | digest {e : LuksError}
      (h : Pbkdf2Fault clk total header.hashSpec header.mkDigestIter mkDigestLen e) :
      Keyslot.Fault header slot tried e

/-- What there is to blame in a LUKS2 keyslot, when `tried` others were passed over. -/
inductive Luks2Keyslot.Fault (digests : List Luks2Digest) (slot : Luks2Keyslot) (tried : ℕ) :
    LuksError → Prop
  /-- Since the clock was first read, the time is up. -/
  | late {n : ℕ} (h : total ≤ clk.now n - clk.now 0) :
      Luks2Keyslot.Fault digests slot tried (.unlockBudgetExceeded tried total.asSecs)
  /-- The derivation of its key. -/
  | key {e : LuksError} (h : slot.kdf.Fault K clk total slot.keySize.toNat e) :
      Luks2Keyslot.Fault digests slot tried e
  /-- Its key material. -/
  | material {e : LuksError} (h : MaterialFault (splitEncryption slot.areaEncryption).2 slot.afHash
      slot.keySize.toNat slot.afStripes.toNat e) : Luks2Keyslot.Fault digests slot tried e
  /-- A digest that lists it. -/
  | digest {dig : Luks2Digest} {e : LuksError} (hdig : dig ∈ digests)
      (happlies : Spec.Applies dig slot)
      (h : Pbkdf2Fault clk total dig.hash dig.iterations dig.digest.length e) :
      Luks2Keyslot.Fault digests slot tried e

/-- What there is to blame in a search: that it found nothing, or the keyslot that ended it. -/
inductive SearchFault {α : Type} (l : List α) (passed : α → Prop)
    (fault : α → ℕ → LuksError → Prop) : LuksError → Prop
  /-- Every keyslot was passed over. -/
  | noMatch (h : ∀ a ∈ l, passed a) : SearchFault l passed fault .authenticationFailed
  /-- All before it were. -/
  | keyslot {before after : List α} {a : α} {e : LuksError} (hl : l = before ++ a :: after)
      (hpassed : ∀ x ∈ before, passed x) (h : fault a before.length e) :
      SearchFault l passed fault e

/-! ### Faults of a container -/

/-- What there is to blame where a LUKS1 container is not unlocked. -/
inductive Fault1 (img passphrase : Bytes) : LuksError → Prop
  /-- It ends in its header. -/
  | short (h : img.length < luks1PhdrLen) : Fault1 img passphrase (.io .unexpectedEof)
  /-- It is none. -/
  | magic (h : bytesN 6 img 0 ≠ luksMagic) : Fault1 img passphrase (.notLuks (bytesN 6 img 0))
  /-- It has another version. -/
  | version (hmagic : bytesN 6 img 0 = luksMagic) (h : beU16 img 6 ≠ 1) :
      Fault1 img passphrase (.unsupportedVersion (beU16 img 6))
  /-- No keyslot is enabled. -/
  | noKeyslot {header : Luks1Header} (hparse : Spec.header1 img = .ok header)
      (h : ∀ i, (header.keyslots i).active ≠ keyEnabled) :
      Fault1 img passphrase .noActiveKeyslot
  /-- No keyslot opens. -/
  | search {header : Luks1Header} {e : LuksError} (hparse : Spec.header1 img = .ok header)
      (h : SearchFault header.activeKeyslots
        (fun slot => Spec.tryKeyslot1 K img header passphrase slot = .ok none)
        (Keyslot.Fault clk total header) e) : Fault1 img passphrase e

/-- What there is to blame where a LUKS2 container is not unlocked. -/
inductive Fault2 (img passphrase : Bytes) : LuksError → Prop
  /-- It ends in its binary header. -/
  | short (h : img.length < luks2BinHdrLen) : Fault2 img passphrase (.io .unexpectedEof)
  /-- It is none. -/
  | magic (h : bytesN 6 img 0 ≠ luksMagic) : Fault2 img passphrase (.notLuks (bytesN 6 img 0))
  /-- It has another version. -/
  | version (hmagic : bytesN 6 img 0 = luksMagic) (h : beU16 img 6 ≠ 2) :
      Fault2 img passphrase (.unsupportedVersion (beU16 img 6))
  /-- The size it declares leaves no room for a document. -/
  | area (h : (beU64 img 8).toNat < luks2BinHdrLen) :
      Fault2 img passphrase (.malformedHeader "json area" luks2BinHdrLen luks2BinHdrLen)
  /-- What is in that room is no document. -/
  | document {area : Bytes} (harea : Luks2Header.jsonArea
        (zeroFill (window img 0 (Spec.hdrSize img)) (Spec.hdrSize img)) = some area)
      (h : K.fromSlice (area.takeWhile (· ≠ 0)) = none) :
      Fault2 img passphrase
        (.malformedHeader "json parse" (area.takeWhile (· ≠ 0)).length area.length)
  /-- No segment is encrypted. -/
  | noSegment {header : Luks2Header} (hparse : Spec.header2 K img = .ok header)
      (h : ∀ s ∈ header.segments, s.encryption = "") : Fault2 img passphrase .noActiveKeyslot
  /-- There is no keyslot. -/
  | noKeyslot {header : Luks2Header} (hparse : Spec.header2 K img = .ok header)
      (h : header.keyslots = []) : Fault2 img passphrase .noActiveKeyslot
  /-- No keyslot opens. -/
  | search {header : Luks2Header} {e : LuksError} (hparse : Spec.header2 K img = .ok header)
      (h : SearchFault header.keyslots
        (fun slot => Spec.tryKeyslot2 K img header.digests passphrase slot = .ok none)
        (Luks2Keyslot.Fault K clk total header.digests) e) : Fault2 img passphrase e

/-- What there is to blame where the version is found out first. -/
inductive DetectFault (img passphrase : Bytes) : LuksError → Prop
  /-- There is no version. -/
  | short (h : img.length < 8) : DetectFault img passphrase (.io .unexpectedEof)
  /-- The version is 1. -/
  | luks1 {e : LuksError} (hversion : beU16 img 6 = 1) (h : Fault1 K clk total img passphrase e) :
      DetectFault img passphrase e
  /-- The version is 2. -/
  | luks2 {e : LuksError} (hversion : beU16 img 6 = 2) (h : Fault2 K clk total img passphrase e) :
      DetectFault img passphrase e
  /-- It is a container of a later version. -/
  | version (hmagic : bytesN 6 img 0 = luksMagic) (h : beU16 img 6 ≠ 1 ∧ beU16 img 6 ≠ 2) :
      DetectFault img passphrase (.unsupportedVersion (beU16 img 6))
  /-- It is no container. -/
  | magic (hmagic : bytesN 6 img 0 ≠ luksMagic) (h : beU16 img 6 ≠ 1 ∧ beU16 img 6 ≠ 2) :
      DetectFault img passphrase (.notLuks (bytesN 6 img 0))

/-- What there is to blame where an unlock fails. -/
def EntryPoint.Fault (img passphrase : Bytes) : EntryPoint → LuksError → Prop
  | detect => DetectFault K clk total img passphrase
  | luks1 => Fault1 K clk total img passphrase
  | luks2 => Fault2 K clk total img passphrase

end Faults

/-! ### Derivations -/

section Deriving

variable {ρ α : Type} {I : World ρ → Prop} {G : LuksError → Prop} (K : Crates) (clk : Clock)
  {total : Duration}

/-- After a reading of the clock, whichever one it is. -/
theorem bind_instantNow_reports {f : ℕ → Exec (World ρ) α} (hI : IgnoresTime I)
    (hf : ∀ n, Reports I G (f (clk.now n))) : Reports I G (instantNow clk >>= f) := by
  refine Reports.bind_of (A := fun t => ∃ n, t = clk.now n) (fun w hw => ?_) ?_ ?_
  · exact ⟨⟨hI w _ _ hw, by simp [instantNow]⟩, fun _ _ => trivial⟩
  · rintro w t - ht
    exact ⟨w.ticks, (Outcome.ok.inj ht).symm⟩
  · rintro t ⟨n, rfl⟩
    exact hf n

/-- A computation that is measured, and leaves the state alone: the clock is read next when it
is done. -/
theorem bind_measured_reports {β : Type} {m : Exec (World ρ) β}
    {f : ℕ → β → ℕ → Exec (World ρ) α} (hI : IgnoresTime I) (hkeeps : ∀ w, (m w).final = w)
    (hm : Reports I G m) (hf : ∀ n b, Reports I G (f (clk.now n) b (clk.now (n + 1)))) :
    Reports I G (instantNow clk >>= fun start =>
      m >>= fun b => instantNow clk >>= fun finish => f start b finish) := by
  have hrest : ∀ (n : ℕ) (w : World ρ), I w → w.ticks = n + 1 →
      I ((m >>= fun b => instantNow clk >>= fun finish => f (clk.now n) b finish) w).final ∧
      ∀ e, ((m >>= fun b => instantNow clk >>= fun finish => f (clk.now n) b finish) w).out =
        .err e → G e := by
    intro n w hw hticks
    have hrun := (hm w hw).1
    cases hout : (m w).out with
    | ok b =>
      rw [Prog.bind_of_ok hout, hkeeps, Prog.bind_of_ok (m := instantNow clk) rfl, hticks]
      exact (hf n b _ (hI w _ _ hw)).1
    | err e =>
      rw [Prog.bind_of_err hout]
      exact ⟨hrun.1, fun e' h => hrun.2 e' (hout.trans (congrArg _ (Outcome.err.inj h)))⟩
    | panic p =>
      rw [Prog.bind_of_panic hout]
      exact ⟨hrun.1, by simp⟩
  intro w hw
  exact ⟨hrest w.ticks _ (hI w _ _ hw) rfl, fun _ _ => trivial⟩

theorem hashOf_eq_error {spec : String} {e : LuksError} (h : hashOf spec = .error e) :
    ¬SupportedHash spec ∧ e = .unsupported "hash" spec := by
  refine ⟨fun hsupported => ?_, ?_⟩
  · obtain ⟨hash, hhash⟩ := Spec.exists_hashOf_iff.mpr hsupported
    cases hhash.symm.trans h
  · rw [hashOf] at h
    split_ifs at h
    exact (Except.error.inj h).symm

/-- PBKDF2 fails for want of its hash. -/
theorem pbkdf2Into_reports {hash : String} (hG : ¬SupportedHash hash → G (.unsupported "hash" hash))
    (password salt : Bytes) (iters len : ℕ) :
    Reports I G (Prog.ofExcept (pbkdf2Into K hash password salt iters len) :
      Exec (World ρ) Bytes) := by
  refine Reports.ofExcept fun e he => ?_
  rw [pbkdf2Into] at he
  rcases bind_eq_error_iff.mp he with he | ⟨_, -, he⟩
  · obtain ⟨hsupported, rfl⟩ := hashOf_eq_error he
    exact hG hsupported
  · cases he

/-- **A PBKDF2 derivation** reports what there is to blame in it. -/
theorem deriveKeyWithin_reports (hI : IgnoresTime I) {allowance : Duration}
    (hallowance : allowance ≤ min derivationBudget total) (hash : String) (password salt : Bytes)
    (iterations : UInt32) (keyLen : ℕ) :
    Reports I (Pbkdf2Fault clk total hash iterations keyLen)
      (deriveKeyWithin K clk hash password salt iterations keyLen allowance) := by
  have hinto : ∀ n, Reports I (Pbkdf2Fault clk total hash iterations keyLen)
      (Prog.ofExcept (pbkdf2Into K hash password salt n keyLen) : Exec (World ρ) Bytes) := fun n =>
    pbkdf2Into_reports K .hash password salt n keyLen
  rw [deriveKeyWithin]
  refine (Reports.get _).bind fun start => (Reports.emit _).bind fun _ => ?_
  split_ifs with hlen
  · exact Reports.throw (.keyLength hlen)
  refine (vecZeroed_reports _).bind fun _ => ?_
  by_cases hlarge : calibrationIters < max iterations.toNat 1
  · -- a count that is measured is the one that was asked for
    have hmax : max iterations.toNat 1 = iterations.toNat := by
      rw [calibrationIters] at hlarge
      omega
    simp only [hmax] at hlarge ⊢
    rw [if_pos hlarge]
    refine (vecZeroed_reports _).bind fun _ => ?_
    refine bind_measured_reports clk hI (Prog.ofExcept_final _) (hinto _) fun n _ => ?_
    split_ifs with hslow
    · exact (Reports.emit _).bind fun _ => Reports.throw (.slow hallowance hlarge hslow)
    · refine (hinto _).bind fun out => bind_instantNow_reports clk hI fun finish => ?_
      exact (Reports.emit _).bind fun _ => Reports.pure _
  · simp only [if_neg hlarge]
    refine (hinto _).bind fun out => bind_instantNow_reports clk hI fun finish => ?_
    exact (Reports.emit _).bind fun _ => Reports.pure _

theorem algorithmOf_eq_error {kind : String} {e : LuksError} (h : algorithmOf kind = .error e) :
    (kind ≠ "argon2i" ∧ kind ≠ "argon2id") ∧ e = .unsupported "argon2 variant" kind := by
  rw [algorithmOf] at h
  split_ifs at h with hi hid
  exact ⟨⟨hi, hid⟩, (Except.error.inj h).symm⟩

/-- The crate is told one pass, or as many as the keyslot asks for. -/
theorem argon2Run_reports {p : Argon2Params} {keyLen passes : ℕ}
    (hpasses : passes = 1 ∨ passes = p.time.toNat) (alg : Algorithm) (password : Bytes) :
    Reports I (Argon2Fault K clk total p keyLen)
      (argon2Run K alg p password keyLen passes : Exec (World ρ) Bytes) := by
  rw [argon2Run]
  split
  · exact Reports.abort _
  · next text hparams => exact Reports.throw (.parameters hpasses hparams)
  · split
    · next text hhash => exact Reports.throw (.crate hpasses hhash)
    · exact Reports.pure _

/-- **An Argon2 derivation** reports what there is to blame in it. -/
theorem deriveKeyArgon2Within_reports (hI : IgnoresTime I) {allowance : Duration}
    (hallowance : allowance ≤ min derivationBudget total) (p : Argon2Params) (password : Bytes)
    (keyLen : ℕ) : Reports I (Argon2Fault K clk total p keyLen)
      (deriveKeyArgon2Within K clk p password keyLen allowance) := by
  rw [deriveKeyArgon2Within]
  refine (Reports.get _).bind fun start => (Reports.emit _).bind fun _ => ?_
  refine Reports.bind (Reports.ofExcept fun e he => ?_) fun alg => ?_
  · obtain ⟨hkind, rfl⟩ := algorithmOf_eq_error he
    exact .variant hkind
  split_ifs with hlen hmemory hmany
  · exact Reports.throw (.keyLength hlen)
  · exact Reports.throw (.memory hmemory)
  · refine (vecZeroed_reports _).bind fun _ => ?_
    refine bind_measured_reports clk hI (argon2Run_final K alg p password keyLen 1)
      (argon2Run_reports K clk (Or.inl rfl) alg password) fun n _ => ?_
    dsimp only
    split_ifs with hslow
    · exact Reports.throw (.slow hallowance hmany hslow)
    · exact (vecZeroed_reports _).bind fun _ => argon2Run_reports K clk (Or.inr rfl) alg password
  · exact (vecZeroed_reports _).bind fun _ => argon2Run_reports K clk (Or.inr rfl) alg password

/-- A deadline that the clock started. -/
def UnlockDeadline.Starts (d : UnlockDeadline) (clk : Clock) : Prop := ∃ m, d.started = clk.now m

/-- After a look at the deadline, that reports how late it is. -/
theorem bind_remaining_reports {d : UnlockDeadline} {f : Duration → Exec (World ρ) α}
    (hI : IgnoresTime I) (hd : d.Starts clk) (tried : ℕ)
    (hlate : ∀ n, d.total ≤ clk.now n - clk.now 0 →
      G (.unlockBudgetExceeded tried d.total.asSecs))
    (hf : ∀ left ≤ min derivationBudget d.total, Reports I G (f left)) :
    Reports I G (d.remaining clk tried >>= f) := by
  obtain ⟨m, hm⟩ := hd
  refine Reports.bind_of (A := (· ≤ min derivationBudget d.total)) (fun w hw => ?_) ?_ hf
  · rw [d.remaining_eq]
    refine ⟨⟨hI w _ _ hw, fun e he => ?_⟩, by simp⟩
    dsimp only at he
    split_ifs at he with hlt
    obtain rfl := Outcome.err.inj he
    refine hlate w.ticks (le_trans (Nat.le_of_not_lt hlt) ?_)
    rw [hm]
    exact Nat.sub_le_sub_left (clk.mono (Nat.zero_le m)) _
  · rintro w left - hleft
    rw [d.remaining_eq] at hleft
    dsimp only at hleft
    split_ifs at hleft with hlt
    obtain rfl := Outcome.ok.inj hleft
    rw [min_comm]
    exact min_le_min_left _ (Nat.sub_le _ _)

end Deriving

/-! ### Keyslots -/

section Trying

variable {ρ : Type} [ImageReader ρ] (K : Crates) (clk : Clock) {img : Bytes} {d : UnlockDeadline}
  {G : LuksError → Prop}

/-- **Key material** is refused for what there is to blame in it. -/
theorem Spec.openMaterial_fault {cipherMode hashSpec : String} {slotKey : Bytes}
    {offset keyLen stripes : ℕ} {e : LuksError} (hlen : slotKey.length = keyLen)
    (h : Spec.openMaterial K img cipherMode hashSpec slotKey offset keyLen stripes = .error e) :
    MaterialFault cipherMode hashSpec keyLen stripes e := by
  rcases Nat.lt_or_ge maxStripes stripes with hstripes | hstripes
  · rw [openMaterial, materialLen_of_gt hstripes] at h
    obtain rfl := Except.error.inj h
    exact .stripes hstripes
  rw [openMaterial, materialLen_of_le hstripes, ok_bind] at h
  split_ifs at h
  · cases h
  rcases bind_eq_error_iff.mp h with h | ⟨plain, -, h⟩
  · rw [Spec.xtsDecryptArea] at h
    split_ifs at h with hmode
    · obtain rfl := Except.error.inj h
      exact .mode hmode
    rcases bind_eq_error_iff.mp h with h | ⟨dec, -, h⟩
    · rw [xtsCipher] at h
      split_ifs at h with h32 h64
      obtain rfl := Except.error.inj h
      rw [hlen] at h32 h64 ⊢
      exact .keySize ⟨h32, h64⟩
    · cases h
  · rcases bind_eq_error_iff.mp h with h | ⟨candidate, -, h⟩
    · rw [Spec.merge, if_neg (Nat.not_lt_of_le hstripes)] at h
      rcases bind_eq_error_iff.mp h with h | ⟨hash, -, h⟩
      · obtain ⟨hsupported, rfl⟩ := hashOf_eq_error h
        exact .hash hsupported
      · cases h
    · cases h

/-- Opening key material reports that. -/
theorem openMaterial_reports {cipherMode hashSpec : String} {slotKey : Bytes} {offset : UInt64}
    {keyLen stripes : ℕ} (hkeyLen : keyLen ≤ 1024) (hlen : slotKey.length = keyLen)
    (hG : ∀ e, MaterialFault cipherMode hashSpec keyLen stripes e → G e) :
    Reports (Opens img) G
      (openMaterial (ρ := ρ) K cipherMode hashSpec slotKey offset keyLen stripes) :=
  Reports.of_follows (openMaterial_answers K (R := G) (permits_true img ⟨0, 0⟩) _ _ _ offset _
    hkeyLen)
    (fun e he => hG e (Spec.openMaterial_fault K hlen he)) fun _ he => he

/-- A verification reports what there is to blame in the derivation of the digest. -/
theorem verify_reports (hd : d.Starts clk) {tried : ℕ} {hashSpec : String}
    {candidate salt : Bytes} {iterations : UInt32} {expected : Bytes}
    (hlate : ∀ n, d.total ≤ clk.now n - clk.now 0 →
      G (.unlockBudgetExceeded tried d.total.asSecs))
    (hG : ∀ e, Pbkdf2Fault clk d.total hashSpec iterations expected.length e → G e) :
    Reports (Opens (ρ := ρ) img) G
      (verify K clk d tried hashSpec candidate salt iterations expected) := by
  have hI := ignoresTime_opens (ρ := ρ) img
  refine bind_remaining_reports clk hI hd tried hlate fun left hleft => ?_
  refine ((deriveKeyWithin_reports K clk hI hleft _ _ _ _ _).mono hG).bind fun digest => ?_
  exact Reports.pure _

/-- **A LUKS1 keyslot** is blamed for what is wrong with it. -/
theorem tryKeyslot1_reports (hd : d.Starts clk) (header : Luks1Header) (passphrase : Bytes)
    (slot : Keyslot) (tried : ℕ) :
    Reports (Opens (ρ := ρ) img) (Keyslot.Fault clk d.total header slot tried)
      (tryKeyslot1 K clk header passphrase header.keyBytes.toNat d slot tried) := by
  have hI := ignoresTime_opens (ρ := ρ) img
  rw [tryKeyslot1, ← bind_assoc]
  refine Reports.bind_follows (H := d.Refuses clk) ?_
    (bind_remaining_answers clk (fun _ h => h) tried fun start left hgrants =>
      deriveKeyWithin_answers K clk (permits_true img d).derivation (fun _ h => h) hgrants)
    fun slotKey hkey => ?_
  · refine bind_remaining_reports clk hI hd tried (fun _ => .late) fun left hleft => ?_
    exact (deriveKeyWithin_reports K clk hI hleft _ _ _ _ _).mono fun _ => .key
  refine (openMaterial_reports K (Spec.le_of_deriveKey_eq_ok K hkey)
    (Spec.length_of_deriveKey_eq_ok K hkey) fun _ => .material).bind fun candidate? => ?_
  cases candidate? with
  | none => exact Reports.pure _
  | some candidate =>
    refine (verify_reports K clk hd (fun _ => .late) fun e he => ?_).bind ?_
    · rw [List.Vector.toList_length] at he
      exact .digest he
    · intro verified
      cases verified <;> exact Reports.pure _

/-- The derivation of a LUKS2 keyslot. -/
theorem deriveSlotKey_reports (hd : d.Starts clk) (passphrase : Bytes) (slot : Luks2Keyslot)
    {tried : ℕ} (hlate : ∀ n, d.total ≤ clk.now n - clk.now 0 →
      G (.unlockBudgetExceeded tried d.total.asSecs))
    (hG : ∀ e, slot.kdf.Fault K clk d.total slot.keySize.toNat e → G e) :
    Reports (Opens (ρ := ρ) img) G (deriveSlotKey K clk passphrase d slot tried) := by
  have hI := ignoresTime_opens (ρ := ρ) img
  rw [deriveSlotKey]
  cases hkdf : slot.kdf with
  | argon2 kind time memory cpus salt =>
    rw [hkdf] at hG
    refine bind_remaining_reports clk hI hd tried hlate fun left hleft => ?_
    exact (deriveKeyArgon2Within_reports K clk hI hleft _ _ _).mono hG
  | pbkdf2 hash iterations salt =>
    rw [hkdf] at hG
    refine bind_remaining_reports clk hI hd tried hlate fun left hleft => ?_
    exact (deriveKeyWithin_reports K clk hI hleft _ _ _ _ _).mono hG

/-- **A LUKS2 keyslot** is blamed for what is wrong with it, or with a digest that lists it. -/
theorem tryKeyslot2_reports (hd : d.Starts clk) (header : Luks2Header) (passphrase : Bytes)
    (slot : Luks2Keyslot) (tried : ℕ) :
    Reports (Opens (ρ := ρ) img) (Luks2Keyslot.Fault K clk d.total header.digests slot tried)
      (tryKeyslot2 K clk header passphrase d slot tried) := by
  rw [tryKeyslot2]
  refine Reports.bind_follows (H := d.Refuses clk)
    (deriveSlotKey_reports K clk hd passphrase slot (fun _ => .late) fun _ => .key)
    (deriveSlotKey_answers K clk (permits_true img d).derivation (fun _ h => h) _ _ _)
    fun slotKey hkey => ?_
  refine (openMaterial_reports K (Spec.le_of_deriveSlotKey_eq_ok K hkey)
    (Spec.length_of_deriveSlotKey_eq_ok hkey) fun _ => .material).bind fun candidate? => ?_
  cases candidate? with
  | none => exact Reports.pure _
  | some candidate =>
    refine Reports.findSomeM? fun dig hdig => ?_
    rw [tryDigest]
    split_ifs with happlies
    · refine (verify_reports K clk hd (fun _ => .late) fun e => .digest hdig happlies).bind
        fun verified => ?_
      cases verified <;> exact Reports.pure _
    · exact Reports.pure _

/-- A recovery blames a keyslot, or finds nothing. -/
theorem recover_reports {α : Type} {l : List α} {fault : α → ℕ → LuksError → Prop}
    {f : α × ℕ → Exec (World ρ) (Option Recovered)} {g : α → Except LuksError (Option Recovered)}
    (hf : ∀ a n, Reports (Opens img) (fault a n) (f (a, n)))
    (hg : ∀ a n, AnswersUnless True img (d.Refuses clk) (fun _ => True) (f (a, n)) (g a)) :
    Reports (Opens img) (SearchFault l (g · = .ok none) fault) (do
      match ← l.zipIdx.findSomeM? f with
      | some found => return found
      | none => Prog.throw .authenticationFailed) := by
  have hsearch : Triple (Opens img) (l.zipIdx.findSomeM? f) (FollowsUnless True (Opens img)
      (d.Refuses clk) (l.zipIdx.findSomeM? fun a => g a.1)) fun _ => True :=
    Triple.findSomeM? fun l₁ a l₂ hl hpass => hg a.1 a.2
  refine Reports.bind_follows (Reports.findSomeM?_zipIdx (P := (g · = .ok none)) ?_ ?_) hsearch
    fun found? hfound => ?_
  · intro a n w hw hnone
    have hfollows := (hg a n w hw).1
    rw [hnone] at hfollows
    exact hfollows.eq_ok
  · exact fun before a after hl hpassed => (hf a before.length).mono fun e he =>
      .keyslot hl hpassed he
  · cases found? with
    | some found => exact Reports.pure _
    | none =>
      refine Reports.throw (.noMatch fun a ha => ?_)
      rw [findSomeM?_zipIdx] at hfound
      exact findSomeM?_eq_none_iff.mp hfound a ha

theorem recoverMasterKey1_reports (hd : d.Starts clk) (header : Luks1Header) (passphrase : Bytes) :
    Reports (Opens (ρ := ρ) img) (SearchFault header.activeKeyslots
      (Spec.tryKeyslot1 K img header passphrase · = .ok none)
      (Keyslot.Fault clk d.total header))
      (recoverMasterKey1 K clk header passphrase header.keyBytes.toNat d) :=
  recover_reports clk (fun slot tried => tryKeyslot1_reports K clk hd header passphrase slot tried)
    fun slot tried => (tryKeyslot1_answers K clk (permits_true img d) (fun _ h => h) header
      passphrase slot tried).unstopped

theorem recoverMasterKey2_reports (hd : d.Starts clk) (header : Luks2Header) (passphrase : Bytes) :
    Reports (Opens (ρ := ρ) img) (SearchFault header.keyslots
      (Spec.tryKeyslot2 K img header.digests passphrase · = .ok none)
      (Luks2Keyslot.Fault K clk d.total header.digests))
      (recoverMasterKey2 K clk header passphrase d) :=
  recover_reports clk (fun slot tried => tryKeyslot2_reports K clk hd header passphrase slot tried)
    fun slot tried => (tryKeyslot2_answers K clk (permits_true img d) (fun _ h => h) header
      passphrase slot tried).orStopped fun _ => trivial

end Trying

/-! ### Containers -/

section Unlocking

variable {ρ : Type} [ImageReader ρ] (K : Crates) (clk : Clock) {img : Bytes} {d : UnlockDeadline}
  {G : LuksError → Prop}

/-- After a read at the front, which reports that the container ends there. -/
theorem bind_readFill_reports {α : Type} {n : ℕ} {f : Bytes → Exec (World ρ) α}
    (hG : img.length < n → G (.io .unexpectedEof))
    (hf : n ≤ img.length → Reports (Opens img) G (f (window img 0 n))) :
    Reports (Opens (ρ := ρ) img) G (onReader (readFillAt 0 n) >>= f) := by
  have hread : Triple (Opens (ρ := ρ) img) (onReader (readFillAt 0 n))
      (Follows (Opens img) (fun _ => False) (Spec.readFill img 0 n)) fun _ => True :=
    onReader_answers (readFillAt_follows 0 n)
  have hlen : (window img 0 n).length = min n img.length := by rw [length_window, Nat.sub_zero]
  refine Reports.bind_follows (Reports.of_follows hread (fun e he => ?_) (by simp)) hread
    fun buf hbuf => ?_
  · rw [Spec.readFill] at he
    split_ifs at he with hshort
    obtain rfl := Except.error.inj he
    exact hG (by omega)
  · obtain ⟨rfl, hfull⟩ := Spec.readFill_eq_ok hbuf
    exact hf (by omega)

/-- The end of an unlock reports nothing. -/
theorem finish_reports (volume : ρ → ℕ → Unlocked ρ) :
    Reports (Opens img) G (do
      let totalSize ← onReader (seekTo (.fromEnd 0))
      let reader ← Prog.get World.reader
      return volume reader totalSize) := by
  refine Reports.bind (Reports.of_follows (H := fun _ => False)
    (seekTo_end_answers (E := fun _ => True)) (by simp) (by simp)) fun totalSize => ?_
  exact (Reports.get _).bind fun reader => Reports.pure _

/-- What is wrong with a LUKS1 header that does not parse. -/
theorem parse1_fault {total : Duration} {passphrase : Bytes} {e : LuksError}
    (hlen : luks1PhdrLen ≤ img.length)
    (h : Luks1Header.parse (window img 0 luks1PhdrLen) = .error e) :
    Fault1 K clk total img passphrase e := by
  rw [Luks1Header.parse, bytesN_window (by decide) hlen, beU16_window (by decide) hlen] at h
  dsimp only at h
  split_ifs at h with hmagic hshort hversion
  · obtain rfl := Except.error.inj h
    exact .magic hmagic
  · rw [length_window] at hshort
    omega
  · obtain rfl := Except.error.inj h
    exact .version (not_not.mp hmagic) hversion

theorem unlock1Inner_reports (hd : d.Starts clk) (passphrase : Bytes) :
    Reports (Opens (ρ := ρ) img) (Fault1 K clk d.total img passphrase)
      (unlock1Inner K clk passphrase d) := by
  rw [unlock1Inner]
  refine (vecZeroed_reports _).bind fun _ => ?_
  refine bind_readFill_reports .short fun hlen => ?_
  refine Reports.bind_ofExcept (fun e he => parse1_fault K clk hlen he) fun header hparse => ?_
  have hheader : Spec.header1 img = .ok header := by
    rw [Spec.header1, Spec.readFill_of_le (by omega), ok_bind, hparse]
  split_ifs with hslots
  · refine Reports.throw (.noKeyslot hheader fun i hi => ?_)
    have hmem := Luks1Header.mem_activeKeyslots.mpr ⟨⟨i, rfl⟩, hi⟩
    rw [List.isEmpty_iff.mp hslots] at hmem
    cases hmem
  · refine Reports.bind ((recoverMasterKey1_reports K clk hd header passphrase).mono fun e he =>
      .search hheader he) fun found => ?_
    exact finish_reports fun reader totalSize =>
      ⟨header.payload reader found.key totalSize, found.acceptedBy⟩

/-- What is wrong with a LUKS2 header that does not parse. -/
theorem parse2_fault {total : Duration} {passphrase : Bytes} {e : LuksError}
    (hlen : luks2BinHdrLen ≤ img.length) (h : Spec.header2 K img = .error e) :
    Fault2 K clk total img passphrase e := by
  have hversion : beU16 (zeroFill (window img 0 (Spec.hdrSize img)) (Spec.hdrSize img)) 6 =
      beU16 img 6 :=
    congrArg (fun v : List.Vector UInt8 2 => UInt16.ofNat (fromBe v.toList))
      (Spec.bytesN_hdrBuffer (by decide) hlen)
  have hsize : beU64 (zeroFill (window img 0 (Spec.hdrSize img)) (Spec.hdrSize img)) 8 =
      beU64 img 8 :=
    congrArg (fun v : List.Vector UInt8 8 => UInt64.ofNat (fromBe v.toList))
      (Spec.bytesN_hdrBuffer (by decide) hlen)
  rw [Spec.header2, Luks2Header.parse, hversion, Spec.bytesN_hdrBuffer (by decide) hlen] at h
  dsimp only at h
  split_ifs at h with hmagic htwo
  · obtain rfl := Except.error.inj h
    exact .magic hmagic
  · obtain rfl := Except.error.inj h
    exact .version (not_not.mp hmagic) htwo
  · split at h
    · next hnone =>
      -- the buffer is as long as the binary header, so the declared size is not
      rw [Luks2Header.jsonArea, hsize, slice?, length_zeroFill_window] at hnone
      have hsmall : (beU64 img 8).toNat < luks2BinHdrLen := by
        by_contra hlarge
        rw [Spec.hdrSize, if_pos (by omega)] at hnone
        cases hnone
      obtain rfl := Except.error.inj h
      rw [length_zeroFill_window, Spec.hdrSize, max_eq_right hsmall.le]
      exact .area hsmall
    · next area harea =>
      split at h
      · next hdocument =>
        obtain rfl := Except.error.inj h
        exact .document harea hdocument
      · cases h

theorem unlock2Inner_reports (hd : d.Starts clk) (passphrase : Bytes) :
    Reports (Opens (ρ := ρ) img) (Fault2 K clk d.total img passphrase)
      (unlock2Inner K clk passphrase d) := by
  rw [unlock2Inner]
  refine (vecZeroed_reports _).bind fun _ => ?_
  refine bind_readFill_reports .short fun hlen => ?_
  have hbin : Spec.readFill img 0 luks2BinHdrLen = .ok (window img 0 luks2BinHdrLen) :=
    Spec.readFill_of_le (by omega)
  simp only [Spec.hdrSize_of_readFill hbin]
  refine (vecZeroed_reports _).bind fun _ => ?_
  refine Reports.bind_follows (H := fun _ => False) (E := fun _ => True)
    (Reports.of_follows (H := fun _ => False) (E := fun _ => True)
      (onReader_answers (readAvailableAt_follows _ _)) (by simp) (by simp))
    (onReader_answers (readAvailableAt_follows _ _)) fun full hfull => ?_
  obtain rfl := Except.ok.inj hfull
  refine Reports.bind_ofExcept (fun e he => parse2_fault K clk hlen he) fun header hparse => ?_
  have hheader : Spec.header2 K img = .ok header := hparse
  refine (vecsCollected_reports _).bind fun _ => ?_
  cases hsegment : header.cryptSegment with
  | none =>
    refine Reports.throw (.noSegment hheader fun s hs => ?_)
    have hempty := List.find?_eq_none.mp hsegment s hs
    simpa using hempty
  | some segment =>
    dsimp only
    split_ifs with hslots
    · exact Reports.throw (.noKeyslot hheader (List.isEmpty_iff.mp hslots))
    · refine Reports.bind ((recoverMasterKey2_reports K clk hd header passphrase).mono fun e he =>
        .search hheader he) fun found => ?_
      exact finish_reports fun reader totalSize =>
        ⟨segment.payload reader found.key totalSize, found.acceptedBy⟩

/-- A deadline that starts now is one that the clock started. -/
theorem bind_new_reports {α : Type} {f : UnlockDeadline → Exec (World ρ) α} (total : Duration)
    (hf : ∀ d : UnlockDeadline, d.Starts clk → d.total = total → Reports (Opens img) G (f d)) :
    Reports (Opens img) G (UnlockDeadline.new clk total >>= f) := by
  rw [UnlockDeadline.new, bind_assoc]
  exact bind_instantNow_reports clk (ignoresTime_opens img) fun n => hf _ ⟨n, rfl⟩ rfl

theorem unlock1_reports (passphrase : Bytes) (total : Duration) :
    Reports (Opens (ρ := ρ) img) (Fault1 K clk total img passphrase)
      (unlock1WithPassphraseWithin K clk passphrase total) :=
  bind_new_reports clk total fun _ hd htotal => htotal ▸ unlock1Inner_reports K clk hd passphrase

theorem unlock2_reports (passphrase : Bytes) (total : Duration) :
    Reports (Opens (ρ := ρ) img) (Fault2 K clk total img passphrase)
      (unlock2WithPassphraseWithin K clk passphrase total) :=
  bind_new_reports clk total fun _ hd htotal => htotal ▸ unlock2Inner_reports K clk hd passphrase

theorem unlock_reports (passphrase : Bytes) (total : Duration) :
    Reports (Opens (ρ := ρ) img) (DetectFault K clk total img passphrase)
      (unlockWithPassphraseWithin K clk passphrase total) := by
  rw [unlockWithPassphraseWithin]
  refine bind_readFill_reports .short fun hlen => ?_
  refine Reports.bind (Reports.of_follows (H := fun _ => False) (E := fun _ => True)
    (onReader_answers (seekTo_start_follows _)) (by simp) (by simp)) fun _ => ?_
  have hversion : beU16 (window img 0 8) 6 = beU16 img 6 := beU16_window (by decide) hlen
  have hbytes : bytesN 6 (window img 0 8) 0 = bytesN 6 img 0 := bytesN_window (by decide) hlen
  rw [hversion, hbytes]
  split_ifs with hone htwo hmagic
  · exact (unlock1_reports K clk passphrase total).mono fun _ => .luks1 hone
  · exact (unlock2_reports K clk passphrase total).mono fun _ => .luks2 htwo
  · rw [isPrefixOf_luksMagic_iff, hbytes] at hmagic
    exact Reports.throw (.version hmagic ⟨hone, htwo⟩)
  · rw [isPrefixOf_luksMagic_iff, hbytes] at hmagic
    exact Reports.throw (.magic hmagic ⟨hone, htwo⟩)

/-- **An error names a fault that is there.** Whatever the entry point, the passphrase, the
clock and the total: where an unlock fails, the values in its error are those of the container,
of the keyslot that the unlock had come to over all that it passed, or of the time it took, and
they are at fault. -/
theorem unlock_names_fault (e : EntryPoint) (passphrase : Bytes) (total : Duration) (r : ρ)
    {err : LuksError} (h : (e.unlock K clk passphrase total (World.init r)).out = .err err) :
    e.Fault K clk total (ImageReader.image r) passphrase err := by
  cases e with
  | detect => exact (unlock_reports K clk passphrase total _ (opens_init r)).1.2 err h
  | luks1 => exact (unlock1_reports K clk passphrase total _ (opens_init r)).1.2 err h
  | luks2 => exact (unlock2_reports K clk passphrase total _ (opens_init r)).1.2 err h

end Unlocking

namespace Sample

/-- The keyslot with too many stripes is refused for them. -/
theorem tryKeyslot1_blocker : Spec.tryKeyslot1 crates1 (ImageReader.image blockedReader)
    blockedHeader Sample.passphrase blocker =
      .error (.implausibleStripes 1048577 maxStripes 32) := by
  obtain ⟨key, hkey⟩ : ∃ key, Spec.deriveKey crates1 blockedHeader.hashSpec Sample.passphrase
      blocker.salt.toList blocker.iterations blockedHeader.keyBytes.toNat = .ok key :=
    (Spec.exists_deriveKey_iff crates1).mpr ⟨by decide, supportedHash_name .sha1⟩
  rw [Spec.tryKeyslot1, Spec.candidate1, hkey, ok_bind, Spec.openMaterial,
    Spec.materialLen_of_gt overStriped_blocker]
  rfl

theorem unlock1_blocked : Spec.unlock1 crates1 (ImageReader.image blockedReader)
    Sample.passphrase = .error (.implausibleStripes 1048577 maxStripes 32) := by
  obtain ⟨l, hl⟩ := exists_activeKeyslots_blocked
  have hheader : Spec.header1 (ImageReader.image blockedReader) = .ok blockedHeader :=
    Layout1.header1_image inverts1
  rw [Spec.header1] at hheader
  rw [Spec.unlock1, ← bind_assoc, hheader, ok_bind, hl, if_neg (by simp), Spec.recoverMasterKey1,
    hl, findSomeM?_cons_of_error tryKeyslot1_blocker]
  rfl

end Sample

theorem unlock_names_fault_sample : EntryPoint.luks1.Fault Sample.crates1 Sample.clock 1
    (ImageReader.image Sample.blockedReader) Sample.passphrase
    (.implausibleStripes 1048577 maxStripes 32) := by
  have hrun := EntryPoint.answers (ρ := Cursor) Sample.crates1 Sample.clock
    (show ¬EntryPoint.luks1.Stopped (ImageReader.image Sample.blockedReader) from fun h => h) 1
    Sample.passphrase
  rw [show EntryPoint.luks1.spec _ _ _ = _ from Sample.unlock1_blocked] at hrun
  have hout := hrun.settles Sample.clock not_false (opens_init Sample.blockedReader)
    Sample.stands_clock Nat.one_pos
  exact unlock_names_fault Sample.crates1 Sample.clock .luks1 Sample.passphrase 1
    Sample.blockedReader (Outcome.map_eq_err_iff.mp hout)

end Luks
