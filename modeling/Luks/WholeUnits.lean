import Luks.Basis.Trace
import Luks.EntryPoints

/-!
# Whole units

To decrypt a buffer is to cut it into data units and decrypt each. A piece at the end that
has no whole cipher block would be passed through as it is, without an error. No buffer
that the code decrypts has such an end: the length of key material is rounded up to whole
sectors, whatever its key size and stripes are, and a unit of the payload is read into a
buffer of its size, which is at least a sector whatever the header says.

The trace of a run shows it. It is made of words (`Luks.Word`): events that have nothing to
do with decryption, and a buffer with all the units of it, one after the other. Only a run
that fails can break off in the middle of a word, and then before the first unit
(`Luks.Begun`). This holds of the whole of an unlock (`Luks.EntryPoint.unlock_traced`), on
any reader, also one that fails, and of every read of a payload
(`Luks.DecryptedPayload.readAt_madeOf`).
-/

namespace Luks

open Basis

/-! ### Words -/

/-- What the words of a trace are made of. -/
structure Vocabulary where
  /-- The size of a data unit. -/
  unitSize : ℕ
  /-- The events that have nothing to do with decryption. -/
  other : Event → Prop
  /-- The tweaks that a sector of key material may have, by its number. -/
  sectorTweak : ℕ → Bytes → Prop
  /-- The tweaks that a unit of a payload may have, by its address. -/
  unitTweak : ℕ → Bytes → Prop

/-- The words of a trace that decrypts whole units. -/
inductive Word (V : Vocabulary) : List Event → Prop
  /-- Nothing is decrypted. -/
  | other (v : Event) (h : V.other v) : Word V [v]
  /-- Key material is decrypted, all of it: one sector after the other. -/
  | material (offset : ℕ) (tweaks : List Bytes)
      (h : ∀ u tweak, tweaks[u]? = some tweak → V.sectorTweak u tweak) :
      Word V (.material offset (tweaks.length * V.unitSize) :: tweaks.map (.sector V.unitSize))
  /-- A unit of a payload is decrypted, all of it. -/
  | unit (physical : ℕ) (tweak : Bytes) (h : V.unitTweak physical tweak) :
      Word V [.unit physical, .sector V.unitSize tweak]

/-- The words that a run can break off with: the buffer is there, and nothing of it is
decrypted. -/
inductive Begun : List Event → Prop
  /-- Key material. -/
  | material (offset len : ℕ) : Begun [.material offset len]
  /-- A unit of a payload. -/
  | unit (physical : ℕ) : Begun [.unit physical]

/-- The words, as a language. -/
def Vocabulary.words (V : Vocabulary) : Language Event := {t | Word V t}

/-- What words are begun with, as a language. -/
def begun : Language Event := {t | Begun t}

section Words

variable {V V' : Vocabulary} {σ α : Type} {m : Exec σ α}

/-- A larger vocabulary has more words. -/
theorem mem_words_of_mem (hsize : V.unitSize = V'.unitSize) (hother : ∀ v, V.other v → V'.other v)
    (hsector : ∀ u tweak, V.sectorTweak u tweak → V'.sectorTweak u tweak)
    (hunit : ∀ a tweak, V.unitTweak a tweak → V'.unitTweak a tweak) :
    ∀ t ∈ V.words, t ∈ V'.words := by
  intro t ht
  cases ht with
  | other v hv => exact Word.other v (hother v hv)
  | material offset tweaks h =>
    rw [hsize]
    exact Word.material offset tweaks fun u tweak hu => hsector u tweak (h u tweak hu)
  | unit physical tweak h =>
    rw [hsize]
    exact Word.unit physical tweak (hunit physical tweak h)

/-- What leaves other events only. -/
theorem traced_of_leaves (h : Leaves V.other m) : Traced V.words begun m :=
  Traced.of_leaves h fun v hv => Word.other v hv

/-- The events of a run that is made of words. -/
theorem forall_mem_of_madeOf {run : Run LuksError Event σ α} {E : Event → Prop}
    (h : MadeOf V.words begun run) (hother : ∀ v, V.other v → E v)
    (hMaterial : ∀ offset len, E (.material offset len)) (hUnit : ∀ physical, E (.unit physical))
    (hSector : ∀ u tweak, V.sectorTweak u tweak → E (.sector V.unitSize tweak))
    (hTweak : ∀ physical tweak, V.unitTweak physical tweak → E (.sector V.unitSize tweak)) :
    ∀ v ∈ run.events, E v := by
  refine h.forall_mem (fun t ht => ?_) fun t ht => ?_
  · cases ht with
    | other w hw => simpa using hother w hw
    | material offset tweaks h =>
      refine List.forall_mem_cons.mpr ⟨hMaterial _ _, fun v hv => ?_⟩
      obtain ⟨tweak, htweak, rfl⟩ := List.mem_map.mp hv
      obtain ⟨u, hu⟩ := List.mem_iff_getElem?.mp htweak
      exact hSector u tweak (h u tweak hu)
    | unit physical tweak h => simpa using ⟨hUnit physical, hTweak physical tweak h⟩
  · cases ht with
    | material offset len => simpa using hMaterial offset len
    | unit physical => simpa using hUnit physical

/-- After what a word begins with, a program that leaves the rest of it or fails. -/
theorem traced_emit {v : Event} (hv : Begun [v])
    (h : ∀ s, Word V (v :: (m s).events) ∨ (m s).events = [] ∧ ∀ a, (m s).out ≠ .ok a) :
    Traced V.words begun (Prog.emit v >>= fun _ => m) := by
  refine Traced.of_word fun s => ?_
  rw [Prog.bind_of_ok (m := Prog.emit v) (a := ()) rfl]
  rcases h s with hword | ⟨hnone, hout⟩
  · exact Or.inl hword
  · refine Or.inr ⟨?_, hout⟩
    change [v] ++ (m s).events ∈ begun
    rw [hnone, List.append_nil]
    exact hv

end Words

/-! ### Decrypting a buffer -/

section Decrypting

variable {σ : Type} (K : Crates) {unitSize base k : ℕ} {buffer : Bytes}

/-- The tweaks of `k` units: consecutive ones. -/
def tweaksOf (unitSize base k : ℕ) : List Bytes :=
  (List.range k).map fun u => toLe 16 (base + u * tweakStep unitSize)

@[simp] theorem length_tweaksOf : (tweaksOf unitSize base k).length = k := by
  rw [tweaksOf, List.length_map, List.length_range]

theorem tweaksOf_one : tweaksOf unitSize base 1 = [toLe 16 base] := by
  simp [tweaksOf]

theorem getElem?_tweaksOf {u : ℕ} {tweak : Bytes}
    (h : (tweaksOf unitSize base k)[u]? = some tweak) :
    u < k ∧ tweak = toLe 16 (base + u * tweakStep unitSize) := by
  have hu : u < k := by
    have := (List.getElem?_eq_some_iff.mp h).1
    rwa [length_tweaksOf] at this
  refine ⟨hu, ?_⟩
  rw [tweaksOf, List.getElem?_map, List.getElem?_range hu] at h
  exact (Option.some.inj h).symm

/-- **Decrypting a whole number of units** leaves the sectors of them. -/
theorem decryptUnits_run (dec : Bytes → Bytes → Bytes) (hunit : 16 ≤ unitSize)
    (hlen : buffer.length = k * unitSize)
    (hfit : ∀ u < k, base + u * tweakStep unitSize < 2 ^ 128) (s : σ) :
    decryptUnits dec buffer unitSize base (tweakStep unitSize) s =
      ⟨.ok (Spec.decryptUnits dec buffer unitSize base (tweakStep unitSize)),
        (tweaksOf unitSize base k).map (.sector unitSize), s⟩ := by
  have hpos : 0 < unitSize := by omega
  have hchunks := length_chunks_of_dvd hpos hlen
  have hevents : ((chunks unitSize buffer).zipIdx.flatMap fun p =>
      [Event.sector unitSize (toLe 16 (base + p.2 * tweakStep unitSize))]) =
      (tweaksOf unitSize base k).map (.sector unitSize) := by
    rw [tweaksOf, ← hchunks, List.range_eq_range', ← List.zipIdx_map_snd 0, List.map_map,
      List.map_map]
    exact (List.map_eq_flatMap ..).symm
  rw [decryptUnits, if_neg (by omega), ← hevents]
  refine Prog.mapM_bind_pure (k := List.flatten)
    (g := fun p : Bytes × ℕ => Spec.decryptUnit dec base (tweakStep unitSize) p.2 p.1) ?_
  -- each of the chunks is a unit
  rintro ⟨chunk, u⟩ hp
  have hchunk : chunk.length = unitSize :=
    length_of_mem_chunks hpos hlen (List.fst_mem_of_mem_zipIdx hp)
  have hu : u < k := by
    have := List.snd_lt_of_mem_zipIdx hp
    omega
  have hlt := hfit u hu
  have hlong : ¬chunk.length < 16 := by omega
  simp only [Spec.decryptUnit, if_neg hlong]
  rw [mulU128_of_lt (by omega), pure_bind, addU128_of_lt hlt, pure_bind, hchunk]
  rfl

/-- **A buffer of whole units is decrypted to its end**, or not at all. -/
theorem xtsDecryptArea_events (cipherMode : String) (key : Bytes) (hunit : 16 ≤ unitSize)
    (hlen : buffer.length = k * unitSize)
    (hfit : ∀ u < k, base + u * tweakStep unitSize < 2 ^ 128) (s : σ) :
    cipherMode = "xts-plain64" ∧ (xtsDecryptArea K cipherMode key buffer unitSize base s).events =
        (tweaksOf unitSize base k).map (.sector unitSize) ∨
      (xtsDecryptArea K cipherMode key buffer unitSize base s).events = [] ∧
        ∀ a, (xtsDecryptArea K cipherMode key buffer unitSize base s).out ≠ .ok a := by
  rw [xtsDecryptArea]
  by_cases hmode : cipherMode ≠ "xts-plain64"
  · rw [if_pos hmode]
    exact Or.inr ⟨rfl, fun a h => by cases h⟩
  · rw [if_neg hmode]
    cases hdec : xtsCipher K key with
    | error e => exact Or.inr ⟨rfl, fun a h => by cases h⟩
    | ok dec =>
      refine Or.inl ⟨not_not.mp hmode, ?_⟩
      change (decryptUnits dec buffer unitSize base (tweakStep unitSize) s).events = _
      rw [decryptUnits_run dec hunit hlen hfit]

end Decrypting

/-! ### Parts that decrypt nothing -/

section Leaving

variable {σ ρ : Type} (K : Crates) (clk : Clock) {E : Event → Prop} {d : UnlockDeadline}

theorem leaves_afMerge (hAlloc : ∀ n, E (.alloc n)) (D : Digest) (material : Bytes)
    (blockSize stripes : ℕ) : Leaves E (afMerge D material blockSize stripes : Exec σ Bytes) := by
  rw [afMerge]
  refine (leaves_vecZeroed (hAlloc _)).bind fun acc => ?_
  refine (Leaves.foldlM (fun acc i _ => ?_) acc).bind fun acc => ?_
  · refine (leaves_checked _ _).bind fun start => (leaves_checked _ _).bind fun stop => ?_
    split
    · exact (leaves_vecZeroed (hAlloc _)).bind fun _ => Leaves.pure _
    · exact Leaves.pure _
  · refine (leaves_checked _ _).bind fun start => (leaves_checked _ _).bind fun stop => ?_
    split <;> exact Leaves.pure _

theorem leaves_merge (hAlloc : ∀ n, E (.alloc n)) (hashSpec : String) (material : Bytes)
    (blockSize stripes : ℕ) :
    Leaves E (merge K hashSpec material blockSize stripes : Exec σ Bytes) := by
  rw [merge]
  split_ifs
  · exact Leaves.throw _
  · exact (Leaves.ofExcept _).bind fun hash => leaves_afMerge hAlloc _ _ _ _

theorem leaves_materialLen (blockSize stripes : ℕ) :
    Leaves E (materialLen blockSize stripes : Exec σ ℕ) := by
  rw [materialLen]
  split_ifs
  · exact Leaves.throw _
  · exact Leaves.throw _
  · exact leaves_checked _ _

/-- What follows a look at the deadline starts with what it grants. -/
theorem leaves_bind_remaining {α : Type} {f : Duration → Exec (World ρ) α} (tried : ℕ)
    (hf : ∀ start left, d.Grants start left →
      Triple (fun w => w.now = start) (f left) (fun _ _ => True) E) :
    Leaves E (d.remaining clk tried >>= f) := by
  refine Triple.bind (Q := fun o w => ∀ left, o = .ok left → d.Grants w.now left) (fun w _ => ?_)
    (fun left w hw => hf w.now left (hw left rfl) w rfl) (fun _ _ _ => trivial)
    fun _ _ _ => trivial
  rw [d.remaining_eq clk tried w]
  refine ⟨fun left hleft => ?_, by simp⟩
  split_ifs at hleft with hlt
  obtain rfl := Outcome.ok.inj hleft
  exact ⟨hlt, le_of_eq (min_comm _ _)⟩

theorem leaves_deriveKeyWithin (hE : PermitsDerivation E d) {start left : ℕ}
    (hgrants : d.Grants start left) {hashSpec : String} {password salt : Bytes}
    {iterations : UInt32} {keyLen : ℕ} :
    Triple (fun w : World ρ => w.now = start)
      (deriveKeyWithin K clk hashSpec password salt iterations keyLen left)
      (fun _ _ => True) E := by
  refine Triple.conseq (deriveKeyWithin_follows K clk (I := fun _ => True) (G := fun _ => True)
    (fun _ _ _ _ => trivial) (fun _ _ _ => trivial)
    (fun n hn => hE.alloc n (hn.trans (by decide))) (hE.derive start left hgrants) ?_
    hashSpec password salt iterations keyLen) (fun w hw => ⟨trivial, hw⟩) fun _ _ _ => trivial
  rintro run rfl rfl hrun
  exact hE.pbkdf2 run hgrants hrun

theorem leaves_deriveKeyArgon2Within (hE : PermitsDerivation E d) {start left : ℕ}
    (hgrants : d.Grants start left) {p : Argon2Params} {password : Bytes} {keyLen : ℕ} :
    Triple (fun w : World ρ => w.now = start)
      (deriveKeyArgon2Within K clk p password keyLen left) (fun _ _ => True) E :=
  Triple.conseq (deriveKeyArgon2Within_follows K clk (I := fun _ => True) (G := fun _ => True)
    (fun _ _ _ _ => trivial) (fun _ _ _ => trivial)
    (fun n hn => hE.alloc n (hn.trans (by decide))) (hE.derive start left hgrants) p password
    keyLen) (fun _ hw => ⟨trivial, hw⟩) fun _ _ _ => trivial

/-- A derivation after a look at the deadline. -/
theorem leaves_deriveKey (hE : PermitsDerivation E d) (tried : ℕ) {hashSpec : String}
    {password salt : Bytes} {iterations : UInt32} {keyLen : ℕ} :
    Leaves E (d.remaining clk tried >>= fun left =>
      deriveKeyWithin (ρ := ρ) K clk hashSpec password salt iterations keyLen left) :=
  leaves_bind_remaining clk tried fun _ _ hgrants => leaves_deriveKeyWithin K clk hE hgrants

theorem leaves_verify (hE : PermitsDerivation E d) (tried : ℕ) {hashSpec : String}
    {candidate salt : Bytes} {iterations : UInt32} {expected : Bytes} : Leaves E
      (verify (ρ := ρ) K clk d tried hashSpec candidate salt iterations expected) := by
  rw [verify, ← bind_assoc]
  exact (leaves_deriveKey K clk hE tried).bind fun _ => Leaves.pure _

theorem leaves_deriveSlotKey (hE : PermitsDerivation E d) (passphrase : Bytes)
    (slot : Luks2Keyslot) (tried : ℕ) :
    Leaves E (deriveSlotKey (ρ := ρ) K clk passphrase d slot tried) := by
  rw [deriveSlotKey]
  split
  · exact leaves_bind_remaining clk tried fun _ _ hgrants =>
      leaves_deriveKeyArgon2Within K clk hE hgrants
  · exact leaves_deriveKey K clk hE tried

theorem leaves_tryDigest (hE : PermitsDerivation E d) (slot : Luks2Keyslot) (tried : ℕ)
    (candidate : Bytes) (dig : Luks2Digest) :
    Leaves E (tryDigest (ρ := ρ) K clk d slot tried candidate dig) := by
  rw [tryDigest]
  split_ifs
  · refine (leaves_verify K clk hE tried).bind fun verified => ?_
    cases verified <;> exact Leaves.pure _
  · exact Leaves.pure _

end Leaving

/-! ### Key material -/

/-- Sector `u` of key material has the tweak `u`. -/
def IsSectorTweak (u : ℕ) (tweak : Bytes) : Prop := u < 2 ^ 64 ∧ tweak = toLe 16 u

/-- The vocabulary of an unlock, with other events that satisfy `Q`: it decrypts key
material, in sectors of 512 bytes. -/
def unlockVocabulary (Q : Event → Prop) : Vocabulary where
  unitSize := 512
  other := Q
  sectorTweak := IsSectorTweak
  unitTweak _ _ := False

section Material

variable {σ ρ : Type} [ReadSeek ρ] (K : Crates) (clk : Clock) {Q : Event → Prop}
  {d : UnlockDeadline}

/-- The length of key material is whole sectors, for every key size and stripe count. -/
theorem materialLen_gives (blockSize stripes : ℕ) :
    Gives (fun len => ∃ k < 2 ^ 64, len = k * 512) (materialLen blockSize stripes : Exec σ ℕ) := by
  rw [materialLen]
  split_ifs
  · exact Gives.throw _
  · exact Gives.throw _
  · intro s len h
    have hlt := checked_out_eq_ok h
    rw [mulU64_of_lt hlt] at h
    obtain rfl := Outcome.ok.inj h
    exact ⟨_, by omega, rfl⟩

/-- **Key material is decrypted to its end.** -/
theorem openMaterial_traced (hAlloc : ∀ n, Q (.alloc n)) (cipherMode hashSpec : String)
    (slotKey : Bytes) (offset : UInt64) (blockSize stripes : ℕ) :
    Traced (unlockVocabulary Q).words begun
      (openMaterial (ρ := ρ) K cipherMode hashSpec slotKey offset blockSize stripes) := by
  rw [openMaterial]
  refine (traced_of_leaves (leaves_materialLen _ _)).bind (materialLen_gives _ _) ?_
  rintro len ⟨k, hk, rfl⟩
  refine (traced_of_leaves (leaves_vecZeroed (hAlloc _))).andThen fun _ => ?_
  have hread : Gives (fun ct : ℕ × Bytes => ct.2.length = k * 512)
      (onReader (readAvailableAt (ρ := ρ) offset (k * 512))) := fun w ct h =>
    readAvailableAt_gives offset (k * 512) w.reader ct h
  refine (traced_of_leaves (Leaves.zoom (leaves_readAvailableAt _ _))).bind hread
    fun material hlen => ?_
  split_ifs
  · exact Traced.pure _
  · rw [← bind_assoc]
    refine (traced_emit (.material offset.toNat (k * 512)) fun s => ?_).andThen fun plain =>
      (traced_of_leaves (leaves_merge K hAlloc _ _ _ _)).andThen fun _ => Traced.pure _
    have hstep : tweakStep 512 = 1 := rfl
    have hfit : ∀ u < k, 0 + u * tweakStep 512 < 2 ^ 128 := by
      intro u hu
      rw [hstep]
      omega
    rcases xtsDecryptArea_events K cipherMode slotKey (by decide) hlen hfit s with ⟨-, hev⟩ | hnone
    · have hword := Word.material (V := unlockVocabulary Q) offset.toNat (tweaksOf 512 0 k)
        fun u tweak hu => by
          obtain ⟨huk, rfl⟩ := getElem?_tweaksOf hu
          exact ⟨huk.trans hk, by rw [hstep, Nat.zero_add, Nat.mul_one]⟩
      rw [length_tweaksOf] at hword
      rw [hev]
      exact Or.inl hword
    · exact Or.inr hnone

/-! ### The recovery loops -/

theorem tryKeyslot1_traced (hE : PermitsDerivation Q d) (hAlloc : ∀ n, Q (.alloc n))
    (header : Luks1Header) (passphrase : Bytes) (keyBytes : ℕ) (slot : Keyslot) (tried : ℕ) :
    Traced (unlockVocabulary Q).words begun
      (tryKeyslot1 (ρ := ρ) K clk header passphrase keyBytes d slot tried) := by
  rw [tryKeyslot1, ← bind_assoc]
  refine (traced_of_leaves (leaves_deriveKey K clk hE tried)).andThen fun slotKey =>
    (openMaterial_traced K hAlloc _ _ _ _ _ _).andThen fun candidate? => ?_
  cases candidate? with
  | none => exact Traced.pure _
  | some candidate =>
    refine (traced_of_leaves (leaves_verify K clk hE tried)).andThen fun verified => ?_
    cases verified <;> exact Traced.pure _

theorem recoverMasterKey1_traced (hE : PermitsDerivation Q d) (hAlloc : ∀ n, Q (.alloc n))
    (header : Luks1Header) (passphrase : Bytes) (keyBytes : ℕ) :
    Traced (unlockVocabulary Q).words begun
      (recoverMasterKey1 (ρ := ρ) K clk header passphrase keyBytes d) := by
  rw [recoverMasterKey1]
  refine (Traced.findSomeM? fun a _ => tryKeyslot1_traced K clk hE hAlloc header passphrase
    keyBytes a.1 a.2).andThen fun found? => ?_
  cases found? with
  | none => exact Traced.throw _
  | some r => exact Traced.pure _

theorem tryKeyslot2_traced (hE : PermitsDerivation Q d) (hAlloc : ∀ n, Q (.alloc n))
    (header : Luks2Header) (passphrase : Bytes) (slot : Luks2Keyslot) (tried : ℕ) :
    Traced (unlockVocabulary Q).words begun
      (tryKeyslot2 (ρ := ρ) K clk header passphrase d slot tried) := by
  rw [tryKeyslot2]
  refine (traced_of_leaves (leaves_deriveSlotKey K clk hE _ _ _)).andThen fun slotKey =>
    (openMaterial_traced K hAlloc _ _ _ _ _ _).andThen fun candidate? => ?_
  cases candidate? with
  | none => exact Traced.pure _
  | some candidate =>
    exact traced_of_leaves (Leaves.findSomeM? fun dig _ => leaves_tryDigest K clk hE _ _ _ _)

theorem recoverMasterKey2_traced (hE : PermitsDerivation Q d) (hAlloc : ∀ n, Q (.alloc n))
    (header : Luks2Header) (passphrase : Bytes) :
    Traced (unlockVocabulary Q).words begun
      (recoverMasterKey2 (ρ := ρ) K clk header passphrase d) := by
  rw [recoverMasterKey2]
  refine (Traced.findSomeM? fun a _ => tryKeyslot2_traced K clk hE hAlloc header passphrase
    a.1 a.2).andThen fun found? => ?_
  cases found? with
  | none => exact Traced.throw _
  | some r => exact Traced.pure _

end Material

/-! ### The entry points -/

/-- An event that has nothing to do with decryption. -/
def IsPreparation : Event → Prop
  | .alloc _ => True
  | .derive _ _ => True
  | .pbkdf2 _ => True
  | _ => False

theorem permitsDerivation_isPreparation (d : UnlockDeadline) :
    PermitsDerivation IsPreparation d :=
  ⟨fun _ _ => trivial, fun _ _ _ => trivial, fun _ _ _ => trivial⟩

section Unlocking

variable {ρ : Type} [ReadSeek ρ] (K : Crates) (clk : Clock)

theorem unlock1Inner_traced (passphrase : Bytes) (d : UnlockDeadline) :
    Traced (unlockVocabulary IsPreparation).words begun
      (unlock1Inner (ρ := ρ) K clk passphrase d) := by
  rw [unlock1Inner]
  refine (traced_of_leaves (leaves_vecZeroed trivial)).andThen fun _ =>
    (traced_of_leaves (Leaves.zoom (leaves_readFillAt _ _))).andThen fun hdrBuf =>
      (Traced.ofExcept _).andThen fun header => ?_
  split_ifs
  · exact Traced.throw _
  · refine (recoverMasterKey1_traced K clk (permitsDerivation_isPreparation d) (fun _ => trivial)
      header passphrase _).andThen fun found => ?_
    exact (traced_of_leaves (Leaves.zoom (leaves_seekTo _))).andThen fun totalSize =>
      (Traced.of_silent fun _ => rfl).andThen fun reader => Traced.pure _

theorem unlock2Inner_traced (passphrase : Bytes) (d : UnlockDeadline) :
    Traced (unlockVocabulary IsPreparation).words begun
      (unlock2Inner (ρ := ρ) K clk passphrase d) := by
  rw [unlock2Inner]
  refine (traced_of_leaves (leaves_vecZeroed trivial)).andThen fun _ =>
    (traced_of_leaves (Leaves.zoom (leaves_readFillAt _ _))).andThen fun bin =>
      (traced_of_leaves (leaves_vecZeroed trivial)).andThen fun _ =>
        (traced_of_leaves (Leaves.zoom (leaves_readAvailableAt _ _))).andThen fun full =>
          (Traced.ofExcept _).andThen fun header =>
            (traced_of_leaves (leaves_vecsCollected fun _ _ => trivial)).andThen fun _ => ?_
  cases header.cryptSegment with
  | none => exact Traced.throw _
  | some segment =>
    dsimp only
    split_ifs
    · exact Traced.throw _
    · refine (recoverMasterKey2_traced K clk (permitsDerivation_isPreparation d)
        (fun _ => trivial) header passphrase).andThen fun found => ?_
      exact (traced_of_leaves (Leaves.zoom (leaves_seekTo _))).andThen fun totalSize =>
        (Traced.of_silent fun _ => rfl).andThen fun reader => Traced.pure _

theorem unlock1_traced (passphrase : Bytes) (budget : Duration) :
    Traced (unlockVocabulary IsPreparation).words begun
      (unlock1WithPassphraseWithin (ρ := ρ) K clk passphrase budget) :=
  (Traced.of_silent fun _ => rfl).andThen fun d => unlock1Inner_traced K clk passphrase d

theorem unlock2_traced (passphrase : Bytes) (budget : Duration) :
    Traced (unlockVocabulary IsPreparation).words begun
      (unlock2WithPassphraseWithin (ρ := ρ) K clk passphrase budget) :=
  (Traced.of_silent fun _ => rfl).andThen fun d => unlock2Inner_traced K clk passphrase d

/-- **Every unlock decrypts its buffers to their end.** -/
theorem EntryPoint.unlock_traced (e : EntryPoint) (passphrase : Bytes) (budget : Duration) :
    Traced (unlockVocabulary IsPreparation).words begun
      (e.unlock (ρ := ρ) K clk passphrase budget) := by
  cases e with
  | luks1 => exact unlock1_traced K clk passphrase budget
  | luks2 => exact unlock2_traced K clk passphrase budget
  | detect =>
    change Traced _ _ (unlockWithPassphraseWithin K clk passphrase budget)
    rw [unlockWithPassphraseWithin]
    refine (traced_of_leaves (Leaves.zoom (leaves_readFillAt _ _))).andThen fun ver =>
      (traced_of_leaves (Leaves.zoom (leaves_seekTo _))).andThen fun _ => ?_
    split_ifs
    · exact unlock1_traced K clk passphrase budget
    · exact unlock2_traced K clk passphrase budget
    · exact Traced.throw _
    · exact Traced.throw _

end Unlocking

/-! ### Reading the payload -/

namespace DecryptedPayload

variable {ρ τ : Type}

/-- What a read of `len` bytes at `offset` needs to decrypt unit `n`: the mode there is, a
buffer, that the range has a byte of the unit, and that it has an address. -/
structure Decrypts (p : DecryptedPayload τ) (offset len n : ℕ) : Prop where
  /-- The mode is the one there is. -/
  mode : p.cipherMode = "xts-plain64"
  /-- A unit fits a buffer. -/
  size_le : p.unitSize ≤ isizeMax
  /-- The read asks for something. -/
  asks : 0 < len
  /-- The range does not start behind the unit. -/
  starts : offset < (n + 1) * p.unitSize
  /-- It does not end before the unit. -/
  ends : n * p.unitSize < offset + len
  /-- The unit has an address. -/
  address_lt : p.payloadOffset.toNat + n * p.unitSize < 2 ^ 64

/-- The tweak of the unit at an address, of those that a read decrypts. -/
def IsUnitTweak (p : DecryptedPayload τ) (offset len physical : ℕ) (tweak : Bytes) : Prop :=
  ∃ n, p.Decrypts offset len n ∧ physical = p.payloadOffset.toNat + n * p.unitSize ∧
    tweak = toLe 16 (p.ivTweak.toNat + n * tweakStep p.unitSize)

/-- The vocabulary of a read: it decrypts units of the payload. -/
def readVocabulary (p : DecryptedPayload τ) (offset len : ℕ) : Vocabulary where
  unitSize := p.unitSize
  other := IsPreparation
  sectorTweak _ _ := False
  unitTweak := p.IsUnitTweak offset len

variable [ReadSeek ρ] (K : Crates)

/-- **A pass of the loop decrypts a whole unit.** -/
theorem readUnit_traced (p : DecryptedPayload τ) {offset len done : ℕ} (hdone : done < len) :
    Traced (p.readVocabulary offset len).words begun
      (p.readUnit (ρ := ρ) K (offset + done)) := by
  have hpos := Nat.div_add_mod' (offset + done) p.unitSize
  have hmod := Nat.mod_lt (offset + done) p.unitSize_pos
  rw [readUnit]
  by_cases haddress : p.unitAddress (offset + done) < 2 ^ 64
  · rw [unitAddress] at haddress
    rw [mulU64_of_lt (by omega), pure_bind, addU64_of_lt haddress, pure_bind]
    refine (traced_of_leaves (leaves_vecZeroed trivial)).bind
      (fun _ _ h => vecZeroed_out_eq_ok h) fun _ hss =>
        (traced_of_leaves (leaves_readAvailableAt _ _)).bind (readAvailableAt_gives _ _)
          fun ct hlen => ?_
    have hunit : ct.2.length = 1 * p.unitSize := by rw [hlen, Nat.one_mul]
    have hle : 16 ≤ p.unitSize := le_trans (by omega) p.sector_le
    refine traced_emit (.unit _) fun r => ?_
    -- without a tweak the unit is not decrypted at all
    by_cases hmul : (offset + done) / p.unitSize * tweakStep p.unitSize < 2 ^ 128
    · by_cases hadd :
          p.ivTweak.toNat + (offset + done) / p.unitSize * tweakStep p.unitSize < 2 ^ 128
      · rw [mulU128_of_lt hmul, pure_bind, addU128_of_lt hadd, pure_bind]
        have hfit : ∀ u < 1, p.ivTweak.toNat + (offset + done) / p.unitSize *
            tweakStep p.unitSize + u * tweakStep p.unitSize < 2 ^ 128 := by
          intro u hu
          obtain rfl : u = 0 := by omega
          rwa [Nat.zero_mul, Nat.add_zero]
        rcases xtsDecryptArea_events K p.cipherMode p.masterKey hle hunit hfit r with
          ⟨hmode, hev⟩ | hnone
        · have hstarts : offset < ((offset + done) / p.unitSize + 1) * p.unitSize := by
            rw [Nat.succ_mul]
            omega
          rw [hev, tweaksOf_one]
          exact Or.inl (Word.unit (V := p.readVocabulary offset len) _ _
            ⟨(offset + done) / p.unitSize, ⟨hmode, hss, Nat.zero_lt_of_lt hdone, hstarts, by omega,
              haddress⟩, rfl, rfl⟩)
        · exact Or.inr hnone
      · rw [mulU128_of_lt hmul, pure_bind, addU128, checked, if_neg hadd]
        exact Or.inr ⟨rfl, fun a h => by cases h⟩
    · rw [mulU128, checked, if_neg hmul]
      exact Or.inr ⟨rfl, fun a h => by cases h⟩
  -- the unit has no address: nothing of it is read
  · rw [unitAddress] at haddress
    refine traced_of_leaves (leaves_checked_bind fun _ => ?_)
    rw [addU64, checked, if_neg haddress, Prog.abort_bind]
    exact Leaves.abort _

theorem readUnits_traced (p : DecryptedPayload τ) (offset len done : ℕ) :
    Traced (p.readVocabulary offset len).words begun
      (p.readUnits (ρ := ρ) K offset len done) := by
  induction done using p.loop_induct len with
  | stop done hdone =>
    rw [readUnits, dif_pos hdone]
    exact Traced.pure _
  | pass done hdone ih =>
    rw [p.readUnits_of_lt K hdone]
    by_cases hpos : offset + done < 2 ^ 64
    · rw [addU64_of_lt hpos, pure_bind]
      exact (readUnit_traced K p hdone).andThen fun plain =>
        (ih (offset + done)).andThen fun rest => Traced.pure _
    · rw [addU64, checked, if_neg hpos, Prog.abort_bind]
      exact Traced.of_silent fun _ => rfl

/-- **Every read decrypts its units to their end.** -/
theorem readAt_madeOf (p : DecryptedPayload ρ) (offset : UInt64) (len : ℕ) :
    MadeOf (p.readVocabulary offset.toNat len).words begun (readAt K offset len p) := by
  have hread := readUnits_traced (ρ := ρ) K p offset.toNat len 0 p.reader
  exact ⟨hread.mem, hread.mem_of_ok⟩

end DecryptedPayload

/-! ### Nothing is passed through -/

/-- A run **decrypts whole units**, of the size that the vocabulary says. -/
structure DecryptsWhole (V : Vocabulary) {σ α : Type} (run : Run LuksError Event σ α) :
    Prop where
  /-- Nothing is passed through as it is. -/
  not_passed : ∀ n, Event.passed n ∉ run.events
  /-- What is decrypted is a unit. -/
  unit : ∀ n tweak, Event.sector n tweak ∈ run.events → n = V.unitSize
  /-- Every buffer is decrypted to its end; where the run does not return, but for the last
  one, of which nothing is decrypted. -/
  covers : MadeOf V.words begun run

/-- What is decrypted is a unit of `unitSize` bytes. -/
def IsWhole (unitSize : ℕ) : Event → Prop
  | .passed _ => False
  | .sector n _ => n = unitSize
  | _ => True

/-- **What is made of words passes nothing through.** -/
theorem decryptsWhole_of_madeOf {V : Vocabulary} {σ α : Type} {run : Run LuksError Event σ α}
    (hV : V.other = IsPreparation) (h : MadeOf V.words begun run) : DecryptsWhole V run := by
  have hother : ∀ v, V.other v → IsWhole V.unitSize v := by
    intro v hv
    rw [hV] at hv
    cases v <;> trivial
  have hE : ∀ v ∈ run.events, IsWhole V.unitSize v := forall_mem_of_madeOf h hother
    (fun _ _ => trivial) (fun _ => trivial) (fun _ _ _ => rfl) (fun _ _ _ => rfl)
  exact ⟨fun n hn => hE _ hn, fun n tweak hn => hE _ hn, h⟩

/-- **No ciphertext is passed through.** Every unlock, of either version, on any reader and
under any clock, decrypts its key material in whole sectors of 512 bytes, to the end of the
buffer; and every read of a payload decrypts whole units of its size, which is no less. -/
theorem decrypts_whole_units {ρ : Type} [ReadSeek ρ] (K : Crates) :
    (∀ (e : EntryPoint) clk passphrase budget (w : World ρ),
      DecryptsWhole (unlockVocabulary IsPreparation) (e.unlock K clk passphrase budget w)) ∧
    ∀ p : DecryptedPayload ρ, 512 ≤ p.unitSize ∧ ∀ offset len,
      DecryptsWhole (p.readVocabulary offset.toNat len)
        (DecryptedPayload.readAt K offset len p) :=
  ⟨fun e clk passphrase budget w =>
    decryptsWhole_of_madeOf rfl (e.unlock_traced K clk passphrase budget w),
    fun p => ⟨p.sector_le, fun offset len =>
      decryptsWhole_of_madeOf rfl (p.readAt_madeOf K offset len)⟩⟩

end Luks
