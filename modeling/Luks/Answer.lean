import Luks.Basis.Search
import Luks.Volume

/-!
# What an unlock answers

The functions of `Luks.Spec` say what the key-recovery loops and the entry points
compute, as functions of the bytes of the container: no reader, no clock, no
budget. The theorems of this file connect the code to them. On any reader that
presents an image, and under any clock, the code answers what the function says of
that image, or refuses because of its budget (`Luks.Answers`); and everything it
does on the way is of a kind that `Luks.Permits` lists.

So a statement about the answer of an unlock needs to look at `Luks.Spec` only, and
a statement about what happens on the way needs to look at `Luks.Permits` only.
-/

namespace Luks

open Basis

namespace Spec

variable (K : Crates)

/-- The candidate master key in the key material at `offset`; nothing if the image
ends before the material does. -/
def openMaterial (img : Bytes) (cipherMode hashSpec : String) (slotKey : Bytes)
    (offset blockSize stripes : ℕ) : Except LuksError (Option Bytes) := do
  let len ← materialLen blockSize stripes
  if (window img offset len).length < len then return none
  else
    let plain ← xtsDecryptArea K cipherMode slotKey (window img offset len) 512 0
    let candidate ← merge K hashSpec plain blockSize stripes
    return some candidate

/-- Whether a digest verifies a candidate. -/
def verify (hashSpec : String) (candidate salt : Bytes) (iterations : UInt32)
    (expected : Bytes) : Except LuksError Bool := do
  let digest ← deriveKey K hashSpec candidate salt iterations expected.length
  return digest = expected

/-- The candidate of a LUKS1 keyslot. -/
def candidate1 (img : Bytes) (header : Luks1Header) (passphrase : Bytes) (slot : Keyslot) :
    Except LuksError (Option Bytes) := do
  let slotKey ← deriveKey K header.hashSpec passphrase slot.salt.toList slot.iterations
    header.keyBytes.toNat
  openMaterial K img header.cipherMode header.hashSpec slotKey
    (slot.keyMaterialOffset.toNat * sector) header.keyBytes.toNat slot.stripes.toNat

/-- Whether the digest of a LUKS1 header verifies a candidate. -/
def verify1 (header : Luks1Header) (candidate : Bytes) : Except LuksError Bool :=
  verify K header.hashSpec candidate header.mkDigestSalt.toList header.mkDigestIter
    header.mkDigest.toList

/-- What a LUKS1 keyslot gives. -/
def tryKeyslot1 (img : Bytes) (header : Luks1Header) (passphrase : Bytes) (slot : Keyslot) :
    Except LuksError (Option Recovered) := do
  match ← candidate1 K img header passphrase slot with
  | none => return none
  | some candidate =>
      if ← verify1 K header candidate then return some ⟨candidate, .luks1 slot⟩ else return none

/-- What a search ends with: what it found, or the failure to find anything. -/
def found {α : Type} : Option α → Except LuksError α
  | some a => .ok a
  | none => .error .authenticationFailed

/-- The key of a LUKS1 container. -/
def recoverMasterKey1 (img : Bytes) (header : Luks1Header) (passphrase : Bytes) :
    Except LuksError Recovered :=
  header.activeKeyslots.findSomeM? (tryKeyslot1 K img header passphrase) >>= found

/-- The key of a LUKS2 keyslot. -/
def deriveSlotKey (passphrase : Bytes) (slot : Luks2Keyslot) : Except LuksError Bytes :=
  match slot.kdf with
  | .argon2 kind time memory cpus salt =>
      deriveKeyArgon2 K ⟨kind, time, memory, cpus, salt⟩ passphrase slot.keySize.toNat
  | .pbkdf2 hash iterations salt =>
      deriveKey K hash passphrase salt iterations slot.keySize.toNat

/-- The candidate of a LUKS2 keyslot. -/
def candidate2 (img : Bytes) (passphrase : Bytes) (slot : Luks2Keyslot) :
    Except LuksError (Option Bytes) := do
  let slotKey ← deriveSlotKey K passphrase slot
  openMaterial K img (splitEncryption slot.areaEncryption).2 slot.afHash slotKey
    slot.areaOffset.toNat slot.keySize.toNat slot.afStripes.toNat

/-- What a digest makes of the candidate of a LUKS2 keyslot. -/
def tryDigest (slot : Luks2Keyslot) (candidate : Bytes) (dig : Luks2Digest) :
    Except LuksError (Option Recovered) :=
  if dig.kind = "pbkdf2" ∧ slot.id ∈ dig.keyslots then do
    if ← verify K dig.hash candidate dig.salt dig.iterations dig.digest then
      return some ⟨candidate, .luks2 slot dig⟩
    else return none
  else return none

/-- What a LUKS2 keyslot gives. -/
def tryKeyslot2 (img : Bytes) (digests : List Luks2Digest) (passphrase : Bytes)
    (slot : Luks2Keyslot) : Except LuksError (Option Recovered) := do
  match ← candidate2 K img passphrase slot with
  | none => return none
  | some candidate => digests.findSomeM? (tryDigest K slot candidate)

/-- The key of a LUKS2 container. -/
def recoverMasterKey2 (img : Bytes) (header : Luks2Header) (passphrase : Bytes) :
    Except LuksError Recovered :=
  header.keyslots.findSomeM? (tryKeyslot2 K img header.digests passphrase) >>= found

/-- The volume in a LUKS1 container. -/
def unlock1 (img passphrase : Bytes) : Except LuksError (Unlocked Bytes) := do
  let hdrBuf ← readFill img 0 luks1PhdrLen
  let header ← Luks1Header.parse hdrBuf
  if header.activeKeyslots.isEmpty then .error .noActiveKeyslot
  else
    let r ← recoverMasterKey1 K img header passphrase
    return ⟨header.payload img r.key img.length, r.acceptedBy⟩

/-- The size of the header of a LUKS2 container. -/
def hdrSize (img : Bytes) : ℕ := max (beU64 img 8).toNat luks2BinHdrLen

/-- The header of a LUKS2 container. -/
def header2 (img : Bytes) : Except LuksError Luks2Header :=
  Luks2Header.parse K (zeroFill (window img 0 (hdrSize img)) (hdrSize img))

/-- The volume in a LUKS2 container. -/
def unlock2 (img passphrase : Bytes) : Except LuksError (Unlocked Bytes) := do
  let _ ← readFill img 0 luks2BinHdrLen
  let header ← header2 K img
  match header.cryptSegment with
  | none => .error .noActiveKeyslot
  | some segment =>
      if header.keyslots.isEmpty then .error .noActiveKeyslot
      else
        let r ← recoverMasterKey2 K img header passphrase
        return ⟨segment.payload img r.key img.length, r.acceptedBy⟩

/-- The volume in a container of the version its header names. -/
def unlock (img passphrase : Bytes) : Except LuksError (Unlocked Bytes) := do
  let ver ← readFill img 0 8
  if beU16 ver 6 = 1 then unlock1 K img passphrase
  else if beU16 ver 6 = 2 then unlock2 K img passphrase
  else if luksMagic.toList.isPrefixOf ver then .error (.unsupportedVersion (beU16 ver 6))
  else .error (.notLuks (bytesN 6 ver 0))

end Spec

/-! ### What happens on the way -/

/-- A deadline grants a derivation that starts at `start` the time `left`: it has
not passed, and leaves that much. -/
structure UnlockDeadline.Grants (d : UnlockDeadline) (start : ℕ) (left : Duration) : Prop where
  /-- The total is not used up. -/
  early : start - d.started < d.total
  /-- No more is given than is left, and than one derivation may take. -/
  within : left ≤ min derivationBudget (d.total - (start - d.started))

/-- The events an unlock before the deadline `d` leaves, on the image `img`, are
among those that satisfy `E`. -/
structure Permits (E : Event → Prop) (img : Bytes) (d : UnlockDeadline) : Prop where
  /-- Buffers of at most 2^30 bytes. -/
  alloc : ∀ n ≤ 2 ^ 30, E (.alloc n)
  /-- Derivations that the deadline grants. -/
  derive : ∀ start left, d.Grants start left → E (.derive start left)
  /-- PBKDF2 calls that the deadline grants, run as their projection says. -/
  pbkdf2 : ∀ run, d.Grants run.start run.allowance → run.Projected → E (.pbkdf2 run)
  /-- Key material that is all there. -/
  material : ∀ offset len, (window img offset len).length = len → E (.material offset len)
  /-- Sectors of key material, under the tweak of their number. -/
  sector : ∀ u < 2 ^ 21, E (.sector 512 (toLe 16 u))

/-- Among them, the events a derivation before the deadline leaves. -/
structure PermitsDerivation (E : Event → Prop) (d : UnlockDeadline) : Prop where
  /-- Buffers of at most 2^30 bytes. -/
  alloc : ∀ n ≤ 2 ^ 30, E (.alloc n)
  /-- Derivations that the deadline grants. -/
  derive : ∀ start left, d.Grants start left → E (.derive start left)
  /-- PBKDF2 calls that the deadline grants, run as their projection says. -/
  pbkdf2 : ∀ run, d.Grants run.start run.allowance → run.Projected → E (.pbkdf2 run)

theorem Permits.derivation {E : Event → Prop} {img : Bytes} {d : UnlockDeadline}
    (h : Permits E img d) : PermitsDerivation E d := ⟨h.alloc, h.derive, h.pbkdf2⟩

/-- What a look at the deadline grants on a clock: all that is left. -/
structure UnlockDeadline.GrantsOn (d : UnlockDeadline) (clk : Clock) (start : ℕ)
    (left : Duration) : Prop extends d.Grants start left where
  /-- It was looked at on that clock. -/
  reading : ∃ n, start = clk.now n
  /-- As much as is left, up to what one derivation may take. -/
  left_eq : left = min derivationBudget (d.total - (start - d.started))

/-- No check against the deadline can fail: whenever it is looked at there is time, and enough
for any derivation. -/
def UnlockDeadline.Ample (d : UnlockDeadline) (clk : Clock) : Prop :=
  ∀ n, clk.now n - d.started < d.total ∧
    clk.Affords (min derivationBudget (d.total - (clk.now n - d.started)))

theorem UnlockDeadline.Ample.affords {d : UnlockDeadline} {clk : Clock} (h : d.Ample clk)
    {start : ℕ} {left : Duration} (hgrants : d.GrantsOn clk start left) : clk.Affords left := by
  obtain ⟨n, rfl⟩ := hgrants.reading
  rw [hgrants.left_eq]
  exact (h n).2

/-- The refusals that can happen before a deadline: none if it is ample. -/
def UnlockDeadline.Refuses (d : UnlockDeadline) (clk : Clock) (e : LuksError) : Prop :=
  e.IsBudgetRefusal ∧ ¬d.Ample clk

/-- A total budget is ample on a clock whenever it begins. -/
def Clock.Ample (clk : Clock) (budget : Duration) : Prop :=
  ∀ n, (UnlockDeadline.mk (clk.now n) budget).Ample clk

/-- The refusals that can happen within a total budget: none if it is ample. -/
def Refuses (clk : Clock) (budget : Duration) (e : LuksError) : Prop :=
  e.IsBudgetRefusal ∧ ¬clk.Ample budget

theorem refuses_of_deadline {clk : Clock} {budget : Duration} {n : ℕ} {e : LuksError}
    (h : (UnlockDeadline.mk (clk.now n) budget).Refuses clk e) : Refuses clk budget e :=
  ⟨h.1, fun hample => h.2 (hample n)⟩

/-- Any budget is ample on a clock that stands, if there is any time at all. -/
theorem Clock.Stands.ample {clk : Clock} {budget : Duration} (h : clk.Stands) (hpos : 0 < budget) :
    clk.Ample budget := by
  refine fun n m => ⟨?_, h.affords _⟩
  rw [h m n, Nat.sub_self]
  exact hpos

/-- So is one that leaves time enough on a clock that moves by `range` in all. -/
theorem Clock.ample_of_range {clk : Clock} {budget range : ℕ}
    (hrange : ∀ m n, clk.now n - clk.now m ≤ range) (hone : range * 2 ^ 32 ≤ derivationBudget)
    (hall : range * 2 ^ 32 + range < budget) : clk.Ample budget := by
  intro n m
  have hspent := hrange n m
  have hlt : clk.now m - clk.now n < budget := by omega
  have hleft : range * 2 ^ 32 ≤ budget - (clk.now m - clk.now n) := by omega
  exact ⟨hlt, fun i j => (Nat.mul_le_mul_right _ (hrange i j)).trans (le_min hone hleft)⟩

/-- Anything is permitted. -/
theorem permits_true (img : Bytes) (d : UnlockDeadline) : Permits (fun _ => True) img d :=
  ⟨fun _ _ => trivial, fun _ _ _ => trivial, fun _ _ _ => trivial, fun _ _ _ => trivial,
    fun _ _ => trivial⟩

/-! ### The code answers -/

/-- What is left of a deadline is read off the clock once. -/
theorem UnlockDeadline.remaining_eq {ρ : Type} (clk : Clock) (d : UnlockDeadline) (tried : ℕ)
    (w : World ρ) :
    d.remaining clk tried w =
      ⟨if clk.now w.ticks - d.started < d.total then
          .ok (min (d.total - (clk.now w.ticks - d.started)) derivationBudget)
        else .err (.unlockBudgetExceeded tried d.total.asSecs), [],
        { w with ticks := w.ticks + 1, now := clk.now w.ticks }⟩ := by
  rw [UnlockDeadline.remaining, Prog.bind_apply]
  simp only [Prog.bind, instantNow]
  -- what is left is positive exactly while less than the total has passed
  by_cases hlt : clk.now w.ticks - d.started < d.total
  · have hleft : (checkedSub d.total (clk.now w.ticks - d.started)).filter (0 < ·) =
        some (d.total - (clk.now w.ticks - d.started)) := by
      rw [checkedSub, if_pos hlt.le, Option.filter_some, if_pos (by simpa using hlt)]
    rw [if_pos hlt]
    simp only [hleft, Prog.pure_apply, List.append_nil]
  · have hnone : (checkedSub d.total (clk.now w.ticks - d.started)).filter (0 < ·) = none := by
      rw [checkedSub]
      split_ifs with hle
      · rw [Option.filter_some, if_neg (by simpa using hlt)]
      · rfl
    rw [if_neg hlt]
    simp only [hnone, Prog.throw_apply, List.append_nil]

section Answering

variable {ρ : Type} [ImageReader ρ]

/-- An unlock of a container with the bytes `img`. -/
def Opens (img : Bytes) (w : World ρ) : Prop := Presents img w.reader

theorem opens_init (r : ρ) : Opens (ImageReader.image r) (World.init r) := rfl

theorem ignoresTime_opens (img : Bytes) : IgnoresTime (Opens (ρ := ρ) img) :=
  fun _ _ _ hw => hw

/-- On a container with the bytes `img` the program answers `x` **unless** `S`: it ends as
`x` does, or is refused on its budget if that may be, or `S` holds and it is stopped where `x`
is an error; and it leaves events in `E` only. -/
def AnswersUnless {α : Type} (S : Prop) (img : Bytes) (R : LuksError → Prop) (E : Event → Prop)
    (m : Exec (World ρ) α) (x : Except LuksError α) : Prop :=
  Triple (Opens img) m (FollowsUnless S (Opens img) R x) E

/-- On a container with the bytes `img` the program **answers** `x`: it ends as `x`
does, or is refused on its budget if that may be, and leaves events in `E` only. -/
abbrev Answers {α : Type} (img : Bytes) (R : LuksError → Prop) (E : Event → Prop)
    (m : Exec (World ρ) α) (x : Except LuksError α) : Prop :=
  AnswersUnless False img R E m x

variable (K : Crates) (clk : Clock) {img : Bytes} {R : LuksError → Prop} {E : Event → Prop}
  {d : UnlockDeadline} {S : Prop}

theorem onReader_answers {α : Type} {m : Exec ρ α} {x : Except LuksError α}
    (h : Triple (Presents img) m (Follows (Presents img) R x) E) :
    Answers img R E (onReader m) x :=
  h.zoom (fun _ hw => hw) fun _ _ _ _ ht => ht

/-- The front of a container is read, where there is that much of it. -/
theorem onReader_front {n : ℕ} (h : n ≤ img.length) :
    Answers (ρ := ρ) img R (fun _ => True) (onReader (readFillAt 0 n)) (.ok (window img 0 n)) := by
  have hread : Spec.readFill img (0 : UInt64).toNat n = .ok (window img 0 n) :=
    Spec.readFill_front h
  rw [← hread]
  exact onReader_answers (readFillAt_follows 0 n)

/-- A look at the deadline gives what it grants. -/
theorem remaining_yields (hR : ∀ e, d.Refuses clk e → R e) (tried : ℕ) :
    Triple (Opens (ρ := ρ) img) (d.remaining clk tried)
      (Yields (Opens img) R fun left w => d.GrantsOn clk w.now left) E := by
  intro w hw
  rw [d.remaining_eq]
  refine ⟨⟨hw, ?_⟩, by simp⟩
  by_cases hlt : clk.now w.ticks - d.started < d.total
  · exact Or.inl ⟨_, if_pos hlt, ⟨hlt, le_of_eq (min_comm _ _)⟩, ⟨w.ticks, rfl⟩, min_comm _ _⟩
  · exact Or.inr ⟨.unlockBudgetExceeded tried d.total.asSecs,
      hR _ ⟨trivial, fun h => hlt (h w.ticks).1⟩, if_neg hlt⟩

/-- What follows a look at the deadline starts with what it grants. -/
theorem bind_remaining_answers {α : Type} {f : Duration → Exec (World ρ) α}
    {x : Except LuksError α} (hR : ∀ e, d.Refuses clk e → R e) (tried : ℕ)
    (hf : ∀ start left, d.GrantsOn clk start left → Triple (fun w => Opens img w ∧ w.now = start)
      (f left) (FollowsUnless S (Opens img) R x) E) :
    AnswersUnless S img R E (d.remaining clk tried >>= f) x := by
  refine Triple.bind_yields (remaining_yields clk hR tried)
    fun left => Triple.of_forall_eq World.now fun start => ?_
  rintro w ⟨⟨hw, hgrants⟩, rfl⟩
  exact hf w.now left hgrants w ⟨hw, rfl⟩

/-! ### Reading an answer off a run -/

section Runs

variable {α β : Type} {f : α → β} {m : Exec (World ρ) α} {x : Except LuksError β} {w : World ρ}

/-- How a run ends that answers: a value that it returns is the answer, an error that it
reports is the answer or a refusal, and it is stopped only where the answer is an error. -/
theorem AnswersUnless.follows (h : AnswersUnless S img R E (f <$> m) x) (hw : Opens img w) :
    FollowsUnless S (fun w' => Opens img w') R x ((m w).out.map f) (m w).final := by
  have hout := (h w hw).1
  rwa [Prog.map_apply] at hout

/-- A run that answers ends as the answer says, or is refused, unless it may be stopped. -/
theorem AnswersUnless.out (h : AnswersUnless S img R E (f <$> m) x) (hS : ¬S) (hw : Opens img w) :
    (m w).out.map f = .ofExcept x ∨ ∃ e, R e ∧ (m w).out = .err e :=
  ((h.follows hw).of_not hS).2.imp_right fun ⟨e, he, herr⟩ =>
    ⟨e, he, Outcome.map_eq_err_iff.mp herr⟩

/-- A run that returned shows the answer. -/
theorem AnswersUnless.eq_ok (h : AnswersUnless S img R E (f <$> m) x) (hw : Opens img w) {a : α}
    (hok : (m w).out = .ok a) : x = .ok (f a) := by
  have hfollows := h.follows hw
  rw [hok] at hfollows
  exact hfollows.eq_ok

/-- A run that failed for no reason of time shows the answer. -/
theorem AnswersUnless.eq_error (h : AnswersUnless S img R E (f <$> m) x) (hw : Opens img w)
    {e : LuksError} (he : ¬R e) (herr : (m w).out = .err e) : x = .error e := by
  have hfollows := h.follows hw
  rw [herr] at hfollows
  exact hfollows.eq_error.resolve_right he

/-- Where the answer is a value, a run returns it or is refused. -/
theorem AnswersUnless.ok_or_refused {b : β} (h : AnswersUnless S img R E (f <$> m) (.ok b))
    (hw : Opens img w) : (∃ a, (m w).out = .ok a ∧ f a = b) ∨ ∃ e, R e ∧ (m w).out = .err e := by
  cases hout : (m w).out with
  | ok a => exact Or.inl ⟨a, rfl, Except.ok.inj (h.eq_ok hw hout).symm⟩
  | err e =>
    refine Or.inr ⟨e, ?_, rfl⟩
    by_contra he
    cases h.eq_error hw he hout
  | panic p =>
    have hfollows := h.follows hw
    rw [hout] at hfollows
    obtain ⟨-, e, he⟩ := hfollows.stopped
    cases he

/-- A run is stopped only where it may be, and where the answer is an error. -/
theorem AnswersUnless.stopped (h : AnswersUnless S img R E (f <$> m) x) (hw : Opens img w)
    {p : Panic} (hp : (m w).out = .panic p) : S ∧ ∃ e, x = .error e := by
  have hfollows := h.follows hw
  rw [hp] at hfollows
  exact hfollows.stopped

/-- A run that answers is not stopped. -/
theorem AnswersUnless.ne_panic (h : AnswersUnless S img R E (f <$> m) x) (hS : ¬S)
    (hw : Opens img w) (p : Panic) : (m w).out ≠ .panic p :=
  fun hp => hS (h.stopped hw hp).1

/-- A run that answers and does not return fails. -/
theorem AnswersUnless.exists_err (h : AnswersUnless S img R E (f <$> m) x) (hS : ¬S)
    (hw : Opens img w) (hok : ∀ a, (m w).out ≠ .ok a) : ∃ e, (m w).out = .err e := by
  cases hout : (m w).out with
  | ok a => exact absurd hout (hok a)
  | err e => exact ⟨e, rfl⟩
  | panic p => exact absurd hout (h.ne_panic hS hw p)

/-- The events of a run that answers are those it may leave. -/
theorem AnswersUnless.mem_events (h : AnswersUnless S img R E (f <$> m) x) (hw : Opens img w)
    {v : Event} (hv : v ∈ (m w).events) : E v := by
  obtain ⟨-, hE⟩ := h w hw
  rw [Prog.map_apply] at hE
  exact hE v hv

end Runs

/-! ### The steps of a recovery -/

theorem Spec.length_of_materialLen_eq_ok {blockSize stripes len : ℕ} (hb : blockSize ≤ 1024)
    (h : Spec.materialLen blockSize stripes = .ok len) :
    len ≤ 2 ^ 30 ∧ len = Spec.sectorRounded (blockSize * stripes) := by
  rw [Spec.materialLen] at h
  split_ifs at h with hs
  obtain rfl : Spec.sectorRounded (blockSize * stripes) = len := Except.ok.inj h
  exact ⟨Spec.sectorRounded_le hb (Nat.le_of_not_lt hs), rfl⟩

/-- Opening key material asks for buffers, and leaves the extent that it decrypts and the
sectors of it. -/
theorem openMaterial_answers_of (cipherMode hashSpec : String) (slotKey : Bytes)
    (offset : UInt64) {blockSize : ℕ} (stripes : ℕ) (hb : blockSize ≤ 1024)
    (hAlloc : ∀ n ≤ 2 ^ 30, E (.alloc n))
    (hMaterial : ∀ len, len = Spec.sectorRounded (blockSize * stripes) →
      (window img offset.toNat len).length = len → E (.material offset.toNat len))
    (hSector : ∀ u < 2 ^ 21, E (.sector 512 (toLe 16 u))) :
    Answers img R E (openMaterial (ρ := ρ) K cipherMode hashSpec slotKey offset blockSize stripes)
      (Spec.openMaterial K img cipherMode hashSpec slotKey offset.toNat blockSize stripes) := by
  rw [openMaterial, Spec.openMaterial]
  refine Triple.bind_follows (materialLen_follows hb) fun len hlen => ?_
  obtain ⟨hle, hround⟩ := Spec.length_of_materialLen_eq_ok hb hlen
  refine Triple.bind_ok_follows (vecZeroed_follows (hle.trans (by decide)) (hAlloc len hle)) ?_
  refine Triple.bind_ok_follows (onReader_answers (readAvailableAt_follows _ _)) ?_
  -- the container may end inside the key material
  by_cases hshort : (window img offset.toNat len).length < len
  · simp only [if_pos hshort]
    exact Triple.pure_follows
  · have hfull : (window img offset.toNat len).length = len := by
      rw [length_window] at hshort ⊢
      omega
    simp only [if_neg hshort, zeroFill_of_length hfull]
    refine Triple.bind_ok_follows (Triple.emit_follows (hMaterial len hround hfull)) ?_
    refine Triple.bind_follows (xtsDecryptArea_follows K _ _ (k := len / 512) (by omega) ?_ ?_ ?_)
      fun plain _ => Triple.bind_follows (merge_follows K hashSpec hb (hAlloc _ (by omega)))
        fun candidate _ => Triple.pure_follows
    · rw [hfull, hround, Spec.sectorRounded, Nat.mul_div_cancel _ (by omega)]
    · intro u hu
      rw [tweakStep, show max (512 / 512) 1 = 1 from rfl]
      omega
    · intro u hu
      rw [tweakStep, Nat.zero_add, show max (512 / 512) 1 = 1 from rfl, Nat.mul_one]
      exact hSector u (by omega)

theorem openMaterial_answers (hE : Permits E img d) (cipherMode hashSpec : String)
    (slotKey : Bytes) (offset : UInt64) {blockSize : ℕ} (stripes : ℕ) (hb : blockSize ≤ 1024) :
    Answers img R E (openMaterial (ρ := ρ) K cipherMode hashSpec slotKey offset blockSize stripes)
      (Spec.openMaterial K img cipherMode hashSpec slotKey offset.toNat blockSize stripes) :=
  openMaterial_answers_of K _ _ _ _ _ hb hE.alloc (fun _ _ => hE.material _ _) hE.sector

theorem Spec.le_of_deriveKey_eq_ok {hashSpec : String} {password salt key : Bytes}
    {iterations : UInt32} {keyLen : ℕ}
    (h : Spec.deriveKey K hashSpec password salt iterations keyLen = .ok key) : keyLen ≤ 1024 := by
  rw [Spec.deriveKey] at h
  split_ifs at h with hlen
  rw [maxKeyBytes] at hlen
  omega

theorem Spec.le_of_deriveKeyArgon2_eq_ok {p : Argon2Params} {password key : Bytes} {keyLen : ℕ}
    (h : Spec.deriveKeyArgon2 K p password keyLen = .ok key) : keyLen ≤ 1024 := by
  rw [Spec.deriveKeyArgon2] at h
  cases ha : algorithmOf p.kind with
  | error e =>
    rw [ha] at h
    cases h
  | ok alg =>
    rw [ha, ok_bind] at h
    split_ifs at h with hlen
    all_goals
      rw [maxKeyBytes] at hlen
      omega

/-- A PBKDF2 derivation under what the deadline grants. -/
theorem deriveKeyWithin_answers (hE : PermitsDerivation E d)
    (hR : ∀ e, d.Refuses clk e → R e) {start left : ℕ}
    (hgrants : d.GrantsOn clk start left) {hashSpec : String} {password salt : Bytes}
    {iterations : UInt32} {keyLen : ℕ} :
    Triple (fun w => Opens (ρ := ρ) img w ∧ w.now = start)
      (deriveKeyWithin K clk hashSpec password salt iterations keyLen left)
      (Follows (Opens img) R
        (Spec.deriveKey K hashSpec password salt iterations keyLen)) E := by
  refine deriveKeyWithin_follows K clk (ignoresTime_opens img)
    (fun e he h => hR e ⟨he, fun ha => h (ha.affords hgrants)⟩)
    (fun n hn => hE.alloc n (hn.trans (by decide))) (hE.derive start left hgrants.toGrants)
    ?_ _ _ _ _ _
  rintro run rfl rfl hrun
  exact hE.pbkdf2 run hgrants.toGrants hrun

theorem verify_answers (hE : PermitsDerivation E d) (hR : ∀ e, d.Refuses clk e → R e)
    (tried : ℕ) {hashSpec : String}
    {candidate salt : Bytes} {iterations : UInt32} {expected : Bytes} :
    Answers img R E (verify (ρ := ρ) K clk d tried hashSpec candidate salt iterations expected)
      (Spec.verify K hashSpec candidate salt iterations expected) := by
  rw [verify, Spec.verify]
  refine bind_remaining_answers clk hR tried fun start left hgrants => ?_
  exact Triple.bind_follows (deriveKeyWithin_answers K clk hE hR hgrants)
    fun digest _ => Triple.pure_follows

/-! ### LUKS1 -/

theorem toNat_materialOffset (o : UInt32) :
    (o.toUInt64 * UInt64.ofNat sector).toNat = o.toNat * sector := by
  have hlt := o.toNat_lt
  rw [UInt64.toNat_mul, UInt32.toNat_toUInt64, sector]
  exact Nat.mod_eq_of_lt (by simp; omega)

theorem tryKeyslot1_answers (hE : Permits E img d) (hR : ∀ e, d.Refuses clk e → R e)
    (header : Luks1Header) (passphrase : Bytes)
    (slot : Keyslot) (tried : ℕ) :
    Answers img R E
      (tryKeyslot1 (ρ := ρ) K clk header passphrase header.keyBytes.toNat d slot tried)
      (Spec.tryKeyslot1 K img header passphrase slot) := by
  rw [tryKeyslot1, Spec.tryKeyslot1, Spec.candidate1, bind_assoc]
  refine bind_remaining_answers clk hR tried fun start left hgrants => ?_
  refine Triple.bind_follows (deriveKeyWithin_answers K clk hE.derivation hR hgrants)
    fun slotKey hkey => ?_
  have hb := Spec.le_of_deriveKey_eq_ok K hkey
  rw [← toNat_materialOffset]
  refine Triple.bind_follows (openMaterial_answers K hE _ _ _ _ _ hb) fun candidate? _ => ?_
  cases candidate? with
  | none => exact Triple.pure_follows
  | some candidate =>
    refine Triple.bind_follows (verify_answers K clk hE.derivation hR _) fun verified _ => ?_
    cases verified <;> exact Triple.pure_follows

/-- **LUKS1 recovery answers**, on every image and under every clock. -/
theorem recoverMasterKey1_answers (hE : Permits E img d) (hR : ∀ e, d.Refuses clk e → R e)
    (header : Luks1Header) (passphrase : Bytes) :
    Answers img R E (recoverMasterKey1 (ρ := ρ) K clk header passphrase header.keyBytes.toNat d)
      (Spec.recoverMasterKey1 K img header passphrase) := by
  rw [recoverMasterKey1, Spec.recoverMasterKey1, ← findSomeM?_zipIdx _ 0]
  refine Triple.bind_follows (Triple.findSomeM? fun l₁ a l₂ hl hpass =>
    tryKeyslot1_answers K clk hE hR header passphrase a.1 a.2) fun found? _ => ?_
  cases found? with
  | none => exact Triple.throw_follows
  | some r => exact Triple.pure_follows

/-! ### LUKS2 -/

/-- A keyslot **stops** an unlock that comes to it: it is one of Argon2, and its parameters do. -/
def Luks2Keyslot.Stops (slot : Luks2Keyslot) : Prop :=
  match slot.kdf with
  | .argon2 kind time memory cpus salt =>
      Argon2Params.Stops ⟨kind, time, memory, cpus, salt⟩ slot.keySize.toNat
  | .pbkdf2 _ _ _ => False

theorem deriveSlotKey_answers (hE : PermitsDerivation E d) (hR : ∀ e, d.Refuses clk e → R e)
    (passphrase : Bytes) (slot : Luks2Keyslot)
    (tried : ℕ) :
    AnswersUnless slot.Stops img R E (deriveSlotKey (ρ := ρ) K clk passphrase d slot tried)
      (Spec.deriveSlotKey K passphrase slot) := by
  rw [deriveSlotKey, Spec.deriveSlotKey, Luks2Keyslot.Stops]
  cases slot.kdf with
  | argon2 kind time memory cpus salt =>
    refine bind_remaining_answers clk hR tried fun start left hgrants => ?_
    exact deriveKeyArgon2Within_follows K clk (ignoresTime_opens img)
      (fun e he h => hR e ⟨he, fun ha => h (ha.affords hgrants)⟩)
      (fun n hn => hE.alloc n (hn.trans (by decide))) (hE.derive start left hgrants.toGrants) _ _ _
  | pbkdf2 hash iterations salt =>
    refine bind_remaining_answers clk hR tried fun start left hgrants => ?_
    exact deriveKeyWithin_answers K clk hE hR hgrants

theorem Spec.le_of_deriveSlotKey_eq_ok {passphrase key : Bytes} {slot : Luks2Keyslot}
    (h : Spec.deriveSlotKey K passphrase slot = .ok key) : slot.keySize.toNat ≤ 1024 := by
  rw [Spec.deriveSlotKey] at h
  cases hk : slot.kdf with
  | argon2 kind time memory cpus salt =>
    rw [hk] at h
    exact Spec.le_of_deriveKeyArgon2_eq_ok K h
  | pbkdf2 hash iterations salt =>
    rw [hk] at h
    exact Spec.le_of_deriveKey_eq_ok K h

theorem tryDigest_answers (hE : PermitsDerivation E d) (hR : ∀ e, d.Refuses clk e → R e)
    (slot : Luks2Keyslot) (tried : ℕ)
    (candidate : Bytes) (dig : Luks2Digest) :
    Answers img R E (tryDigest (ρ := ρ) K clk d slot tried candidate dig)
      (Spec.tryDigest K slot candidate dig) := by
  rw [tryDigest, Spec.tryDigest]
  by_cases hlists : dig.kind = "pbkdf2" ∧ slot.id ∈ dig.keyslots
  · rw [if_pos hlists, if_pos hlists]
    refine Triple.bind_follows (verify_answers K clk hE hR _) fun verified _ => ?_
    cases verified <;> exact Triple.pure_follows
  · rw [if_neg hlists, if_neg hlists]
    exact Triple.pure_follows

theorem tryKeyslot2_answers (hE : Permits E img d) (hR : ∀ e, d.Refuses clk e → R e)
    (header : Luks2Header) (passphrase : Bytes)
    (slot : Luks2Keyslot) (tried : ℕ) :
    AnswersUnless slot.Stops img R E (tryKeyslot2 (ρ := ρ) K clk header passphrase d slot tried)
      (Spec.tryKeyslot2 K img header.digests passphrase slot) := by
  rw [tryKeyslot2, Spec.tryKeyslot2, Spec.candidate2, bind_assoc]
  refine Triple.bind_follows (deriveSlotKey_answers K clk hE.derivation hR _ _ _)
    fun slotKey hkey => ?_
  have hb := Spec.le_of_deriveSlotKey_eq_ok K hkey
  refine Triple.bind_follows (openMaterial_answers K hE _ _ _ _ _ hb).unstopped
    fun candidate? _ => ?_
  cases candidate? with
  | none => exact Triple.pure_follows
  | some candidate =>
    exact Triple.findSomeM? fun l₁ dig l₂ hl hpass =>
      (tryDigest_answers K clk hE.derivation hR _ _ _ _).unstopped

/-- Under the passphrase, an unlock comes to a keyslot that **stops** it: the keyslots before it
are passed over. -/
def Spec.Stops2 (img : Bytes) (header : Luks2Header) (passphrase : Bytes) : Prop :=
  ∃ l₁ slot l₂, header.keyslots = l₁ ++ slot :: l₂ ∧
    (∀ s ∈ l₁, Spec.tryKeyslot2 K img header.digests passphrase s = .ok none) ∧ slot.Stops

/-- **LUKS2 recovery answers**, on every image and under every clock, unless it comes to a
keyslot that stops it. -/
theorem recoverMasterKey2_answers (hE : Permits E img d) (hR : ∀ e, d.Refuses clk e → R e)
    (header : Luks2Header) (passphrase : Bytes) :
    AnswersUnless (Spec.Stops2 K img header passphrase) img R E
      (recoverMasterKey2 (ρ := ρ) K clk header passphrase d)
      (Spec.recoverMasterKey2 K img header passphrase) := by
  rw [recoverMasterKey2, Spec.recoverMasterKey2, ← findSomeM?_zipIdx _ 0]
  refine Triple.bind_follows (Triple.findSomeM? fun l₁ a l₂ hl hpass =>
    (tryKeyslot2_answers K clk hE hR header passphrase a.1 a.2).orStopped fun hstops => ?_)
    fun found? _ => ?_
  · -- those before it were passed over
    have hfst := congrArg (List.map Prod.fst) hl
    rw [List.zipIdx_map_fst, List.map_append, List.map_cons] at hfst
    refine ⟨_, _, _, hfst, fun s hs => ?_, hstops⟩
    obtain ⟨b, hb, rfl⟩ := List.mem_map.mp hs
    exact hpass b hb
  cases found? with
  | none => exact Triple.throw_follows
  | some r => exact Triple.pure_follows

/-! ### The entry points -/

/-- The end of an unlock: the volume over the reader that is left. -/
theorem finish_answers {f : ρ → Unlocked ρ} {u : Unlocked Bytes}
    (h : ∀ r, Presents img r → (f r).map ImageReader.image = u) :
    Answers img R E (Unlocked.map ImageReader.image <$> do
      let reader ← Prog.get World.reader
      return f reader) (.ok u) := by
  rw [map_bind]
  simp only [map_pure]
  intro w hw
  exact ⟨⟨hw, Or.inl (congrArg Outcome.ok (h w.reader hw))⟩, by
    simp [Prog.bind_apply, Prog.bind, Prog.get]⟩

theorem seekTo_end_answers :
    Answers (ρ := ρ) img R E (onReader (seekTo (.fromEnd 0))) (.ok img.length) :=
  onReader_answers seekTo_end

theorem unlock1Inner_answers (hE : Permits E img d) (hR : ∀ e, d.Refuses clk e → R e)
    (passphrase : Bytes) :
    Answers img R E (Unlocked.map ImageReader.image <$> unlock1Inner (ρ := ρ) K clk passphrase d)
      (Spec.unlock1 K img passphrase) := by
  rw [unlock1Inner, Spec.unlock1, map_bind]
  refine Triple.bind_ok_follows (vecZeroed_follows (by decide) (hE.alloc _ (by decide))) ?_
  rw [map_bind]
  refine Triple.bind_follows (onReader_answers (readFillAt_follows _ _)) fun hdrBuf _ => ?_
  rw [map_bind]
  refine Triple.bind_follows (Triple.ofExcept_follows _) fun header _ => ?_
  by_cases hslots : header.activeKeyslots.isEmpty
  · simp only [if_pos hslots]
    exact Triple.throw_follows
  · simp only [if_neg hslots, map_bind]
    refine Triple.bind_follows (recoverMasterKey1_answers K clk hE hR header passphrase)
      fun r _ => ?_
    refine Triple.bind_ok_follows seekTo_end_answers ?_
    rw [← map_bind]
    refine finish_answers fun r hr => ?_
    rw [← hr]
    rfl

/-- The header size is read off the binary header. -/
theorem Spec.hdrSize_of_readFill {bin : Bytes}
    (h : Spec.readFill img 0 luks2BinHdrLen = .ok bin) :
    max (beU64 bin 8).toNat luks2BinHdrLen = Spec.hdrSize img := by
  obtain ⟨rfl, hlen⟩ := Spec.readFill_eq_ok h
  rw [length_window] at hlen
  rw [beU64_window (by decide) (by omega), Spec.hdrSize]

theorem Spec.le_of_readFill {n : ℕ} {bs : Bytes} (h : Spec.readFill img 0 n = .ok bs) :
    n ≤ img.length := by
  obtain ⟨-, hlen⟩ := Spec.readFill_eq_ok h
  rw [length_window] at hlen
  omega

/-- An unlock of the image comes to a keyslot that stops it. -/
def Spec.UnlockStops2 (img passphrase : Bytes) : Prop :=
  luks2BinHdrLen ≤ img.length ∧ ∃ header segment, Spec.header2 K img = .ok header ∧
    header.cryptSegment = some segment ∧ Spec.Stops2 K img header passphrase

/-- What a LUKS2 unlock needs for the header of the image may happen, and the header fits a
buffer. -/
structure PermitsHeader (E : Event → Prop) (img : Bytes) : Prop where
  /-- The buffer of the header. -/
  alloc : E (.alloc (Spec.hdrSize img))
  /-- There can be one. -/
  fits : Spec.hdrSize img ≤ isizeMax
  /-- The vectors that the header is collected in. -/
  vecs : ∀ header, Spec.header2 K img = .ok header → ∀ n ∈ header.vecs K, E (.alloc n)

theorem unlock2Inner_answers (hE : Permits E img d) (hR : ∀ e, d.Refuses clk e → R e)
    (hHdr : PermitsHeader K E img) (passphrase : Bytes) :
    AnswersUnless (Spec.UnlockStops2 K img passphrase) img R E
      (Unlocked.map ImageReader.image <$> unlock2Inner (ρ := ρ) K clk passphrase d)
      (Spec.unlock2 K img passphrase) := by
  rw [unlock2Inner, Spec.unlock2, map_bind]
  refine Triple.bind_ok_follows
    (vecZeroed_follows (by decide) (hE.alloc _ (by decide))).unstopped ?_
  rw [map_bind]
  refine Triple.bind_follows (onReader_answers (readFillAt_follows _ _)).unstopped
    fun bin hbin => ?_
  simp only [Spec.hdrSize_of_readFill hbin, map_bind]
  refine Triple.bind_ok_follows (vecZeroed_follows hHdr.fits hHdr.alloc).unstopped ?_
  refine Triple.bind_ok_follows (onReader_answers (readAvailableAt_follows _ _)).unstopped ?_
  refine Triple.bind_follows (Triple.ofExcept_follows _) fun header hheader => ?_
  refine Triple.bind_ok_follows (vecsCollected_follows (hHdr.vecs header hheader)) ?_
  cases hsegment : header.cryptSegment with
  | none => exact Triple.throw_follows
  | some segment =>
    by_cases hslots : header.keyslots.isEmpty
    · simp only [if_pos hslots]
      exact Triple.throw_follows
    · simp only [if_neg hslots, map_bind]
      refine Triple.bind_follows ((recoverMasterKey2_answers K clk hE hR header
        passphrase).orStopped fun h => ⟨Spec.le_of_readFill hbin, header, segment, hheader,
          hsegment, h⟩) fun r _ => ?_
      refine Triple.bind_ok_follows seekTo_end_answers.unstopped ?_
      rw [← map_bind]
      refine Triple.unstopped (finish_answers fun r hr => ?_)
      rw [← hr]
      rfl

/-- A deadline that starts now answers what any deadline answers. -/
theorem bind_new_answers {α : Type} {f : UnlockDeadline → Exec (World ρ) α}
    {x : Except LuksError α} (budget : Duration)
    (hf : ∀ n, AnswersUnless S img R E (f ⟨clk.now n, budget⟩) x) :
    AnswersUnless S img R E (UnlockDeadline.new clk budget >>= f) x := by
  rw [UnlockDeadline.new, bind_assoc]
  exact bind_instantNow_follows clk (ignoresTime_opens img) hf

/-- **LUKS1 unlock answers.** -/
theorem unlock1_answers {budget : Duration} (hE : ∀ t, Permits E img ⟨t, budget⟩)
    (passphrase : Bytes) :
    Answers img (Refuses clk budget) E (Unlocked.map ImageReader.image <$>
      unlock1WithPassphraseWithin (ρ := ρ) K clk passphrase budget)
      (Spec.unlock1 K img passphrase) := by
  rw [unlock1WithPassphraseWithin, map_bind]
  exact bind_new_answers clk budget fun n =>
    unlock1Inner_answers K clk (hE (clk.now n)) (fun _ => refuses_of_deadline) passphrase

/-- A container without room for a LUKS2 binary header is refused. -/
theorem unlock2_answers_of_short {budget : Duration} (hE : E (.alloc luks2BinHdrLen))
    (hshort : img.length < luks2BinHdrLen) (passphrase : Bytes) :
    Answers img R E (Unlocked.map ImageReader.image <$>
      unlock2WithPassphraseWithin (ρ := ρ) K clk passphrase budget)
      (.error (.io .unexpectedEof)) := by
  have hread : Spec.readFill img (0 : UInt64).toNat luks2BinHdrLen = .error (.io .unexpectedEof) :=
    Spec.readFill_of_gt (by decide) (by simpa using hshort)
  rw [unlock2WithPassphraseWithin, map_bind]
  refine bind_new_answers clk budget fun n => ?_
  rw [unlock2Inner, map_bind]
  refine Triple.bind_ok_follows (vecZeroed_follows (by decide) hE) ?_
  rw [map_bind]
  refine Triple.bind_error_follows (onReader_answers ?_)
  rw [← hread]
  exact readFillAt_follows 0 luks2BinHdrLen

theorem Spec.unlock2_of_short (hshort : img.length < luks2BinHdrLen) (passphrase : Bytes) :
    Spec.unlock2 K img passphrase = .error (.io .unexpectedEof) := by
  rw [Spec.unlock2, Spec.readFill_of_gt (by decide) (by simpa using hshort)]
  rfl

/-- **LUKS2 unlock answers**, unless a header is declared that no buffer can have, or the unlock
comes to a keyslot that stops it. -/
theorem unlock2_answers {budget : Duration} (hE : ∀ t, Permits E img ⟨t, budget⟩)
    (hHdr : luks2BinHdrLen ≤ img.length → PermitsHeader K E img) (passphrase : Bytes) :
    AnswersUnless (Spec.UnlockStops2 K img passphrase) img (Refuses clk budget) E
      (Unlocked.map ImageReader.image <$>
      unlock2WithPassphraseWithin (ρ := ρ) K clk passphrase budget)
      (Spec.unlock2 K img passphrase) := by
  by_cases hlen : luks2BinHdrLen ≤ img.length
  · rw [unlock2WithPassphraseWithin, map_bind]
    exact bind_new_answers clk budget fun n => unlock2Inner_answers K clk (hE (clk.now n))
      (fun _ => refuses_of_deadline) (hHdr hlen) passphrase
  · rw [Spec.unlock2_of_short K (Nat.lt_of_not_le hlen)]
    exact (unlock2_answers_of_short K clk ((hE 0).alloc _ (by decide)) (Nat.lt_of_not_le hlen)
      passphrase).unstopped

/-- **A keyslot that stops an unlock** stops the recovery that comes to it, if that is not
refused before. -/
theorem recoverMasterKey2_halts (hR : ∀ e, d.Refuses clk e → R e) {header : Luks2Header}
    {passphrase : Bytes} (h : Spec.Stops2 K img header passphrase) :
    Triple (Opens (ρ := ρ) img) (recoverMasterKey2 K clk header passphrase d)
      (Halts .arithmeticOverflow R) fun _ => True := by
  obtain ⟨l₁, slot, l₂, hl, hpass, hstops⟩ := h
  rw [recoverMasterKey2, hl, List.zipIdx_append, List.zipIdx_cons]
  refine Triple.bind_left_halts (Triple.findSomeM?_halts (fun x hx => ?_) ?_)
  · -- the keyslots before it are passed over
    have hx' : x.1 ∈ l₁ := by
      have hmem := List.mem_map_of_mem (f := Prod.fst) hx
      rwa [List.zipIdx_map_fst] at hmem
    have hslot := tryKeyslot2_answers (ρ := ρ) K clk (permits_true img d) hR header passphrase
      x.1 x.2
    rw [hpass x.1 hx'] at hslot
    exact hslot.returns
  · rw [Luks2Keyslot.Stops] at hstops
    dsimp only
    rw [tryKeyslot2, deriveSlotKey]
    cases hkdf : slot.kdf with
    | argon2 kind time memory cpus salt =>
      rw [hkdf] at hstops
      refine Triple.bind_left_halts (Triple.bind_yields_halts (remaining_yields clk hR _)
        fun left => ?_)
      exact (deriveKeyArgon2Within_halts K clk hstops passphrase left).pre fun _ _ => trivial
    | pbkdf2 hash iterations salt =>
      rw [hkdf] at hstops
      exact hstops.elim

/-- **A container whose header asks for what is not permitted**, or cannot exist, makes a LUKS2
unlock go wrong. -/
theorem unlock2_breaks {budget : Duration} (hlen : luks2BinHdrLen ≤ img.length)
    (hbad : ¬PermitsHeader K E img) (passphrase : Bytes) :
    Breaks (Opens (ρ := ρ) img) (unlock2WithPassphraseWithin K clk passphrase budget) E := by
  have hinner : ∀ d, Breaks (Opens (ρ := ρ) img) (unlock2Inner K clk passphrase d) E := by
    intro d
    rw [unlock2Inner]
    refine Breaks.bind_right (vecZeroed_follows (E := fun _ => True) (by decide) trivial) ?_
    refine Breaks.bind_right (onReader_front hlen) ?_
    rw [Spec.hdrSize_of_readFill (Spec.readFill_front hlen)]
    by_cases hHdr : E (.alloc (Spec.hdrSize img)) ∧ Spec.hdrSize img ≤ isizeMax
    · -- it is one of the vectors of the header that is not permitted
      obtain ⟨header, hheader, hvecs⟩ : ∃ header, Spec.header2 K img = .ok header ∧
          ∃ n ∈ header.vecs K, ¬E (.alloc n) := by
        by_contra hnone
        exact hbad ⟨hHdr.1, hHdr.2, fun header hheader n hn => by_contra fun hover =>
          hnone ⟨header, hheader, n, hn, hover⟩⟩
      have hread : Triple (Opens (ρ := ρ) img) (onReader (readAvailableAt 0 (Spec.hdrSize img)))
          (Follows (Opens img) (fun _ => False) (.ok ((window img 0 (Spec.hdrSize img)).length,
            zeroFill (window img 0 (Spec.hdrSize img)) (Spec.hdrSize img)))) fun _ => True :=
        onReader_answers (readAvailableAt_follows _ _)
      refine Breaks.bind_right (vecZeroed_follows (E := fun _ => True) hHdr.2 trivial) ?_
      refine Breaks.bind_right hread ?_
      rw [show Luks2Header.parse K _ = _ from hheader]
      refine Breaks.bind_right (Triple.ofExcept_follows (E := fun _ => True) _) ?_
      exact Breaks.bind_left (breaks_vecsCollected hvecs)
    · -- it is the buffer of the header
      have hvec : Breaks (Opens (ρ := ρ) img) (vecZeroed (Spec.hdrSize img)) E := by
        rw [vecZeroed]
        split_ifs with hfit
        · exact Breaks.abort
        · exact Breaks.bind_left (Breaks.emit fun h => hHdr ⟨h, Nat.le_of_not_lt hfit⟩)
      exact Breaks.bind_left hvec
  intro w hw
  rw [unlock2WithPassphraseWithin, UnlockDeadline.new, bind_assoc]
  exact Breaks.bind_right (m := instantNow clk) (I := Opens img) (F := fun _ => True)
    (a := clk.now w.ticks) (P := fun w' => w' = w) (by
      rintro w' rfl
      exact ⟨⟨hw, Or.inl rfl⟩, by simp⟩) (hinner _) w rfl

/-- **A keyslot that stops an unlock stops it**, unless it is refused before for its time. -/
theorem unlock2_halts {budget : Duration} (hfit : Spec.hdrSize img ≤ isizeMax) {passphrase : Bytes}
    (h : Spec.UnlockStops2 K img passphrase) :
    Triple (Opens (ρ := ρ) img) (unlock2WithPassphraseWithin K clk passphrase budget)
      (Halts .arithmeticOverflow (Refuses clk budget)) fun _ => True := by
  obtain ⟨hlen, header, segment, hheader, hsegment, hstops⟩ := h
  have hne : ¬header.keyslots.isEmpty := by
    obtain ⟨l₁, slot, l₂, hl, -⟩ := hstops
    simp [hl]
  have hread : Triple (Opens (ρ := ρ) img) (onReader (readAvailableAt 0 (Spec.hdrSize img)))
      (Follows (Opens img) (fun _ => False) (.ok ((window img 0 (Spec.hdrSize img)).length,
        zeroFill (window img 0 (Spec.hdrSize img)) (Spec.hdrSize img)))) fun _ => True :=
    onReader_answers (readAvailableAt_follows _ _)
  have hinner : ∀ n, Triple (Opens (ρ := ρ) img) (unlock2Inner K clk passphrase ⟨clk.now n, budget⟩)
      (Halts .arithmeticOverflow (Refuses clk budget)) fun _ => True := by
    intro n
    rw [unlock2Inner]
    refine Triple.bind_sure (vecZeroed_follows (by decide) trivial) ?_
    refine Triple.bind_sure (onReader_front hlen) ?_
    rw [Spec.hdrSize_of_readFill (Spec.readFill_front hlen)]
    refine Triple.bind_sure (vecZeroed_follows hfit trivial) ?_
    refine Triple.bind_sure hread ?_
    rw [show Luks2Header.parse K _ = _ from hheader]
    refine Triple.bind_sure (Triple.ofExcept_follows _) ?_
    refine Triple.bind_sure (vecsCollected_follows fun _ _ => trivial) ?_
    rw [hsegment]
    dsimp only
    rw [if_neg hne]
    exact Triple.bind_left_halts (recoverMasterKey2_halts K clk (fun _ => refuses_of_deadline)
      hstops)
  rw [unlock2WithPassphraseWithin, UnlockDeadline.new, bind_assoc]
  refine Triple.bind_yields_halts (instantNow_yields clk (ignoresTime_opens img)) fun started => ?_
  rintro w ⟨hw, n, rfl⟩
  exact hinner n w hw

/-- **Unlock answers**, whichever version the container has. -/
theorem unlock_answers {budget : Duration} (hE : ∀ t, Permits E img ⟨t, budget⟩)
    (hHdr : beU16 img 6 = 2 → luks2BinHdrLen ≤ img.length → PermitsHeader K E img)
    (passphrase : Bytes) :
    AnswersUnless (beU16 img 6 = 2 ∧ Spec.UnlockStops2 K img passphrase) img
      (Refuses clk budget) E (Unlocked.map ImageReader.image <$>
        unlockWithPassphraseWithin (ρ := ρ) K clk passphrase budget)
      (Spec.unlock K img passphrase) := by
  rw [unlockWithPassphraseWithin, Spec.unlock, map_bind]
  refine Triple.bind_follows (onReader_answers (readFillAt_follows _ _)).unstopped
    fun ver hver => ?_
  have hsix : beU16 ver 6 = beU16 img 6 := by
    obtain ⟨rfl, hlen⟩ := Spec.readFill_eq_ok hver
    rw [length_window] at hlen
    exact beU16_window (by decide) (by omega)
  rw [map_bind]
  refine Triple.bind_ok_follows (onReader_answers (seekTo_start_follows _)).unstopped ?_
  -- one case for each of the four ends of the code
  by_cases hone : beU16 ver 6 = 1
  · simp only [if_pos hone]
    exact (unlock1_answers K clk hE passphrase).unstopped
  · by_cases htwo : beU16 ver 6 = 2
    · simp only [if_neg hone, if_pos htwo]
      have hsix2 : beU16 img 6 = 2 := hsix ▸ htwo
      exact (unlock2_answers K clk hE (hHdr hsix2) passphrase).orStopped fun h => ⟨hsix2, h⟩
    · simp only [if_neg hone, if_neg htwo]
      by_cases hmagic : luksMagic.toList.isPrefixOf ver
      · simp only [if_pos hmagic]
        exact Triple.throw_follows
      · simp only [if_neg hmagic]
        exact Triple.throw_follows

/-! ### Whole runs -/

/-- The image declares a LUKS2 header that no buffer can have. -/
def Oversized (img : Bytes) : Prop :=
  luks2BinHdrLen ≤ img.length ∧ isizeMax < Spec.hdrSize img

theorem unlock1_run (budget : Duration) (passphrase : Bytes) :
    Answers img (Refuses clk budget) (fun _ => True) (Unlocked.map ImageReader.image <$>
      unlock1WithPassphraseWithin (ρ := ρ) K clk passphrase budget)
      (Spec.unlock1 K img passphrase) :=
  unlock1_answers K clk (fun _ => permits_true img _) passphrase

theorem permitsHeader_true (h : ¬Oversized img) (hlen : luks2BinHdrLen ≤ img.length) :
    PermitsHeader K (fun _ => True) img :=
  ⟨trivial, Nat.le_of_not_lt fun hbig => h ⟨hlen, hbig⟩, fun _ _ _ _ => trivial⟩

theorem unlock2_run (h : ¬Oversized img) (budget : Duration) (passphrase : Bytes) :
    AnswersUnless (Spec.UnlockStops2 K img passphrase) img (Refuses clk budget) (fun _ => True)
      (Unlocked.map ImageReader.image <$>
        unlock2WithPassphraseWithin (ρ := ρ) K clk passphrase budget)
      (Spec.unlock2 K img passphrase) :=
  unlock2_answers K clk (fun _ => permits_true img _) (permitsHeader_true K h) passphrase

theorem unlock_run (h : beU16 img 6 = 2 → ¬Oversized img) (budget : Duration)
    (passphrase : Bytes) :
    AnswersUnless (beU16 img 6 = 2 ∧ Spec.UnlockStops2 K img passphrase) img
      (Refuses clk budget) (fun _ => True) (Unlocked.map ImageReader.image <$>
        unlockWithPassphraseWithin (ρ := ρ) K clk passphrase budget)
      (Spec.unlock K img passphrase) :=
  unlock_answers K clk (fun _ => permits_true img _)
    (fun htwo => permitsHeader_true K (h htwo)) passphrase

variable {w : World ρ}

/-- A LUKS2 unlock stops at a header that no buffer can hold. -/
theorem unlock2_stops (h : Oversized img) (budget : Duration) (passphrase : Bytes) :
    Triple (Opens (ρ := ρ) img) (unlock2WithPassphraseWithin K clk passphrase budget)
      (fun o _ => o = .panic .capacityOverflow) fun _ => True := by
  have hinner : ∀ d, Triple (Opens (ρ := ρ) img) (unlock2Inner K clk passphrase d)
      (fun o _ => o = .panic .capacityOverflow) fun _ => True := by
    intro d
    rw [unlock2Inner]
    refine Triple.bind_sure (vecZeroed_follows (E := fun _ => True) (by decide) trivial) ?_
    refine Triple.bind_sure (onReader_front h.1) ?_
    rw [Spec.hdrSize_of_readFill (Spec.readFill_front h.1)]
    intro w _
    -- the second buffer is the one that cannot be had
    have hstop : (vecZeroed (Spec.hdrSize img) w).out = .panic .capacityOverflow := by
      rw [vecZeroed, if_pos h.2]
      rfl
    rw [Prog.bind_of_panic hstop]
    exact ⟨rfl, fun _ _ => trivial⟩
  have hnew : Triple (Opens (ρ := ρ) img) (UnlockDeadline.new clk budget)
      (fun o w => (∃ d, o = .ok d) ∧ Opens img w) fun _ => True :=
    fun w hw => ⟨⟨⟨⟨clk.now w.ticks, budget⟩, rfl⟩, hw⟩, fun _ _ => trivial⟩
  rw [unlock2WithPassphraseWithin]
  refine Triple.bind hnew (fun d => (hinner d).pre fun w hw => hw.2) ?_ ?_
  · rintro e w ⟨⟨d, hd⟩, -⟩
    cases hd
  · rintro p w ⟨⟨d, hd⟩, -⟩
    cases hd

/-- An unlock stops there, if the container says it is of version 2. -/
theorem unlock_stops (htwo : beU16 img 6 = 2) (h : Oversized img) (budget : Duration)
    (passphrase : Bytes) :
    Triple (Opens (ρ := ρ) img) (unlockWithPassphraseWithin K clk passphrase budget)
      (fun o _ => o = .panic .capacityOverflow) fun _ => True := by
  have hlen : 8 ≤ img.length := le_trans (by decide) h.1
  have hver : beU16 (window img 0 8) 6 = 2 := by rw [beU16_window (by decide) hlen, htwo]
  refine Triple.bind_sure (onReader_front hlen) ?_
  refine Triple.bind_sure (onReader_answers (R := fun _ => False) (seekTo_start_follows _)) ?_
  rw [hver, if_neg (by decide), if_pos rfl]
  exact unlock2_stops K clk h budget passphrase

/-- A keyslot that stops an unlock stops it, if the container says it is of version 2. -/
theorem unlock_halts (htwo : beU16 img 6 = 2)
    (hfit : Spec.hdrSize img ≤ isizeMax) {budget : Duration} {passphrase : Bytes}
    (h : Spec.UnlockStops2 K img passphrase) :
    Triple (Opens (ρ := ρ) img) (unlockWithPassphraseWithin K clk passphrase budget)
      (Halts .arithmeticOverflow (Refuses clk budget)) fun _ => True := by
  have hlen8 : 8 ≤ img.length := le_trans (by decide) h.1
  have hver : beU16 (window img 0 8) 6 = 2 := by rw [beU16_window (by decide) hlen8, htwo]
  refine Triple.bind_sure (onReader_front hlen8) ?_
  refine Triple.bind_sure (onReader_answers (R := fun _ => False) (seekTo_start_follows _)) ?_
  rw [hver, if_neg (by decide), if_pos rfl]
  exact unlock2_halts K clk hfit h

/-- A clock that stands refuses nothing, if there is any time at all. -/
theorem not_refuses {budget : Duration} (hstands : clk.Stands) (hpos : 0 < budget)
    (e : LuksError) : ¬Refuses clk budget e := fun h => h.2 (hstands.ample hpos)

/-- **A run that has the time** comes to its answer. -/
theorem AnswersUnless.settles {α β : Type} {f : α → β} {m : Exec (World ρ) α}
    {x : Except LuksError β} {budget : Duration}
    (h : AnswersUnless S img (Refuses clk budget) E (f <$> m) x) (hS : ¬S) (hw : Opens img w)
    (hstands : clk.Stands) (hpos : 0 < budget) : (m w).out.map f = .ofExcept x :=
  (h.out hS hw).resolve_right fun ⟨e, he, _⟩ => not_refuses clk hstands hpos e he

/-- It returns the answer, where that is a value. -/
theorem AnswersUnless.ok_of_ample {α β : Type} {f : α → β} {m : Exec (World ρ) α} {b : β}
    {budget : Duration} (h : AnswersUnless S img (Refuses clk budget) E (f <$> m) (.ok b))
    (hw : Opens img w) (hample : clk.Ample budget) : ∃ a, (m w).out = .ok a ∧ f a = b :=
  (h.ok_or_refused hw).resolve_right fun ⟨_, he, _⟩ => he.2 hample

theorem AnswersUnless.settles_ok {α β : Type} {f : α → β} {m : Exec (World ρ) α} {b : β}
    {budget : Duration} (h : AnswersUnless S img (Refuses clk budget) E (f <$> m) (.ok b))
    (hw : Opens img w) (hstands : clk.Stands) (hpos : 0 < budget) :
    ∃ a, (m w).out = .ok a ∧ f a = b :=
  h.ok_of_ample clk hw (hstands.ample hpos)

/-- What an image holds is found on a clock that stands. -/
theorem unlock_ne_err (h : beU16 img 6 = 2 → ¬Oversized img) {budget : Duration}
    (hstands : clk.Stands) (hpos : 0 < budget) {passphrase : Bytes} {u : Unlocked Bytes}
    (hspec : Spec.unlock K img passphrase = .ok u) (hw : Opens img w) (e : LuksError) :
    (unlockWithPassphraseWithin K clk passphrase budget w).out ≠ .err e := by
  have hrun := unlock_run (ρ := ρ) K clk h budget passphrase
  rw [hspec] at hrun
  obtain ⟨a, ha, -⟩ := hrun.settles_ok clk hw hstands hpos
  rw [ha]
  simp

/-- **A LUKS2 unlock that succeeds shows what the image holds.** -/
theorem unlock2_eq_ok {budget : Duration} {passphrase : Bytes} {u : Unlocked ρ}
    (hw : Opens img w)
    (hok : (unlock2WithPassphraseWithin K clk passphrase budget w).out = .ok u) :
    ¬Oversized img ∧ Spec.unlock2 K img passphrase = .ok (u.map ImageReader.image) := by
  have hfit : ¬Oversized img := by
    intro h
    have hstop := (unlock2_stops K clk h budget passphrase w hw).1
    rw [hok] at hstop
    cases hstop
  exact ⟨hfit, (unlock2_run K clk hfit budget passphrase).eq_ok hw hok⟩

/-- **An unlock that succeeds shows what the image holds.** -/
theorem unlock_eq_ok {budget : Duration} {passphrase : Bytes} {u : Unlocked ρ}
    (hw : Opens img w)
    (hok : (unlockWithPassphraseWithin K clk passphrase budget w).out = .ok u) :
    (beU16 img 6 = 2 → ¬Oversized img) ∧
      Spec.unlock K img passphrase = .ok (u.map ImageReader.image) := by
  have hfit : beU16 img 6 = 2 → ¬Oversized img := by
    intro htwo h
    have hstop := (unlock_stops K clk htwo h budget passphrase w hw).1
    rw [hok] at hstop
    cases hstop
  exact ⟨hfit, (unlock_run K clk hfit budget passphrase).eq_ok hw hok⟩

end Answering

end Luks
