import Luks.Format1
import Luks.Work
import Mathlib.Data.List.Nodup
import Mathlib.Data.List.Sigma

/-!
# The audit of a header

The parameters that a LUKS1 header shows without a passphrase are audited: a cipher mode that
is CBC or ECB, SHA-1 as its hash, keyslots of fewer than 1000 iterations, and how many keyslots
are active. What is observed is an anomaly (`Luks.Anomaly`), whose severity, code and note come
from its kind.

An audit finds what there is to find, each of it once, and what is published of an anomaly
tells its kind (`Luks.audit1_exact`). And it agrees with the unlock of the same container,
which is another program (`Luks.audit1_agrees_with_unlock`).
-/

namespace Luks

open Basis

/-! ### Anomalies -/

/-- The analyzer that a finding names as its source. -/
def analyzer : String := "luks-forensic"

/-- The severities of this code. -/
inductive Severity where
  /-- An observation. -/
  | info
  /-- A low severity. -/
  | low
  /-- A medium severity. -/
  | medium
  deriving DecidableEq

/-- The analytical lenses of this code. -/
inductive Category where
  /-- What protects the data. -/
  | integrity
  /-- Where it comes from. -/
  | provenance
  deriving DecidableEq

/-- A field of the header that bears a finding out. -/
structure Evidence where
  /-- Its name. -/
  field : String
  /-- Its value. -/
  value : String
  deriving DecidableEq

/-- What can be observed of a header. -/
inductive AnomalyKind where
  /-- The cipher mode is CBC or ECB. -/
  | weakCipherMode (mode : String)
  /-- The hash is SHA-1. -/
  | weakKdfHash (hash : String)
  /-- A keyslot has a very low iteration count. -/
  | lowKdfIterations (slot : ℕ) (iterations : UInt32)
  /-- The number of active keyslots. -/
  | keyslotInventory (active : ℕ)
  deriving DecidableEq

namespace AnomalyKind

/-- How severe it is. -/
def severity : AnomalyKind → Severity
  | weakCipherMode _ | weakKdfHash _ => .low
  | lowKdfIterations _ _ => .medium
  | keyslotInventory _ => .info

/-- Its code, for machines. -/
def code : AnomalyKind → String
  | weakCipherMode _ => "LUKS-WEAK-CIPHER-MODE"
  | weakKdfHash _ => "LUKS-WEAK-KDF-HASH"
  | lowKdfIterations _ _ => "LUKS-LOW-KDF-ITERATIONS"
  | keyslotInventory _ => "LUKS-KEYSLOT-INVENTORY"

/-- The lens it is seen through. -/
def category : AnomalyKind → Category
  | weakCipherMode _ | weakKdfHash _ | lowKdfIterations _ _ => .integrity
  | keyslotInventory _ => .provenance

/-- A note on it, for readers, with the value. -/
def note : AnomalyKind → String
  | weakCipherMode mode => "cipher mode is " ++ mode ++ " (weaker than xts-plain64)"
  | weakKdfHash hash => "KDF/AF hash is " ++ hash
  | lowKdfIterations slot iterations =>
      "keyslot " ++ slot.repr ++ " has only " ++ iterations.toNat.repr ++
        " PBKDF2 iterations (brute-force risk)"
  | keyslotInventory active => active.repr ++ " active keyslot(s) of 8"

/-- The fields that bear it out. -/
def evidence : AnomalyKind → List Evidence
  | weakCipherMode mode => [⟨"cipher_mode", mode⟩]
  | weakKdfHash hash => [⟨"hash_spec", hash⟩]
  | lowKdfIterations slot iterations =>
      [⟨"keyslot", slot.repr⟩, ⟨"iterations", iterations.toNat.repr⟩]
  | keyslotInventory active => [⟨"active_keyslots", active.repr⟩]

end AnomalyKind

/-- An observation, graded. -/
structure Anomaly where
  /-- How severe it is. -/
  severity : Severity
  /-- Its code. -/
  code : String
  /-- What was observed. -/
  kind : AnomalyKind
  /-- A note on it. -/
  note : String
  deriving DecidableEq

/-- The anomaly of a kind: all of it comes from the kind. -/
def Anomaly.new (kind : AnomalyKind) : Anomaly where
  severity := kind.severity
  code := kind.code
  kind := kind
  note := kind.note

/-- The lens an anomaly is seen through. -/
def Anomaly.category (a : Anomaly) : Category := a.kind.category

/-- The fields that bear an anomaly out. -/
def Anomaly.evidence (a : Anomaly) : List Evidence := a.kind.evidence

/-! ### The audit -/

/-- A cipher mode is one of the weak ones. -/
def IsWeakMode (mode : String) : Prop :=
  "cbc".toList <+: mode.toList ∨ "ecb".toList <+: mode.toList

instance (mode : String) : Decidable (IsWeakMode mode) := inferInstanceAs (Decidable (_ ∨ _))

/-- A keyslot is active, and has very few iterations. -/
def Keyslot.IsLow (slot : Keyslot) : Prop := slot.isActive ∧ slot.iterations < 1000

instance (slot : Keyslot) : Decidable slot.IsLow := inferInstanceAs (Decidable (_ ∧ _))

/-- Audit a header. -/
def audit1 (header : Luks1Header) : List Anomaly :=
  (if IsWeakMode header.cipherMode then [Anomaly.new (.weakCipherMode header.cipherMode)]
    else []) ++
  (if header.hashSpec = "sha1" then [Anomaly.new (.weakKdfHash header.hashSpec)] else []) ++
  ((List.ofFn header.keyslots).zipIdx.filterMap fun (slot, i) =>
    if slot.IsLow then some (Anomaly.new (.lowKdfIterations i slot.iterations)) else none) ++
  [Anomaly.new (.keyslotInventory header.activeKeyslots.length)]

/-- Who made a finding, and of what. -/
structure FindingSource where
  /-- The analyzer. -/
  analyzer : String
  /-- The evidence it looked at. -/
  scope : String
  /-- Its version. -/
  version : Option String

/-- Audit a header, and make findings of the anomalies: `toFinding` is how the report library
does. -/
def audit1Findings {φ : Type} (toFinding : Anomaly → FindingSource → φ) (version : String)
    (header : Luks1Header) (scope : String) : List φ :=
  let source : FindingSource := ⟨analyzer, scope, some version⟩
  (audit1 header).map fun a => toFinding a source

/-! ### What there is to find -/

/-- What an audit is to observe. -/
def Observable (header : Luks1Header) : AnomalyKind → Prop
  | .weakCipherMode mode => mode = header.cipherMode ∧ IsWeakMode mode
  | .weakKdfHash hash => hash = header.hashSpec ∧ hash = "sha1"
  | .lowKdfIterations slot iterations =>
      ∃ i : Fin luksNumKeys, slot = i ∧ (header.keyslots i).active = keyEnabled ∧
        iterations = (header.keyslots i).iterations ∧ iterations.toNat < 1000
  | .keyslotInventory active => active = header.activeKeyslots.length

/-- Numbers are told apart by their digits. -/
theorem repr_injective : Function.Injective Nat.repr := by
  intro a b h
  have hdigits := congrArg String.toList h
  rw [Nat.toList_repr, Nat.toList_repr] at hdigits
  rw [← Nat.ofDigitChars_ten_toDigits (n := a), hdigits, Nat.ofDigitChars_ten_toDigits]

/-- **Evidence tells the kind** of an anomaly. -/
theorem AnomalyKind.evidence_injective : Function.Injective AnomalyKind.evidence := by
  intro a b h
  cases a with
  | weakCipherMode mode =>
    cases b <;> simp_all [AnomalyKind.evidence]
  | weakKdfHash hash =>
    cases b <;> simp_all [AnomalyKind.evidence]
  | lowKdfIterations slot iterations =>
    cases b with
    | lowKdfIterations slot' iterations' =>
      simp only [AnomalyKind.evidence, List.cons.injEq, Evidence.mk.injEq, true_and, and_true] at h
      rw [repr_injective h.1, UInt32.toNat_inj.mp (repr_injective h.2)]
    | weakCipherMode mode => simp [AnomalyKind.evidence] at h
    | weakKdfHash hash => simp [AnomalyKind.evidence] at h
    | keyslotInventory active => simp [AnomalyKind.evidence] at h
  | keyslotInventory active =>
    cases b with
    | keyslotInventory active' =>
      simp only [AnomalyKind.evidence, List.cons.injEq, Evidence.mk.injEq, true_and, and_true] at h
      rw [repr_injective h]
    | weakCipherMode mode => simp [AnomalyKind.evidence] at h
    | weakKdfHash hash => simp [AnomalyKind.evidence] at h
    | lowKdfIterations slot iterations => simp [AnomalyKind.evidence] at h

section Exact

variable {header : Luks1Header}

/-- All anomalies of an audit are made from their kinds. -/
theorem eq_new_of_mem_audit1 {a : Anomaly} (h : a ∈ audit1 header) : a = Anomaly.new a.kind := by
  rw [audit1] at h
  simp only [List.mem_append, List.mem_filterMap, List.mem_singleton] at h
  rcases h with ((h | h) | ⟨⟨slot, i⟩, -, h⟩) | rfl
  · split_ifs at h <;> simp_all [Anomaly.new]
  · split_ifs at h <;> simp_all [Anomaly.new]
  · dsimp only at h
    split_ifs at h
    obtain rfl := Option.some.inj h
    rfl
  · rfl

/-- The kinds an audit observes, in their order. -/
def observed (header : Luks1Header) : List AnomalyKind := (audit1 header).map Anomaly.kind

theorem audit1_eq_map : audit1 header = (observed header).map Anomaly.new := by
  have hnew : ∀ a ∈ audit1 header, (Anomaly.new ∘ Anomaly.kind) a = id a :=
    fun a ha => (eq_new_of_mem_audit1 ha).symm
  rw [observed, List.map_map, List.map_congr_left hnew, List.map_id]

/-- The kinds of the keyslots that are low. -/
def lowKinds (header : Luks1Header) : List AnomalyKind :=
  (List.ofFn header.keyslots).zipIdx.filterMap fun p =>
    if p.1.IsLow then some (.lowKdfIterations p.2 p.1.iterations) else none

theorem observed_eq : observed header =
    (if IsWeakMode header.cipherMode then [.weakCipherMode header.cipherMode] else []) ++
    (if header.hashSpec = "sha1" then [.weakKdfHash header.hashSpec] else []) ++
    lowKinds header ++ [.keyslotInventory header.activeKeyslots.length] := by
  have hlow : ∀ p : Keyslot × ℕ, Option.map Anomaly.kind (if p.1.IsLow then
      some (Anomaly.new (.lowKdfIterations p.2 p.1.iterations)) else none) =
      if p.1.IsLow then some (.lowKdfIterations p.2 p.1.iterations) else none := by
    intro p
    split_ifs <;> rfl
  rw [observed, audit1, List.map_append, List.map_append, List.map_append, List.map_filterMap,
    lowKinds]
  simp only [hlow]
  split_ifs <;> rfl

/-- A keyslot that is low is seen under its number. -/
theorem mem_lowKinds_iff {k : AnomalyKind} : k ∈ lowKinds header ↔
    ∃ i : Fin luksNumKeys, (header.keyslots i).IsLow ∧
      .lowKdfIterations i (header.keyslots i).iterations = k := by
  rw [lowKinds, List.mem_filterMap]
  constructor
  · rintro ⟨⟨slot, n⟩, hmem, hk⟩
    rw [List.mem_zipIdx_iff_getElem?, List.getElem?_ofFn] at hmem
    dsimp only at hmem hk
    split_ifs at hmem hk with hn hlow
    obtain rfl := Option.some.inj hmem
    exact ⟨⟨n, hn⟩, hlow, Option.some.inj hk⟩
  · rintro ⟨i, hlow, rfl⟩
    refine ⟨⟨header.keyslots i, i⟩, ?_, if_pos hlow⟩
    rw [List.mem_zipIdx_iff_getElem?, List.getElem?_ofFn, dif_pos i.isLt]

/-- They are told apart by it. -/
theorem nodup_lowKinds : (lowKinds header).Nodup := by
  have hnumbers := List.pairwise_map.mp (List.nodup_zipIdx_map_snd (List.ofFn header.keyslots))
  refine List.Pairwise.filterMap _ (fun p q hne k hp l hq => ?_) hnumbers
  split_ifs at hp hq
  obtain rfl := Option.some.inj hp
  obtain rfl := Option.some.inj hq
  intro h
  exact hne (AnomalyKind.lowKdfIterations.inj h).1

/-- **An audit observes what there is to observe.** -/
theorem mem_observed_iff {k : AnomalyKind} : k ∈ observed header ↔ Observable header k := by
  rw [observed_eq]
  simp only [List.mem_append, List.mem_singleton, mem_lowKinds_iff, List.mem_ite_nil_right]
  cases k with
  | weakCipherMode mode =>
    simp only [Observable, reduceCtorEq, and_false, or_false, exists_false,
      AnomalyKind.weakCipherMode.injEq]
    exact ⟨fun ⟨hweak, h⟩ => ⟨h, h ▸ hweak⟩, fun ⟨h, hweak⟩ => ⟨h ▸ hweak, h⟩⟩
  | weakKdfHash hash =>
    simp only [Observable, reduceCtorEq, and_false, or_false, false_or, exists_false,
      AnomalyKind.weakKdfHash.injEq]
    exact ⟨fun ⟨hsha, h⟩ => ⟨h, h ▸ hsha⟩, fun ⟨h, hsha⟩ => ⟨h ▸ hsha, h⟩⟩
  | lowKdfIterations slot iterations =>
    simp only [Observable, reduceCtorEq, and_false, or_false, false_or,
      AnomalyKind.lowKdfIterations.injEq, Keyslot.IsLow, Keyslot.isActive, beq_iff_eq]
    constructor
    · rintro ⟨i, ⟨hactive, hlt⟩, rfl, rfl⟩
      exact ⟨i, rfl, hactive, rfl, UInt32.lt_iff_toNat_lt.mp hlt⟩
    · rintro ⟨i, rfl, hactive, rfl, hlt⟩
      exact ⟨i, ⟨hactive, UInt32.lt_iff_toNat_lt.mpr hlt⟩, rfl, rfl⟩
  | keyslotInventory active =>
    simp [Observable]

/-- Nothing is observed twice. -/
theorem nodup_observed : (observed header).Nodup := by
  rw [observed_eq]
  refine List.nodup_append.mpr ⟨List.nodup_append.mpr ⟨List.nodup_append.mpr ⟨?_, ?_, ?_⟩,
    nodup_lowKinds, ?_⟩, List.nodup_singleton _, ?_⟩
  · split_ifs <;> simp
  · split_ifs <;> simp
  · -- what is observed in one place is of another kind than what is observed in another
    rintro a ha b hb rfl
    simp only [List.mem_ite_nil_right, List.mem_singleton] at ha hb
    cases ha.2.symm.trans hb.2
  · rintro a ha b hb rfl
    obtain ⟨i, -, rfl⟩ := mem_lowKinds_iff.mp hb
    simp at ha
  · rintro a ha b hb rfl
    obtain rfl := List.mem_singleton.mp hb
    simp [mem_lowKinds_iff] at ha

/-- At most the mode, the hash, eight keyslots and the inventory are observed. -/
theorem length_observed_le : (observed header).length ≤ 11 := by
  have hlow : (lowKinds header).length ≤ 8 := by
    refine (List.length_filterMap_le _ _).trans ?_
    rw [List.length_zipIdx, List.length_ofFn, luksNumKeys]
  rw [observed_eq]
  simp only [List.length_append, List.length_singleton]
  split_ifs <;> simp <;> omega

end Exact

/-- **An audit finds what there is to find, each of it once.** Its anomalies are made from the
kinds it observes, and from nothing else; a kind is among them exactly where the header bears
it out; none is there twice, and there are eleven at most; and the evidence that is published of
one tells which it is. -/
theorem audit1_exact (header : Luks1Header) :
    (∃ kinds : List AnomalyKind, audit1 header = kinds.map Anomaly.new ∧ kinds.Nodup ∧
      kinds.length ≤ 11 ∧ ∀ k, k ∈ kinds ↔ Observable header k) ∧
    ∀ a ∈ audit1 header, ∀ b ∈ audit1 header, a.evidence = b.evidence → a = b := by
  refine ⟨⟨observed header, audit1_eq_map, nodup_observed, length_observed_le,
    fun k => mem_observed_iff⟩, fun a ha b hb h => ?_⟩
  rw [eq_new_of_mem_audit1 ha, eq_new_of_mem_audit1 hb, AnomalyKind.evidence_injective h]

/-! ### The audit and the unlock -/

section Agreeing

variable {ρ : Type} [ImageReader ρ] (K : Crates) (clk : Clock) {img : Bytes}
  {header : Luks1Header} {w : World ρ}

theorem mem_audit1_iff {k : AnomalyKind} :
    Anomaly.new k ∈ audit1 header ↔ Observable header k := by
  rw [audit1_eq_map, ← mem_observed_iff]
  constructor
  · intro h
    obtain ⟨l, hl, heq⟩ := List.mem_map.mp h
    obtain rfl : l = k := congrArg Anomaly.kind heq
    exact hl
  · exact List.mem_map_of_mem

/-- The mode that is not refused is none of the weak ones. -/
theorem not_isWeakMode_xts : ¬IsWeakMode "xts-plain64" := by decide

variable {K clk} in
/-- What a LUKS1 unlock returns was accepted by a keyslot of the header, and its mode is the
one there is. -/
theorem unlock1_accepts {budget : Duration} {passphrase : Bytes} {u : Unlocked ρ}
    (hw : Opens img w) (hheader : Spec.header1 img = .ok header)
    (hok : (unlock1WithPassphraseWithin K clk passphrase budget w).out = .ok u) :
    header.cipherMode = "xts-plain64" ∧ ∃ i, (header.keyslots i).active = keyEnabled ∧
      u.acceptedBy = .luks1 (header.keyslots i) := by
  obtain ⟨header', r, hheader', hr, hu⟩ :=
    Spec.unlock1_eq_ok_iff.mp ((unlock1_run K clk budget passphrase).eq_ok hw hok)
  obtain rfl : header' = header := Except.ok.inj (hheader'.symm.trans hheader)
  obtain ⟨l₁, slot, l₂, hl, -, hslot⟩ := Spec.recoverMasterKey1_eq_ok_iff.mp hr
  obtain ⟨hcand, -, haccepted⟩ := Spec.tryKeyslot1_eq_some_iff.mp hslot
  obtain ⟨-, -, slotKey, plain, -, hplain, -⟩ := Spec.candidate1_eq_some_iff.mp hcand
  have hmem : slot ∈ header'.activeKeyslots := by
    rw [hl]
    simp
  obtain ⟨⟨i, rfl⟩, hactive⟩ := Luks1Header.mem_activeKeyslots.mp hmem
  have hby : u.acceptedBy = r.acceptedBy := congrArg Unlocked.acceptedBy hu
  exact ⟨((Spec.xtsDecryptArea_eq_ok_iff K).mp hplain).1, i, hactive, hby.trans haccepted⟩

/-- Without an active keyslot a LUKS1 unlock ends with just that, whatever the clock. -/
theorem unlock1_without_slots (hheader : Spec.header1 img = .ok header)
    (hslots : header.activeKeyslots = []) (budget : Duration) (passphrase : Bytes) :
    Answers img (fun _ => False) (fun _ => True)
      (unlock1WithPassphraseWithin (ρ := ρ) K clk passphrase budget) (.error .noActiveKeyslot) := by
  rw [Spec.header1] at hheader
  obtain ⟨hdrBuf, hbuf, hparse⟩ := bind_eq_ok_iff.mp hheader
  have hread : Triple (Presents (ρ := ρ) img) (readFillAt 0 luks1PhdrLen)
      (Follows (Presents img) (fun _ => False) (.ok hdrBuf)) fun _ => True := by
    rw [← hbuf]
    exact readFillAt_follows 0 luks1PhdrLen
  refine bind_new_answers clk budget fun n => ?_
  rw [unlock1Inner]
  refine Triple.bind_ok_follows (vecZeroed_follows (by decide) trivial) ?_
  refine Triple.bind_ok_follows (onReader_answers hread) ?_
  rw [hparse]
  refine Triple.bind_ok_follows (Triple.ofExcept_follows (.ok header)) ?_
  rw [if_pos (List.isEmpty_iff.mpr hslots)]
  exact Triple.throw_follows

/-- **A LUKS1 unlock finds no active keyslot** exactly where there is none. -/
theorem unlock1_noActiveKeyslot_iff {budget : Duration} {passphrase : Bytes} (hw : Opens img w)
    (hheader : Spec.header1 img = .ok header) :
    (unlock1WithPassphraseWithin K clk passphrase budget w).out = .err .noActiveKeyslot ↔
      header.activeKeyslots = [] := by
  constructor
  · intro herr
    have hspec := (unlock1_run K clk budget passphrase).eq_error (e := .noActiveKeyslot) hw
      (fun h => h.1) herr
    rw [Spec.unlock1, ← bind_assoc] at hspec
    change Spec.header1 img >>= _ = _ at hspec
    rw [hheader, ok_bind] at hspec
    split_ifs at hspec with hslots
    · exact List.isEmpty_iff.mp hslots
    · rcases bind_eq_error_iff.mp hspec with h | ⟨r, -, h⟩
      · rcases Spec.recoverMasterKey1_error h with h | h
        · cases h
        · exact h.elim
      · cases h
  · intro hslots
    exact (Triple.sure (unlock1_without_slots K clk hheader hslots budget passphrase) hw).1

/-- **The audit agrees with the unlock** of the container that has the header, for every
passphrase and budget, and under every clock. If it unlocks, the audit finds no weak mode, and
the keyslot that accepted the passphrase is found where its iterations are few; it gives up
for want of keyslots exactly where the inventory counts none; and it makes at most two derivations
for each keyslot the inventory counts. -/
theorem audit1_agrees_with_unlock (r : ρ) (passphrase : Bytes) (budget : Duration)
    (hheader : Spec.header1 (ImageReader.image r) = .ok header) :
    (∀ u, (unlock1WithPassphraseWithin K clk passphrase budget (World.init r)).out = .ok u →
      (∀ mode, Anomaly.new (.weakCipherMode mode) ∉ audit1 header) ∧
      ∃ i slot, header.keyslots i = slot ∧ u.acceptedBy = .luks1 slot ∧
        (slot.iterations.toNat < 1000 →
          Anomaly.new (.lowKdfIterations i slot.iterations) ∈ audit1 header)) ∧
    ((unlock1WithPassphraseWithin K clk passphrase budget (World.init r)).out =
        .err .noActiveKeyslot ↔ Anomaly.new (.keyslotInventory 0) ∈ audit1 header) ∧
    ∃ n, Anomaly.new (.keyslotInventory n) ∈ audit1 header ∧
      ((unlock1WithPassphraseWithin K clk passphrase budget
        (World.init r)).events.filterMap Event.work).count .derivation ≤ 2 * n := by
  have hw := opens_init r
  refine ⟨fun u hok => ?_, ?_, header.activeKeyslots.length, mem_audit1_iff.mpr rfl, ?_⟩
  · obtain ⟨hmode, i, hactive, haccepted⟩ := unlock1_accepts hw hheader hok
    refine ⟨fun mode hmem => ?_, i, _, rfl, haccepted, fun hlow => ?_⟩
    · obtain ⟨rfl, hweak⟩ := mem_audit1_iff.mp hmem
      rw [hmode] at hweak
      exact not_isWeakMode_xts hweak
    · exact mem_audit1_iff.mpr ⟨i, rfl, hactive, rfl, hlow⟩
  · rw [unlock1_noActiveKeyslot_iff K clk hw hheader, mem_audit1_iff, Observable,
      eq_comm (a := 0), List.length_eq_zero_iff]
  · have hrun := EntryPoint.luks1.scheduled K clk passphrase budget _ hw
    rw [Nat.mul_comm]
    exact (hrun.isPrefix.sublist.count_le _).trans (Spec.count_work1_le_of_header hheader)

end Agreeing

theorem audit1_agrees_with_unlock_sample : ∃ u : Unlocked Cursor,
    (unlock1WithPassphraseWithin Sample.crates1 Sample.clock Sample.passphrase 1
      (World.init (Sample.reader1 Sample.format1.toLayout1 List.length_replicate))).out = .ok u ∧
    ∀ mode, Anomaly.new (.weakCipherMode mode) ∉
      audit1 (Sample.format1.header Sample.crates1) := by
  obtain ⟨found, hfound, -⟩ := Layout1.recoverMasterKey1_image Sample.inverts1
    Sample.format1.unusedInactive Sample.noCollision_format1 Sample.slot1_mem
  have hheader := Layout1.header1_image (F := Sample.format1.toLayout1) Sample.inverts1
  have hspec := Spec.unlock1_eq_ok_iff.mpr ⟨_, found, hheader, hfound, rfl⟩
  have hopens : Opens (Sample.format1.image Sample.crates1 Sample.enc1)
      (World.init (Sample.reader1 Sample.format1.toLayout1 List.length_replicate)) := rfl
  have hrun : Answers (Sample.format1.image Sample.crates1 Sample.enc1)
      (Refuses Sample.clock 1) (fun _ => True) (Unlocked.map ImageReader.image <$>
        unlock1WithPassphraseWithin (ρ := Cursor) Sample.crates1 Sample.clock
          Sample.slot1.passphrase 1) _ :=
    unlock1_run Sample.crates1 Sample.clock 1 Sample.slot1.passphrase
  rw [hspec] at hrun
  obtain ⟨u, hu, -⟩ := hrun.settles_ok _ hopens (fun _ _ => rfl) Nat.one_pos
  exact ⟨u, hu, ((audit1_agrees_with_unlock Sample.crates1 Sample.clock
    (Sample.reader1 Sample.format1.toLayout1 List.length_replicate) Sample.passphrase 1
    hheader).1 u hu).1⟩

end Luks
