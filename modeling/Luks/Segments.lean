import Luks.Variants

/-!
# What ties a key to the data

An entry of the document's `digests` lists keyslots, and segments. The first list says
which keyslots the digest verifies the key of; the code reads that one only
(`Luks.parseDigest_congr`). Which segment the key decrypts is decided elsewhere: it is the
first one that is encrypted, whichever keyslot and digest accepted the key.

So a volume is tied to its keyslot by the digest that accepted the key, and to its segment
by the order of the document (`Luks.unlock2_ties`), but not to its segment by the digest.
-/

namespace Luks

open Basis

/-- The strings that an array field of an object lists. -/
def listedIn (v : Value) (key : String) : List String :=
  (((v.get key).bind Value.asArray).getD []).filterMap Value.asStr

/-- A payload takes its offset, data-unit size, tweak and cipher from a segment. -/
structure TakenFrom {ρ : Type} (p : DecryptedPayload ρ) (s : Luks2Segment) : Prop where
  /-- The offset. -/
  offset : p.payloadOffset = s.offset
  /-- The size of a data unit. -/
  sectorSize : p.sectorSize = max s.sectorSize 512
  /-- The tweak of data unit 0. -/
  ivTweak : p.ivTweak = s.ivTweak
  /-- The cipher mode. -/
  mode : p.cipherMode = (splitEncryption s.encryption).2
  /-- The cipher name. -/
  name : p.info.cipherName = (splitEncryption s.encryption).1

theorem takenFrom_payload {ρ : Type} (s : Luks2Segment) (reader : ρ) (key : Bytes) (n : ℕ) :
    TakenFrom (s.payload reader key n) s := ⟨rfl, rfl, rfl, rfl, rfl⟩

/-- **A volume is bound to its segment**: the digest that accepted the key lists the
segment which the payload is taken from. -/
def BoundToSegment {ρ : Type} (K : Crates) (img : Bytes) (u : Unlocked ρ) : Prop :=
  ∃ header segment slot dig v, Spec.IsLuks2 K img header segment ∧ TakenFrom u.payload segment ∧
    u.acceptedBy = .luks2 slot dig ∧ Spec.DescribesDigest K img v dig ∧
    segment.id ∈ listedIn v "segments"

/-- **A volume is tied** to a keyslot and a segment of the header: the digest that accepted
the key verifies it and lists the keyslot, the keyslot gives the key, and the payload is
taken from the first segment that is encrypted. -/
structure Ties {ρ : Type} (K : Crates) (img passphrase : Bytes) (u : Unlocked ρ)
    (header : Luks2Header) (segment : Luks2Segment) (slot : Luks2Keyslot) (dig : Luks2Digest)
    (v : Value) : Prop where
  /-- The header is that of the image. -/
  parses : Spec.header2 K img = .ok header
  /-- The keyslot and the digest accepted the key. -/
  acceptedBy : u.acceptedBy = .luks2 slot dig
  /-- The keyslot is in the header. -/
  slot_mem : slot ∈ header.keyslots
  /-- It gives the key. -/
  candidate : IsCandidate2 K img passphrase slot u.payload.masterKey
  /-- The digest verifies the key. -/
  verifies : Spec.Verifies2 K dig u.payload.masterKey
  /-- An entry of the document describes the digest. -/
  describes : Spec.DescribesDigest K img v dig
  /-- It lists the keyslot. -/
  listed : slot.id ∈ listedIn v "keyslots"
  /-- The segment is the first one that is encrypted. -/
  first : ∃ before after, header.segments = before ++ segment :: after ∧
    segment.encryption ≠ "" ∧ ∀ s ∈ before, s.encryption = ""
  /-- The payload is taken from it. -/
  takenFrom : TakenFrom u.payload segment

/-- The encrypted segment is the first one with an encryption. -/
theorem cryptSegment_eq_some_iff {header : Luks2Header} {segment : Luks2Segment} :
    header.cryptSegment = some segment ↔ ∃ before after,
      header.segments = before ++ segment :: after ∧ segment.encryption ≠ "" ∧
        ∀ s ∈ before, s.encryption = "" := by
  rw [Luks2Header.cryptSegment, List.find?_eq_some_iff_append]
  simp only [Bool.not_eq_true', Bool.not_eq_false', String.isEmpty_iff]
  constructor
  · rintro ⟨hne, before, after, hsegments, hbefore⟩
    exact ⟨before, after, hsegments, by simpa using hne, hbefore⟩
  · rintro ⟨before, after, hsegments, hne, hbefore⟩
    exact ⟨by simpa using hne, before, after, hsegments, hbefore⟩

/-- **A digest is parsed the same whatever segments it lists.** -/
theorem parseDigest_congr (K : Crates) {v w : Value}
    (h : ∀ key, key ≠ "segments" → v.get key = w.get key) : parseDigest K v = parseDigest K w := by
  simp only [parseDigest, h "type" (by decide), h "hash" (by decide), h "iterations" (by decide),
    h "salt" (by decide), h "digest" (by decide), h "keyslots" (by decide)]

/-- **What a LUKS2 volume is tied to**, and that the segments listed by a digest are no
part of it. -/
theorem unlock2_ties {ρ : Type} [ImageReader ρ] (K : Crates) (clk : Clock) (r : ρ)
    (passphrase : Bytes) (budget : Duration) {u : Unlocked ρ}
    (hu : (unlock2WithPassphraseWithin K clk passphrase budget (World.init r)).out = .ok u) :
    (∃ header segment slot dig v,
      Ties K (ImageReader.image r) passphrase u header segment slot dig v) ∧
    ∀ v w : Value, (∀ key, key ≠ "segments" → v.get key = w.get key) →
      parseDigest K v = parseDigest K w := by
  refine ⟨?_, fun _ _ => parseDigest_congr K⟩
  obtain ⟨-, hspec⟩ := unlock2_eq_ok K clk (opens_init r) hu
  obtain ⟨-, header, segment, found, hparses, hsegment, hfound, hvolume⟩ :=
    Spec.unlock2_eq_ok_iff.mp hspec
  -- the digest that accepts comes from the recovery, the segment from the header alone
  obtain ⟨slot, dig, haccepts, hacceptedBy⟩ := Spec.recoverMasterKey2_eq_ok_iff_accepts.mp hfound
  obtain ⟨v, hdescribes⟩ := Spec.exists_describesDigest hparses haccepts.dig_mem
  obtain ⟨l₁, l₂, hslots, -⟩ := haccepts.reached
  obtain ⟨root, id, -, -, hdig⟩ := id hdescribes
  have hkey : u.payload.masterKey = found.key :=
    congrArg (fun x : Unlocked Bytes => x.payload.masterKey) hvolume
  have hacceptedBy' : u.acceptedBy = .luks2 slot dig :=
    (congrArg Unlocked.acceptedBy hvolume).trans hacceptedBy
  refine ⟨header, segment, slot, dig, v, hparses, hacceptedBy', by simp [hslots], ?_, ?_,
    hdescribes, ?_, cryptSegment_eq_some_iff.mp hsegment, ?_⟩
  · rw [hkey]
    exact haccepts.candidate
  · rw [hkey]
    exact haccepts.verifies
  · rw [listedIn, ← (parseDigest_fields hdig).2]
    exact haccepts.applies.2
  · have hpayload : u.payload.map ImageReader.image =
        segment.payload (ImageReader.image r) found.key (ImageReader.image r).length :=
      congrArg Unlocked.payload hvolume
    obtain ⟨hoffset, hsector, htweak, hmode, hname⟩ := takenFrom_payload segment
      (ImageReader.image r) found.key (ImageReader.image r).length
    rw [← hpayload] at hoffset hsector htweak hmode hname
    exact ⟨hoffset, hsector, htweak, hmode, hname⟩

/-! ### A digest for another segment -/

namespace Sample

/-- Metadata whose digest lists another segment. -/
def otherSegment : Metadata := { metadata with digestSegments := ["1"] }

theorem fits_otherSegment : otherSegment.Fits :=
  Metadata.fits_of_texts (by decide +kernel) (by decide +kernel)

theorem listedIn_segments {m : Metadata} {id : String} {v : Value}
    (h : (id, v) ∈ (document m).entries "digests") : listedIn v "segments" = m.digestSegments := by
  obtain ⟨-, rfl⟩ := Prod.mk.inj (List.mem_singleton.mp h)
  change (m.digestSegments.map Value.string).filterMap Value.asStr = m.digestSegments
  rw [List.filterMap_map]
  exact List.filterMap_some

end Sample

theorem unlock2_ties_sample : ∃ u, (unlock2WithPassphraseWithin
      (Sample.cratesOf Sample.metadata) Sample.clock Sample.passphrase 1
      (World.init (Sample.readerOf Sample.fits_metadata [] (by decide)))).out = .ok u ∧
    ∃ header segment slot dig v, Ties (Sample.cratesOf Sample.metadata)
      (Sample.imageOf Sample.fits_metadata []) Sample.passphrase u header segment slot dig v := by
  obtain ⟨u, hu, -⟩ := Sample.exists_unlock2_imageOf Sample.fits_metadata [] (by decide)
    (by decide) rfl rfl rfl Sample.stands_clock Nat.one_pos
  exact ⟨u, hu, (unlock2_ties _ _ _ _ _ hu).1⟩

/-- **The key is accepted all the same.** -/
theorem not_boundToSegment_otherSegment :
    ¬∀ clk budget u, (unlock2WithPassphraseWithin (Sample.cratesOf Sample.otherSegment) clk
      Sample.passphrase budget
      (World.init (Sample.readerOf Sample.fits_otherSegment [] (by decide)))).out = .ok u →
        BoundToSegment (Sample.cratesOf Sample.otherSegment)
          (Sample.imageOf Sample.fits_otherSegment []) u := by
  intro h
  obtain ⟨u, hu, -⟩ := Sample.exists_unlock2_imageOf Sample.fits_otherSegment [] (by decide)
    (by decide) rfl rfl rfl Sample.stands_clock Nat.one_pos
  obtain ⟨header, segment, slot, dig, v, hluks, -, -, ⟨root, id, hroot, hv, -⟩, hlisted⟩ :=
    h _ _ u hu
  obtain rfl : Sample.document Sample.otherSegment = root :=
    Option.some.inj ((Sample.document_imageOf Sample.fits_otherSegment []).symm.trans hroot)
  have hluks' := Sample.isLuks2_imageOf Sample.fits_otherSegment [] (by decide) (by decide)
  obtain rfl := Except.ok.inj (hluks'.parses.symm.trans hluks.parses)
  obtain rfl := Option.some.inj (hluks'.chosen.symm.trans hluks.chosen)
  rw [Sample.listedIn_segments hv] at hlisted
  exact absurd hlisted (show "0" ∉ ["1"] by decide)

end Luks
