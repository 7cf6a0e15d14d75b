import Luks.Accepting

/-!
# The document behind a header

A LUKS2 header is what its JSON document describes (`Luks.Luks2Header.document`), and
every keyslot, segment and digest in it comes from an entry of that document. The
statements about what a document says of the thing it describes start here.
-/

namespace Luks

open Basis

variable (K : Crates)

namespace Luks2Header

/-- The document in a header buffer. -/
def document (data : Bytes) : Option Value :=
  (jsonArea data).bind fun area => K.fromSlice (area.takeWhile (· ≠ 0))

variable {K} {data : Bytes} {h : Luks2Header}

/-- **A header parses** exactly when magic and version are right and there is a document,
which it describes. -/
theorem parse_eq_ok_iff : parse K data = .ok h ↔
    bytesN 6 data 0 = luksMagic ∧ beU16 data 6 = 2 ∧
      ∃ root, document K data = some root ∧
        h = ofDocument K (beU16 data 6) (beU64 data 8) root := by
  rw [parse, document]
  by_cases hmagic : bytesN 6 data 0 = luksMagic
  · by_cases hversion : beU16 data 6 = 2
    · simp only [hmagic, hversion, ne_eq, not_true_eq_false, if_false, true_and]
      cases jsonArea data with
      | none => simp
      | some area =>
        simp only [Option.bind_some]
        cases K.fromSlice (area.takeWhile (· ≠ 0)) with
        | none => simp
        | some root => simp [eq_comm]
    · simp [hmagic, hversion]
  · simp [hmagic]

end Luks2Header

/-- The document of a LUKS2 container. -/
def Spec.document (img : Bytes) : Option Value :=
  Luks2Header.document K (zeroFill (window img 0 (Spec.hdrSize img)) (Spec.hdrSize img))

namespace Spec

variable {K} {img : Bytes} {header : Luks2Header}

/-- The header of a container is what its document describes. -/
theorem exists_document (h : header2 K img = .ok header) :
    ∃ root version size, document K img = some root ∧
      header = Luks2Header.ofDocument K version size root := by
  obtain ⟨-, -, root, hroot, hheader⟩ := Luks2Header.parse_eq_ok_iff.mp h
  exact ⟨root, _, _, hroot, hheader⟩

/-- An entry of the document describes a digest of the header. -/
def DescribesDigest (K : Crates) (img : Bytes) (v : Value) (dig : Luks2Digest) : Prop :=
  ∃ root id, document K img = some root ∧ (id, v) ∈ root.entries "digests" ∧
    parseDigest K v = some dig

/-- An entry of the document describes a segment of the header. -/
def DescribesSegment (K : Crates) (img : Bytes) (v : Value) (s : Luks2Segment) : Prop :=
  ∃ root id, document K img = some root ∧ (id, v) ∈ root.entries "segments" ∧
    parseSegment id v = some s

theorem exists_describesDigest (h : header2 K img = .ok header) {dig : Luks2Digest}
    (hdig : dig ∈ header.digests) : ∃ v, DescribesDigest K img v dig := by
  obtain ⟨root, version, size, hroot, rfl⟩ := exists_document h
  obtain ⟨⟨id, v⟩, hmem, hparse⟩ := List.mem_filterMap.mp hdig
  exact ⟨v, root, id, hroot, hmem, hparse⟩

theorem exists_describesSegment (h : header2 K img = .ok header) {s : Luks2Segment}
    (hs : s ∈ header.segments) : ∃ v, DescribesSegment K img v s := by
  obtain ⟨root, version, size, hroot, rfl⟩ := exists_document h
  obtain ⟨⟨id, v⟩, hmem, hparse⟩ := List.mem_filterMap.mp hs
  exact ⟨v, root, id, hroot, hmem, hparse⟩

theorem Accepts2.dig_mem {passphrase key : Bytes} {slot : Luks2Keyslot} {dig : Luks2Digest}
    (h : Accepts2 K img header passphrase key slot dig) : dig ∈ header.digests := by
  obtain ⟨d₁, d₂, hd, -⟩ := h.reachedDigest
  rw [hd]
  simp

theorem IsLuks2.segment_mem {segment : Luks2Segment} (h : IsLuks2 K img header segment) :
    segment ∈ header.segments := List.mem_of_find?_eq_some h.chosen

end Spec

/-! ### The fields of a digest -/

/-- What a digest takes from its entry. -/
theorem parseDigest_fields {K : Crates} {v : Value} {dig : Luks2Digest}
    (h : parseDigest K v = some dig) :
    (∃ d, v.get "digest" = some d ∧ dig.digest = b64 K d) ∧
      dig.keyslots = (((v.get "keyslots").bind Value.asArray).getD []).filterMap Value.asStr := by
  simp only [parseDigest, Option.pure_def, Option.bind_eq_bind, Option.bind_eq_some_iff,
    Option.some.injEq] at h
  obtain ⟨kind, -, salt, -, d, hd, rfl⟩ := h
  exact ⟨⟨d, hd, rfl⟩, rfl⟩

/-- The `digest` field of a digest object is base64, for at least one byte. -/
def DecodesDigest (v : Value) : Prop :=
  ∃ s bs, v.get "digest" = some (.string s) ∧ K.base64Decode s = some bs ∧ bs ≠ []

/-- **A digest has bytes** exactly when its entry has a well-formed one. -/
theorem digest_ne_nil_iff {K : Crates} {v : Value} {dig : Luks2Digest}
    (h : parseDigest K v = some dig) : dig.digest ≠ [] ↔ DecodesDigest K v := by
  obtain ⟨⟨d, hd, hdig⟩, -⟩ := parseDigest_fields h
  rw [hdig, b64]
  constructor
  · intro hne
    cases d with
    | string s =>
      cases hs : K.base64Decode s with
      | none => simp [Value.asStr, hs] at hne
      | some bs => exact ⟨s, bs, hd, hs, by simpa [Value.asStr, hs] using hne⟩
    | _ => simp [Value.asStr] at hne
  · rintro ⟨s, bs, hs, hdecode, hne⟩
    obtain rfl : d = .string s := Option.some.inj (hd.symm.trans hs)
    simpa [Value.asStr, hdecode] using hne

end Luks
