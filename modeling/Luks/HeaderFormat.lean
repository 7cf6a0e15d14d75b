import Luks.Format1

/-!
# The layout of a LUKS1 header

What `Luks.Luks1Header.parse` takes for a header, and what it looks at: 592 bytes that start
with the magic and version 1, whatever the other fields hold, and nothing that comes after
them. Every header whose texts fit their fields is read back from its encoding, with
anything behind it (`Luks.parse_decodes_layout`).
-/

namespace Luks

open Basis

namespace Luks1Header

variable {data : Bytes}

/-! ### What is accepted -/

/-- The magic is the first six bytes. -/
theorem bytesN_eq_luksMagic_iff : bytesN 6 data 0 = luksMagic ↔
    window data 0 6 = luksMagic.toList := by
  rcases Nat.lt_or_ge data.length 6 with hlt | hge
  · -- a buffer without room for it reads as zeros
    refine iff_of_false (fun h => ?_) (fun h => ?_)
    · have hzeros := (bytesN_of_gt (show data.length < 0 + 6 by omega)).symm.trans
        (congrArg List.Vector.toList h)
      exact absurd hzeros (by decide)
    · have hlen := congrArg List.length h
      rw [length_window] at hlen
      have hsix : luksMagic.toList.length = 6 := rfl
      omega
  · rw [← bytesN_of_le (by omega)]
    exact ⟨fun h => congrArg _ h, fun h => Subtype.ext h⟩

/-- A version that is there is 1 when its two bytes say so. -/
theorem beU16_eq_one_iff (h : 8 ≤ data.length) : beU16 data 6 = 1 ↔ window data 6 2 = [0, 1] := by
  have hlen : (window data 6 2).length = 2 := length_window_of_le h
  have hlt := fromBe_lt (window data 6 2)
  have hbytes := toBe_fromBe (window data 6 2)
  rw [hlen] at hlt hbytes
  rw [beU16, bytesN_of_le h]
  constructor
  · intro hone
    have hnat := congrArg UInt16.toNat hone
    rw [UInt16.toNat_ofNat_of_lt' hlt] at hnat
    rw [← hbytes, hnat]
    rfl
  · intro hwin
    rw [hwin]
    rfl

/-- **What is accepted**: a buffer that has a header's length, starts with the magic, and
has version 1. -/
theorem exists_parse_iff : (∃ h, parse data = .ok h) ↔ luks1PhdrLen ≤ data.length ∧
    window data 0 6 = luksMagic.toList ∧ window data 6 2 = [0, 1] := by
  rw [← bytesN_eq_luksMagic_iff, parse]
  by_cases hmagic : bytesN 6 data 0 = luksMagic
  · rcases Nat.lt_or_ge data.length luks1PhdrLen with hlt | hge
    · simp [hmagic, hlt]
    · have hlen : ¬data.length < luks1PhdrLen := Nat.not_lt_of_le hge
      rw [← beU16_eq_one_iff (le_trans (by decide) hge)]
      by_cases hversion : beU16 data 6 = 1 <;> simp [hmagic, hlen, hge, hversion]
  · simp [hmagic]

/-! ### What is looked at -/

theorem parseKeyslotAt_window {base n : ℕ} (h : base + keyslotLen ≤ n) (hn : n ≤ data.length) :
    parseKeyslotAt (window data 0 n) base = parseKeyslotAt data base := by
  rw [keyslotLen] at h
  rw [parseKeyslotAt, beU32_window (by omega) hn, beU32_window (by omega) hn,
    beU32_window (by omega) hn, beU32_window (by omega) hn,
    bytesN_window (by rw [saltLen]; omega) hn, parseKeyslotAt]

/-- **The bytes after the header are not looked at.** -/
theorem parse_take (data : Bytes) : parse (data.take luks1PhdrLen) = parse data := by
  rcases Nat.lt_or_ge data.length luks1PhdrLen with hlt | hge
  · rw [List.take_of_length_le hlt.le]
  · have hlen : (window data 0 luks1PhdrLen).length = luks1PhdrLen :=
      length_window_of_le (by omega)
    -- each field ends inside the header
    have hstr : ∀ off k, off + k ≤ luks1PhdrLen →
        cstr (window data 0 luks1PhdrLen) off k = cstr data off k :=
      fun _ _ h => cstr_window h hge
    have hint : ∀ off, off + 4 ≤ luks1PhdrLen →
        beU32 (window data 0 luks1PhdrLen) off = beU32 data off :=
      fun _ h => beU32_window h hge
    have hbytes : ∀ k off, off + k ≤ luks1PhdrLen →
        bytesN k (window data 0 luks1PhdrLen) off = bytesN k data off :=
      fun _ _ h => bytesN_window h hge
    have hslot : ∀ i : Fin luksNumKeys,
        parseKeyslotAt (window data 0 luks1PhdrLen) (208 + i * keyslotLen) =
          parseKeyslotAt data (208 + i * keyslotLen) := by
      intro i
      have hi : i.val < 8 := i.isLt
      exact parseKeyslotAt_window (by rw [keyslotLen, luks1PhdrLen]; omega) hge
    change parse (window data 0 luks1PhdrLen) = _
    rw [parse, parse, hlen, hbytes 6 0 (by decide), beU16_window (by decide) hge,
      hstr 8 32 (by decide), hstr 40 32 (by decide), hstr 72 32 (by decide), hint 104 (by decide),
      hint 108 (by decide), hbytes mkDigestLen 112 (by decide), hbytes saltLen 132 (by decide),
      hint 164 (by decide), hstr 168 40 (by decide), if_neg (Nat.lt_irrefl _),
      if_neg (Nat.not_lt_of_le hge)]
    simp only [hslot]

/-- A header is read back whatever follows it. -/
theorem parse_encode_append {h : Luks1Header} (hfits : h.Encodable) (rest : Bytes) :
    parse (h.encode ++ rest) = .ok h := by
  rw [← parse_take, ← length_encode h, List.take_left, parse_encode hfits]

end Luks1Header

/-- **Parsing decodes the layout.** It succeeds on exactly the buffers of a header's length
that start with the magic and version 1, it looks at no byte after the header, and it reads
back every header whose texts fit their fields, whatever follows it. -/
theorem parse_decodes_layout :
    (∀ data, (∃ h, Luks1Header.parse data = .ok h) ↔ 592 ≤ data.length ∧
      window data 0 6 = luksMagic.toList ∧ window data 6 2 = [0, 1]) ∧
    (∀ data, Luks1Header.parse (data.take 592) = Luks1Header.parse data) ∧
    ∀ (h : Luks1Header) (rest : Bytes), h.Encodable →
      Luks1Header.parse (h.encode ++ rest) = .ok h :=
  ⟨fun _ => Luks1Header.exists_parse_iff, Luks1Header.parse_take,
    fun _ rest hfits => Luks1Header.parse_encode_append hfits rest⟩

end Luks
