import Luks.PayloadFile
import Luks.Scheme
import Luks.SourceReads

/-!
# Layers over layers

An opened layer is handed out as a source of bytes, and a source of bytes is what a layer is
put over: a container may lie inside a container, and that in a third. What every level has to
rely on is one contract: a source serves some bytes (`Luks.DynSource.Serves`).

An opened layer keeps to the contract where the source below it does, with the payload
decrypted in one go for its bytes (`Luks.Contains.serves`). So what a stack of layers serves at
its top is what is left of the bytes at its base when the containers are taken off one after
the other (`Luks.stack_serves`).
-/

namespace Luks

open Basis

/-! ### What a source of bytes promises -/

/-- What a read of some bytes gives: those at its offset, as many as there are and fit, in
front of what was in the buffer. -/
def readOf (bytes : Bytes) (offset : UInt64) (buf : Bytes) : ℕ × Bytes :=
  (min buf.length (bytes.length - offset.toNat), window bytes offset.toNat buf.length ++
    buf.drop (min buf.length (bytes.length - offset.toNat)))

/-- A source serves some bytes: it has their length, and gives what a read of them gives. -/
structure DynSource.Serves (d : DynSource) (bytes : Bytes) : Prop where
  /-- Its length. -/
  len_eq : d.len.toNat = bytes.length
  /-- What a read gives. -/
  readAt_eq : ∀ offset buf, d.readAt offset buf = .ok (readOf bytes offset buf)

/-- A source is handed out as a source of bytes: a read through the handle gives what a read
of the source gives, whatever was read before. -/
structure LuksSource.HandedOutAs {ρ : Type} [ImageReader ρ] (escaped : Char → Bool)
    (K : Crates) (s : LuksSource ρ) (d : DynSource) : Prop where
  /-- The length of the source. -/
  len_eq : d.len.toNat = s.len
  /-- Its reads. -/
  readAt_eq : ∀ {t : LuksSource ρ}, t.Serves s.inner → ∀ offset buf,
    (LuksSource.readAt escaped K offset buf t).out = .ofExcept (d.readAt offset buf)

/-- The scheme that the front of a container names. -/
def schemeOf (img : Bytes) : EncryptionScheme :=
  if 8 ≤ img.length ∧ bytesN 6 img 0 = luksMagic ∧ beU16 img 6 = 1 then .luks1 else .luks2

/-- A layer over a source names the scheme of the bytes that it serves. -/
theorem DynSource.Serves.scheme_new {d : DynSource} {img : Bytes} (h : d.Serves img) :
    (LuksLayer.new d).scheme = schemeOf img := by
  have hread := h.readAt_eq 0 (List.replicate 8 0)
  rw [readOf, List.length_replicate] at hread
  rcases Nat.lt_or_ge img.length 8 with hlt | hge
  · -- a front that is cut short is not looked at
    have hshort : ¬8 ≤ min 8 (img.length - (0 : UInt64).toNat) := by
      rw [UInt64.toNat_zero]
      omega
    rw [schemeOf, if_neg fun hfront => absurd hfront.1 (Nat.not_le_of_lt hlt), LuksLayer.new, hread]
    exact if_neg fun hfront => hshort hfront.1
  · have hlen : (window img 0 8).length = min 8 img.length := length_window img 0 8
    have hiff := scheme_new_eq_luks1_iff hge hread
      (window_append_left (by rw [UInt64.toNat_zero, hlen, Nat.zero_add]) |>.trans
        (window_of_length (by rw [UInt64.toNat_zero, hlen])))
    rw [schemeOf]
    split_ifs with hfront
    · exact hiff.mpr hfront.2
    · cases hscheme : (LuksLayer.new d).scheme with
      | luks1 => exact absurd ⟨hge, hiff.mp hscheme⟩ hfront
      | luks2 => rfl

/-! ### One layer -/

section Layer

variable {K : Crates} {img : Bytes}

/-- What is found in an image goes up to its end. -/
theorem Spec.total_of_unlock {passphrase : Bytes} {u : Unlocked Bytes}
    (h : Spec.unlock K img passphrase = .ok u) :
    u.payload.reader = img ∧ u.payload.totalSize = UInt64.ofNat img.length := by
  obtain ⟨ver, -, h⟩ := bind_eq_ok_iff.mp h
  split_ifs at h with hone htwo
  · obtain ⟨buf, -, h⟩ := bind_eq_ok_iff.mp h
    obtain ⟨header, -, h⟩ := bind_eq_ok_iff.mp h
    split_ifs at h with hactive
    obtain ⟨r, -, h⟩ := bind_eq_ok_iff.mp h
    obtain rfl := Except.ok.inj h
    exact ⟨rfl, rfl⟩
  · obtain ⟨buf, -, h⟩ := bind_eq_ok_iff.mp h
    obtain ⟨header, -, h⟩ := bind_eq_ok_iff.mp h
    cases hsegment : header.cryptSegment with
    | none => simp [hsegment] at h
    | some segment =>
      rw [hsegment] at h
      dsimp only at h
      split_ifs at h with hempty
      obtain ⟨r, -, h⟩ := bind_eq_ok_iff.mp h
      obtain rfl := Except.ok.inj h
      exact ⟨rfl, rfl⟩

/-- A container with credentials for it contains `P`: the first passphrase among them that
unlocks it gives a payload of whole data units, which decrypts to `P` in one go. -/
structure Contains (escaped : Char → Bool) (K : Crates) (img : Bytes) (creds : CredentialSource)
    (P : Bytes) : Prop where
  /-- No oversized header is declared. -/
  sane : beU16 img 6 = 2 → ¬Oversized img
  /-- No keyslot stops an unlock with a passphrase that is tried. -/
  goes : ∀ p, Spec.Tried K img (wired (creds (schemeOf img) "")) p →
    ¬(beU16 img 6 = 2 ∧ Spec.UnlockStops2 K img p)
  /-- The payload. -/
  payload : ∃ s k, Spec.tryPassphrases escaped K img (wired (creds (schemeOf img) "")) none =
      .ok s ∧ s.inner.payloadSize = k * s.inner.unitSize ∧
    (DecryptedPayload.decryptWhole K img s.inner ()).out = .ok P

/-- A source whose payload stands for a file gives the contents of the file. -/
theorem DecryptedPayload.StandsFor.source_readAt {ρ : Type} [ImageReader ρ]
    {escaped : Char → Bool} {p : DecryptedPayload ρ} {k : ℕ} {f : File}
    (h : StandsFor K img k p f) {t : LuksSource ρ} (ht : t.Serves p) (offset : UInt64)
    (buf : Bytes) : (LuksSource.readAt escaped K offset buf t).out =
      .ok (readOf f.contents offset buf) := by
  rw [readOf, ht.sized.readAt_out, ht.moved.seekRead_out]
  rcases Nat.lt_or_ge offset.toNat p.payloadSize with hlt | hge
  · have hrange : offset.toNat + min buf.length (p.payloadSize - offset.toNat) ≤
        f.contents.length := by
      have := h.size_eq
      omega
    have hlen : (window f.contents offset.toNat buf.length).length =
        min buf.length (f.contents.length - offset.toNat) := length_window _ _ _
    rw [DecryptedPayload.seekRead_of_lt K buf hlt, h.shows_contents.readAt hrange, h.size_eq,
      window_min]
    simp only [Outcome.map, Outcome.mapError, hlen]
  · rw [DecryptedPayload.seekRead_of_le K buf hge, window_of_length_le _ (h.size_eq ▸ hge),
      Nat.sub_eq_zero_of_le (h.size_eq ▸ hge), Nat.min_zero]
    rfl

section Opened

variable {ρ : Type} [ImageReader ρ] {escaped : Char → Bool} {clk : Clock}
  {sourceCursor : DynSource → UInt64 → UInt64 → ρ} {d : DynSource} {creds : CredentialSource}
  {P : Bytes}

/-- What trying passphrases finds in an image goes up to its end. -/
theorem Spec.total_of_tryPassphrases {passphrases : List Bytes} {lastErr : Option LuksError}
    {t : LuksSource Bytes}
    (h : Spec.tryPassphrases escaped K img passphrases lastErr = .ok t) :
    t.inner.reader = img ∧ t.inner.totalSize = UInt64.ofNat img.length ∧
      t.len = t.inner.payloadSize := by
  rw [Spec.tryPassphrases] at h
  cases htry : tryEach (Spec.unlock K img) passphrases lastErr with
  | error e => simp [htry] at h
  | ok u =>
    rw [htry] at h
    obtain rfl := Outcome.ok.inj h
    obtain ⟨p, -, hp⟩ := exists_of_tryEach_eq_ok htry
    exact ⟨(Spec.total_of_unlock hp).1, (Spec.total_of_unlock hp).2, rfl⟩

/-- **A layer over a source opens** where the bytes that the source serves contain something,
and then its payload stands for what they contain. -/
theorem Contains.standsFor (h : Contains escaped K img creds P) (hserves : d.Serves img)
    (hcursor : Presents img (sourceCursor d 0 d.len)) (hstands : clk.Stands) (w : World Unit) :
    ∃ s k, ((LuksLayer.new d).open escaped K clk sourceCursor creds w).out = .ok s ∧
      s.len = P.length ∧ P.length ≤ img.length ∧
        s.inner.StandsFor K img k ⟨P, s.inner.position.toNat⟩ := by
  obtain ⟨t, k, htry, hsize, hbulk⟩ := h.payload
  have hsettled : ∀ p, Spec.Tried K img (wired (creds (LuksLayer.new d).scheme "")) p →
      (LuksLayer.new d).Settled K clk sourceCursor img p := by
    intro p hp
    rw [hserves.scheme_new] at hp
    exact settled_of_stands hcursor h.sane hstands (h.goes p hp)
  have hout := open_out escaped hsettled w
  rw [hserves.scheme_new, htry] at hout
  obtain ⟨s, hs, rfl⟩ := Outcome.map_eq_ok_iff.mp hout
  obtain ⟨himg, htotal, hlen⟩ := Spec.total_of_tryPassphrases htry
  have himg : ImageReader.image s.inner.reader = img := himg
  have htotal : s.inner.totalSize = UInt64.ofNat img.length := htotal
  subst himg
  have hlt := ImageReader.image_lt s.inner.reader
  have htotal : s.inner.totalSize.toNat = (ImageReader.image s.inner.reader).length := by
    rw [htotal, UInt64.toNat_ofNat_of_lt' (lt_trans hlt (by decide))]
  have hstand := DecryptedPayload.standsFor_of_bulk (p := s.inner) hsize htotal hbulk
  have hsize : s.inner.payloadSize = P.length := hstand.size_eq
  refine ⟨s, k, hs, hlen.trans hsize, ?_, hstand⟩
  rw [← hsize, ← htotal, DecryptedPayload.payloadSize]
  exact Nat.sub_le _ _

/-- **An opened layer keeps to the contract**: handed out, it serves what is contained. -/
theorem Contains.serves (h : Contains escaped K img creds P) (hserves : d.Serves img)
    (hcursor : Presents img (sourceCursor d 0 d.len)) (hstands : clk.Stands) {w : World Unit}
    {s : LuksSource ρ} {top : DynSource}
    (hopen : ((LuksLayer.new d).open escaped K clk sourceCursor creds w).out = .ok s)
    (hout : s.HandedOutAs escaped K top) : top.Serves P := by
  obtain ⟨t, k, ht, hlen, -, hstand⟩ := h.standsFor hserves hcursor hstands w
  obtain rfl : s = t := Outcome.ok.inj (hopen.symm.trans ht)
  refine ⟨hout.len_eq.trans hlen, fun offset buf => ?_⟩
  have hsame : s.Serves s.inner :=
    ⟨hlen.trans hstand.size_eq.symm, DecryptedPayload.MovedFrom.refl s.inner⟩
  exact Outcome.ofExcept_eq_ok_iff.mp ((hout.readAt_eq hsame offset buf).symm.trans
    (hstand.source_readAt hsame offset buf))

/-- An opened layer can be handed out. -/
theorem Contains.exists_handedOut (h : Contains escaped K img creds P) (hserves : d.Serves img)
    (hcursor : Presents img (sourceCursor d 0 d.len)) (hstands : clk.Stands) (w : World Unit) :
    ∃ s top, ((LuksLayer.new d).open escaped K clk sourceCursor creds w).out = .ok s ∧
      s.HandedOutAs escaped K top := by
  obtain ⟨s, k, hs, hlen, -, hstand⟩ := h.standsFor hserves hcursor hstands w
  have hlt : s.len < 2 ^ 64 := by
    rw [hlen, ← show s.inner.payloadSize = P.length from hstand.size_eq]
    exact s.inner.payloadSize_lt
  exact ⟨s, ⟨UInt64.ofNat s.len, fun offset buf => .ok (readOf P offset buf)⟩, hs,
    UInt64.toNat_ofNat_of_lt' hlt, fun ht offset buf => hstand.source_readAt ht offset buf⟩

end Opened

end Layer

/-! ### Any number of layers -/

section Stack

variable {ρ : Type} [ImageReader ρ] (escaped : Char → Bool) (K : Crates) (clk : Clock)
  (sourceCursor : DynSource → UInt64 → UInt64 → ρ)

/-- `top` is what the layers over `d` come to that are opened with some credentials, from the
base up: each is put over the source that the one below it was handed out as. -/
def Stacked (d : DynSource) : List CredentialSource → DynSource → Prop
  | [], top => top = d
  | creds :: rest, top => ∃ (w : World Unit) (s : LuksSource ρ) (d' : DynSource),
      ((LuksLayer.new d).open escaped K clk sourceCursor creds w).out = .ok s ∧
        s.HandedOutAs escaped K d' ∧ Stacked d' rest top

/-- `P` is what is left of some bytes when containers are taken off that lie in each other. -/
def Nested (img : Bytes) : List CredentialSource → Bytes → Prop
  | [], P => P = img
  | creds :: rest, P => ∃ inner, Contains escaped K img creds inner ∧ Nested inner rest P

end Stack

/-- **Layers stack.** Let the clock stand, let a cursor over a source present the bytes that
the source serves, and let containers lie in each other in the bytes at the base. Then layers
over layers can be opened, as many as there are credentials for; and whatever is handed out at
the top, when each was opened and what was read of it in between, it serves what is left of
the bytes at the base when the containers are taken off. -/
theorem stack_serves {ρ : Type} [ImageReader ρ] (escaped : Char → Bool) (K : Crates) (clk : Clock)
    {sourceCursor : DynSource → UInt64 → UInt64 → ρ} (hstands : clk.Stands)
    (hcursor : ∀ d bytes, bytes.length < 2 ^ 63 → d.Serves bytes →
      Presents bytes (sourceCursor d 0 d.len))
    {base : DynSource} {img P : Bytes} {creds : List CredentialSource} (hlt : img.length < 2 ^ 63)
    (hbase : base.Serves img) (h : Nested escaped K img creds P) :
    (∃ top, Stacked escaped K clk sourceCursor base creds top) ∧
      ∀ top, Stacked escaped K clk sourceCursor base creds top → top.Serves P := by
  induction creds generalizing base img with
  | nil =>
    obtain rfl := h
    refine ⟨⟨base, rfl⟩, fun top htop => ?_⟩
    obtain rfl := htop
    exact hbase
  | cons creds rest ih =>
    obtain ⟨inner, hcontains, hrest⟩ := h
    have hpresents := hcursor base img hlt hbase
    obtain ⟨-, -, -, -, hle, -⟩ := hcontains.standsFor hbase hpresents hstands ⟨(), 0, 0⟩
    have hinner : inner.length < 2 ^ 63 := lt_of_le_of_lt hle hlt
    obtain ⟨s, d, hs, hd⟩ := hcontains.exists_handedOut hbase hpresents hstands ⟨(), 0, 0⟩
    refine ⟨?_, fun top htop => ?_⟩
    · obtain ⟨top, htop⟩ := (ih hinner (hcontains.serves hbase hpresents hstands hs hd) hrest).1
      exact ⟨top, _, s, d, hs, hd, htop⟩
    · obtain ⟨w, t, d', ht, hd', htop⟩ := htop
      exact (ih hinner (hcontains.serves hbase hpresents hstands ht hd') hrest).2 top htop

/-! ### Containers that a formatter made -/

namespace Layout1

variable {K : Crates} {enc : Encipher} {F : Layout1}

/-- Its front names version 1. -/
theorem schemeOf_image (h : Inverts K enc) : schemeOf (F.image K enc) = .luks1 := by
  have hmagic : bytesN 6 (F.image K enc) 0 = luksMagic := by
    by_contra hne
    have herr := Spec.header1_of_ne_magic (phdrLen_le h) hne
    rw [header1_image h] at herr
    cases herr
  exact if_pos ⟨le_trans (by decide) (phdrLen_le h), hmagic, beU16_image h⟩

variable (K enc F) in
/-- The payload that it unlocks to. -/
def volume : DecryptedPayload Bytes :=
  (F.header K).payload (F.image K enc) F.masterKey (F.image K enc).length

theorem payloadOffset_volume : (F.volume K enc).payloadOffset.toNat = F.payloadExtent.offset :=
  UInt64.toNat_ofNat_of_lt' (lt_of_lt_of_le (Luks1Header.payloadByteOffset_lt _) (by decide))

/-- It is as long as the plaintext, if nothing follows that. -/
theorem payloadSize_volume (h : Inverts K enc) (hlt : F.rest.length < 2 ^ 63)
    (hrest : F.rest.length = F.payloadExtent.offset + F.plain.length) :
    (F.volume K enc).payloadSize = F.plain.length := by
  have htotal : (F.volume K enc).totalSize.toNat = (F.image K enc).length :=
    UInt64.toNat_ofNat_of_lt' (lt_trans (by rwa [length_image h]) (by decide))
  rw [DecryptedPayload.payloadSize, payloadOffset_volume, htotal, length_image h, hrest,
    Nat.add_sub_cancel_left]

/-- In one go it decrypts to the plaintext. -/
theorem decryptWhole_volume (h : Inverts K enc) (hlt : F.rest.length < 2 ^ 63)
    (hrest : F.rest.length = F.payloadExtent.offset + F.plain.length) :
    (DecryptedPayload.decryptWhole K (F.image K enc) (F.volume K enc) ()).out = .ok F.plain := by
  obtain ⟨k, hk⟩ := F.sectors
  have hsector : k ≤ k * sector := Nat.le_mul_of_pos_right k (by decide)
  have htweak : ∀ u < k, 0 + u * tweakStep sector < 2 ^ 128 := by
    intro u hu
    rw [show tweakStep sector = 1 from rfl]
    omega
  have hlength : (encryptArea enc F.masterKey F.plain sector 0).length = k * sector :=
    h.length_encryptArea (by decide) hk 0
  rw [DecryptedPayload.decryptWhole, payloadOffset_volume, payloadSize_volume h hlt hrest,
    window_payload h]
  refine (xtsDecryptArea_out K _ _ () (by decide) hlength htweak).trans ?_
  exact congrArg Outcome.ofExcept (Spec.xtsDecryptArea_encryptArea h F.isXtsKey (by decide) hk 0)

/-- **A container that a formatter made** contains the plaintext, if it ends with it. -/
theorem contains {escaped : Char → Bool} (h : Inverts K enc) (hunused : F.UnusedInactive)
    (hcoll : F.NoCollision K enc) {t : EnabledSlot F.masterKey.length} (ht : t ∈ F.enabled)
    (hrest : F.rest.length = F.payloadExtent.offset + F.plain.length) (hlt : F.rest.length < 2 ^ 63)
    {creds : CredentialSource} {others : List Bytes}
    (hcreds : wired (creds .luks1 "") = t.passphrase :: others) :
    Contains escaped K (F.image K enc) creds F.plain := by
  obtain ⟨acceptedBy, hspec⟩ := unlock_image h hunused hcoll ht
  obtain ⟨k, hk⟩ := F.sectors
  have htry : Spec.tryPassphrases escaped K (F.image K enc)
      (wired (creds (schemeOf (F.image K enc)) "")) none =
        .ok (LuksSource.new (F.volume K enc)) := by
    rw [schemeOf_image h, hcreds, Spec.tryPassphrases, ← List.nil_append (t.passphrase :: others),
      tryEach_of_ok (by simp) hspec]
    rfl
  have hsize : (F.volume K enc).payloadSize = k * (F.volume K enc).unitSize :=
    (payloadSize_volume h hlt hrest).trans hk
  have hversion : beU16 (F.image K enc) 6 ≠ 2 := by
    rw [beU16_image h]
    decide
  exact ⟨fun htwo => absurd htwo hversion, fun p _ hstops => hversion hstops.1, _, k, htry, hsize,
    decryptWhole_volume h hlt hrest⟩

end Layout1

namespace Sample

/-- The bytes of the container with the sector. -/
abbrev innerImage : Bytes := format1.toLayout1.image crates1 enc1

theorem length_innerImage : innerImage.length = 8704 :=
  (Layout1.length_image inverts1).trans List.length_replicate

/-- The contents of a container around it. -/
def outerContents : Contents1 :=
  { contents1 "aes" unusedRecord with plain := innerImage, rest := List.replicate 16896 0 }

theorem length_rest_outer : outerContents.rest.length = 16896 := List.length_replicate

theorem payloadExtent_outer : outerContents.payloadExtent = ⟨8192, 8704⟩ := by
  rw [Contents1.payloadExtent, show outerContents.plain.length = 8704 from length_innerImage]
  exact congrArg (Extent.mk · 8704) (show (16 : UInt32).toNat * sector = 8192 by decide)

theorem extents_outer : outerContents.extents = [⟨0, 592⟩, ⟨8192, 8704⟩, ⟨4096, 512⟩] := by
  have hslot : slot1.extent = ⟨4096, 512⟩ := by decide
  have hlist : outerContents.enabled.map EnabledSlot.extent = [slot1.extent] := rfl
  rw [Contents1.extents, payloadExtent_outer, hlist, hslot, luks1PhdrLen]

/-- A container with the bytes of another for its payload. -/
def outer1 : Layout1 where
  toContents1 := outerContents
  isXtsKey := isXtsKey_masterKey
  mkDigestIter_pos := one_le_iterations
  cipherName_fits := textFits_aes
  uuid_fits := textFits_uuid
  sectors := ⟨17, length_innerImage⟩
  fits := by
    rw [extents_outer, length_rest_outer]
    decide
  apart := by
    rw [extents_outer]
    decide

theorem enabled_outer1 : outer1.enabled = [slot1] := rfl

/-- The bytes of both. -/
abbrev outerImage : Bytes := outer1.image crates1 enc1

theorem length_outerImage : outerImage.length = 16896 :=
  (Layout1.length_image inverts1).trans length_rest_outer

/-- A source in memory keeps to the contract. -/
theorem serves_memSource {img : Bytes} (h : img.length < 2 ^ 63) : (memSource img).Serves img :=
  ⟨UInt64.toNat_ofNat_of_lt' (lt_trans h (by decide)), fun _ _ => rfl⟩

/-- A cursor over a source that keeps to it presents the bytes. -/
theorem presents_of_serves {d : DynSource} {bytes : Bytes} (hlt : bytes.length < 2 ^ 63)
    (h : d.Serves bytes) : Presents bytes (sourceCursor d 0 d.len) := by
  have hread : d.readAt 0 (List.replicate d.len.toNat 0) = .ok (bytes.length, bytes) := by
    rw [h.readAt_eq, h.len_eq, readOf]
    simp [window]
  rw [sourceCursor, hread]
  simp only [List.take_length, dif_pos hlt]
  rfl

/-- Both containers have a formatter's payload, and the passphrase of the keyslot. -/
theorem nested_outerImage : Nested (fun _ => false) crates1 outerImage
    [credentials1, credentials1] plain := by
  have hwired : wired (credentials1 .luks1 "") = [slot1.passphrase] := rfl
  have hunused : outer1.UnusedInactive := fun _ => show keyDisabled ≠ keyEnabled by decide
  have hend : outer1.rest.length = outer1.payloadExtent.offset + outer1.plain.length := by
    rw [show outer1.payloadExtent = ⟨8192, 8704⟩ from payloadExtent_outer,
      show outer1.plain.length = 8704 from length_innerImage]
    exact length_rest_outer
  have hmem : slot1 ∈ outer1.enabled := by
    rw [enabled_outer1]
    exact List.mem_singleton_self slot1
  have hinner : format1.rest.length = format1.payloadExtent.offset + format1.plain.length := by
    have hplain : format1.plain.length = 512 := List.length_replicate
    have hoffset : format1.payloadExtent.offset = 8192 :=
      show (16 : UInt32).toNat * sector = 8192 by decide
    rw [hplain, hoffset]
    exact length_rest1 "aes" unusedRecord
  refine ⟨innerImage, Layout1.contains inverts1 hunused
    (Layout1.noCollision_of_single inverts1 enabled_outer1) hmem hend
    (lt_of_eq_of_lt length_rest_outer (by decide)) hwired, plain,
    Layout1.contains inverts1 format1.unusedInactive noCollision_format1 slot1_mem hinner
      (lt_of_eq_of_lt (length_rest1 "aes" unusedRecord) (by decide)) hwired, rfl⟩

end Sample

theorem stack_serves_sample : ∃ top, Stacked (fun _ => false) Sample.crates1 Sample.clock
    Sample.sourceCursor (Sample.memSource Sample.outerImage)
      [Sample.credentials1, Sample.credentials1] top ∧ top.Serves Sample.plain := by
  have hlt : Sample.outerImage.length < 2 ^ 63 :=
    lt_of_eq_of_lt Sample.length_outerImage (by decide)
  obtain ⟨⟨top, htop⟩, hserves⟩ := stack_serves (fun _ => false) Sample.crates1
    Sample.clock (fun _ _ => rfl) (fun _ _ => Sample.presents_of_serves) hlt
    (Sample.serves_memSource hlt) Sample.nested_outerImage
  exact ⟨top, htop, hserves top htop⟩

end Luks
