import Luks.EntryPoints
import Luks.Format1
import Luks.Vfs
import Luks.Basis.Search

/-!
# Opening a layer with credentials

The credentials for a layer are tried one after the other, each over a cursor of its own.
Where unlocking is a function of the bytes and the passphrase, the outcome depends on
nothing but the passphrases among the credentials, in order (`Luks.open_eq`): the first
that unlocks the container gives the source, the last one that does not is reported, and
without any there is nothing to try.
-/

namespace Luks

open Basis

/-- The passphrases among some credentials, in order. -/
def wired (creds : List Credential) : List Bytes := creds.filterMap Credential.passphrase

/-- The same source over another reader. -/
def LuksSource.map {ρ τ : Type} (f : ρ → τ) (s : LuksSource ρ) : LuksSource τ :=
  ⟨s.inner.map f, s.len⟩

section Opening

variable {ρ : Type} [ImageReader ρ] (escaped : Char → Bool) (K : Crates) (clk : Clock)
  (sourceCursor : DynSource → UInt64 → UInt64 → ρ) (l : LuksLayer) {img : Bytes}

/-- Unlocking the layer with a passphrase ends as the bytes say, whenever it is tried. A
container whose unlock is stopped – one that declares an oversized LUKS2 header, or has an Argon2
keyslot that stops it – is not settled. -/
def LuksLayer.Settled (img passphrase : Bytes) : Prop :=
  ∀ w, (l.unlock K clk sourceCursor passphrase w).out.map (Unlocked.map ImageReader.image) =
    .ofExcept (Spec.unlock K img passphrase)

/-- What is reported after trying all there is: the last failure, if there was one. -/
def reported (lastErr : Option LuksError) : VfsError :=
  (lastErr.map (mapLuksErr escaped)).getD needCredentials

/-- What trying passphrases in turn comes to. -/
def Spec.tryPassphrases (img : Bytes) (passphrases : List Bytes) (lastErr : Option LuksError) :
    Outcome VfsError (LuksSource Bytes) :=
  match tryEach (Spec.unlock K img) passphrases lastErr with
  | .ok u => .ok (LuksSource.new u.payload)
  | .error lastErr => .err (reported escaped lastErr)

/-- A passphrase is **tried**: those before it do not unlock the container. -/
def Spec.Tried (img : Bytes) (passphrases : List Bytes) (p : Bytes) : Prop :=
  ∃ l₁ l₂, passphrases = l₁ ++ p :: l₂ ∧ ∀ q ∈ l₁, ∃ e, Spec.unlock K img q = .error e

variable {l sourceCursor K clk}

/-- **Credentials are tried as their passphrases are**: the ones that are not wired are
passed over, and an attempt leaves nothing behind but its failure. -/
theorem tryCredentials_out {creds : List Credential}
    (h : ∀ p, Spec.Tried K img (wired creds) p → l.Settled K clk sourceCursor img p)
    (lastErr : Option LuksError) (w : World Unit) :
    (l.tryCredentials escaped K clk sourceCursor creds lastErr w).out.map
        (LuksSource.map ImageReader.image) =
      Spec.tryPassphrases escaped K img (wired creds) lastErr := by
  induction creds generalizing lastErr w with
  | nil => rfl
  | cons cred creds ih =>
    rw [LuksLayer.tryCredentials]
    -- a credential that is not wired changes neither side
    cases hcred : cred.passphrase with
    | none =>
      have hwired : wired (cred :: creds) = wired creds := List.filterMap_cons_none hcred
      rw [hwired] at h ⊢
      exact ih h lastErr w
    | some p =>
      have hwired : wired (cred :: creds) = p :: wired creds := List.filterMap_cons_some hcred
      rw [hwired] at h ⊢
      have hp := h p ⟨[], wired creds, rfl, by simp⟩ w
      rw [Spec.tryPassphrases, tryEach]
      dsimp only
      cases hrun : (l.unlock K clk sourceCursor p w).out with
      | ok u =>
        rw [hrun] at hp
        rw [Outcome.ofExcept_eq_ok_iff.mp hp.symm,
          Prog.bind_of_ok (by rw [Prog.attempt_of_ok hrun])]
        rfl
      | err e =>
        rw [hrun] at hp
        have hfails : Spec.unlock K img p = .error e := Outcome.ofExcept_eq_err_iff.mp hp.symm
        rw [hfails, Prog.bind_of_ok (by rw [Prog.attempt_of_err hrun])]
        -- this failure is the last so far, and the next attempt has a cursor of its own
        refine ih (fun q hq => ?_) (some e) _
        obtain ⟨l₁, l₂, hl, hfail⟩ := hq
        refine h q ⟨p :: l₁, l₂, by rw [hl]; rfl, ?_⟩
        exact List.forall_mem_cons.mpr ⟨⟨e, hfails⟩, hfail⟩
      | panic q =>
        rw [hrun] at hp
        exact absurd hp.symm (Outcome.ofExcept_ne_panic _ q)

/-- Opening a layer tries the passphrases among its credentials. -/
theorem open_out {creds : CredentialSource}
    (h : ∀ p, Spec.Tried K img (wired (creds l.scheme "")) p → l.Settled K clk sourceCursor img p)
    (w : World Unit) :
    (l.open escaped K clk sourceCursor creds w).out.map (LuksSource.map ImageReader.image) =
      Spec.tryPassphrases escaped K img (wired (creds l.scheme "")) none := by
  rw [LuksLayer.open]
  by_cases hempty : (creds l.scheme "").isEmpty = true
  · rw [if_pos hempty, List.isEmpty_iff.mp hempty]
    rfl
  · rw [if_neg hempty]
    exact tryCredentials_out escaped h none w

/-- On a clock that stands, unlocking a container is settled that declares no oversized header
and has no keyslot that stops the unlock. -/
theorem settled_of_stands (hcursor : Presents img (sourceCursor l.encrypted 0 l.len))
    (hsane : beU16 img 6 = 2 → ¬Oversized img) (hstands : clk.Stands) {p : Bytes}
    (hgoes : ¬(beU16 img 6 = 2 ∧ Spec.UnlockStops2 K img p)) :
    l.Settled K clk sourceCursor img p := by
  intro w
  exact (unlock_run K clk hsane unlockBudget p).settles clk hgoes hcursor hstands (by decide)

end Opening

/-- **Opening a layer gives what its passphrases do.** Where unlocking is settled for each of
the credentials that are wired: the first of them that unlocks the container gives the source
of its payload; credentials are asked for exactly where none is wired; and where none of them
unlocks it, the failure of the last is reported. -/
theorem open_eq {ρ : Type} [ImageReader ρ] (escaped : Char → Bool) (K : Crates) (clk : Clock)
    (sourceCursor : DynSource → UInt64 → UInt64 → ρ) (l : LuksLayer) (creds : CredentialSource)
    (img : Bytes) (w : World Unit)
    (h : ∀ p ∈ wired (creds l.scheme ""), l.Settled K clk sourceCursor img p) :
    (∀ l₁ p l₂ u, wired (creds l.scheme "") = l₁ ++ p :: l₂ →
        (∀ q ∈ l₁, ∃ e, Spec.unlock K img q = .error e) → Spec.unlock K img p = .ok u →
        ∃ s, (l.open escaped K clk sourceCursor creds w).out = .ok s ∧
          s.map ImageReader.image = LuksSource.new u.payload) ∧
      ((l.open escaped K clk sourceCursor creds w).out = .err needCredentials ↔
        wired (creds l.scheme "") = []) ∧
      ∀ l₁ p e, wired (creds l.scheme "") = l₁ ++ [p] →
        (∀ q ∈ l₁, ∃ e, Spec.unlock K img q = .error e) → Spec.unlock K img p = .error e →
        (l.open escaped K clk sourceCursor creds w).out = .err (mapLuksErr escaped e) := by
  have htried : ∀ p, Spec.Tried K img (wired (creds l.scheme "")) p →
      l.Settled K clk sourceCursor img p := by
    rintro p ⟨l₁, l₂, hl, -⟩
    exact h p (by rw [hl]; simp)
  have hout := open_out escaped htried w
  refine ⟨fun l₁ p l₂ u hwired hfail hp => ?_, ?_, fun l₁ p e hwired hfail hp => ?_⟩
  · rw [hwired, Spec.tryPassphrases, tryEach_of_ok hfail hp] at hout
    exact Outcome.map_eq_ok_iff.mp hout
  · rw [← tryEach_eq_error_none_iff (f := Spec.unlock K img), ← Outcome.map_eq_err_iff
      (f := LuksSource.map ImageReader.image), hout, Spec.tryPassphrases]
    rcases htry : tryEach (Spec.unlock K img) (wired (creds l.scheme "")) none with
      (_ | e) | u
    · simp [reported]
    · simp [reported, mapLuksErr, needCredentials]
    · simp
  · rw [hwired, Spec.tryPassphrases, tryEach_of_error hfail hp] at hout
    exact Outcome.map_eq_err_iff.mp hout

/-! ### One container -/

namespace Sample

/-- The source of some bytes in memory. -/
def memSource (img : Bytes) : DynSource where
  len := UInt64.ofNat img.length
  readAt offset buf :=
    .ok (min buf.length (img.length - offset.toNat),
      window img offset.toNat buf.length ++
        buf.drop (min buf.length (img.length - offset.toNat)))

/-- A cursor over a part of a source, which reads that part at once. -/
def sourceCursor (src : DynSource) (offset len : UInt64) : Cursor :=
  match src.readAt offset (List.replicate len.toNat 0) with
  | .ok (n, buf) =>
      if h : (buf.take n).length < 2 ^ 63 then Cursor.new (buf.take n) h
      else Cursor.new [] (by decide)
  | .error _ => Cursor.new [] (by decide)

theorem presents_sourceCursor {img : Bytes} (h : img.length < 2 ^ 63) :
    Presents img (sourceCursor (memSource img) 0 (memSource img).len) := by
  have hlen : (UInt64.ofNat img.length).toNat = img.length :=
    UInt64.toNat_ofNat_of_lt' (lt_trans h (by decide))
  have hread : (memSource img).readAt 0 (List.replicate (memSource img).len.toNat 0) =
      .ok (img.length, img) := by
    simp [memSource, hlen, window]
  rw [sourceCursor, hread]
  simp only [List.take_length, dif_pos h]
  rfl

/-- The layer of the sample container. -/
def layer1 : LuksLayer :=
  LuksLayer.new (memSource (format1.toLayout1.image crates1 enc1))

/-- A key file that is not wired, and a key. -/
def credentials1 : CredentialSource := fun _ _ => [.unwired, .keyBytes passphrase, .unwired]

/-- A passphrase that is not that of the container. -/
def otherPassphrase : Bytes := utf8 "battery staple"

/-- It derives a key that decrypts the key material to something else. -/
theorem candidate1_otherPassphrase : Spec.candidate1 crates1 (format1.toLayout1.image crates1 enc1)
    (format1.toLayout1.header crates1) otherPassphrase slot1.record =
      .ok (some (window material 32 32)) := by
  have hkey : crates1.pbkdf2Hmac .sha1 otherPassphrase salt 1000 32 = List.replicate 32 0 := by
    decide
  have hmaterial : stripes.material (crates1.digest .sha1) enc1 slotKey = material := by
    decide +kernel
  have hwindow : window (format1.toLayout1.image crates1 enc1) slot1.extent.offset 512 =
      material := (Layout1.window_material inverts1 slot1_mem).trans hmaterial
  have hplain : Spec.xtsDecryptArea crates1 "xts-plain64" (List.replicate 32 0) material 512 0 =
      .ok material := by decide +kernel
  have hmerge : Spec.merge crates1 "sha1" material 32 2 = .ok (window material 32 32) := by
    decide +kernel
  refine (Layout1.candidate1_record (F := format1.toLayout1) _ otherPassphrase slot1).trans ?_
  have hstop := Layout1.extent_stop_le (F := format1.toLayout1) inverts1 slot1_mem
  refine Spec.openMaterial_eq_some_iff.mpr ⟨by decide, inside_of_le hstop, material, ?_, hmerge⟩
  exact (congrArg₂ (fun key ct => Spec.xtsDecryptArea crates1 "xts-plain64" key ct 512 0)
    hkey hwindow).trans hplain

/-- **It does not unlock the container.** -/
theorem unlock_otherPassphrase : Spec.unlock crates1 (format1.toLayout1.image crates1 enc1)
    otherPassphrase = .error .authenticationFailed := by
  refine Layout1.unlock_image_of_wrong inverts1 format1.unusedInactive
    (List.cons_ne_nil slot1 []) fun s hs c hc hverifies => ?_
  obtain rfl : s = slot1 := List.mem_singleton.mp hs
  obtain rfl : window material 32 32 = c :=
    Option.some.inj (Except.ok.inj (candidate1_otherPassphrase.symm.trans hc))
  have hderived : Spec.deriveKey crates1 Hash.sha1.name (window material 32 32) digestSalt 1000 20 =
      .ok mkDigest := hverifies
  rw [Spec.deriveKey_name .sha1 _ _ one_le_iterations (by decide)] at hderived
  exact absurd (Except.ok.inj hderived) (by decide +kernel)

/-- A key file that is not wired, a wrong passphrase, and the right one. -/
def credentials2 : CredentialSource :=
  fun _ _ => [.unwired, .keyBytes otherPassphrase, .keyBytes passphrase, .unwired]

theorem settled_layer1 (p : Bytes) :
    layer1.Settled crates1 clock sourceCursor (format1.toLayout1.image crates1 enc1) p := by
  refine settled_of_stands (l := layer1)
    (presents_sourceCursor (image1_lt format1.toLayout1 List.length_replicate)) (fun htwo => ?_)
    (fun _ _ => rfl) fun hstops => ?_
  · rw [Layout1.beU16_image inverts1] at htwo
    cases htwo
  · rw [Layout1.beU16_image inverts1] at hstops
    cases hstops.1

end Sample

theorem open_eq_sample : ∃ s, (LuksLayer.open (fun _ => false) Sample.crates1 Sample.clock
      Sample.sourceCursor Sample.layer1 Sample.credentials2 ⟨(), 0, 0⟩).out = .ok s ∧
    s.inner.masterKey = Sample.masterKey := by
  obtain ⟨acceptedBy, hspec⟩ := Layout1.unlock_image Sample.inverts1 Sample.format1.unusedInactive
    Sample.noCollision_format1 Sample.slot1_mem
  have hfail : ∀ q ∈ [Sample.otherPassphrase], ∃ e, Spec.unlock Sample.crates1
      (Sample.format1.toLayout1.image Sample.crates1 Sample.enc1) q = .error e :=
    List.forall_mem_singleton.mpr ⟨_, Sample.unlock_otherPassphrase⟩
  obtain ⟨s, hs, himage⟩ := (open_eq (fun _ => false) Sample.crates1 Sample.clock
    Sample.sourceCursor Sample.layer1 Sample.credentials2 _ ⟨(), 0, 0⟩
    fun p _ => Sample.settled_layer1 p).1 [Sample.otherPassphrase] Sample.passphrase [] _ rfl
      hfail hspec
  exact ⟨s, hs, congrArg (fun t => t.inner.masterKey) himage⟩

end Luks
