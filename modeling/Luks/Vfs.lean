import Luks.Display
import Luks.Volume

/-!
# The view of a volume as an image source

An encrypted container, mounted as a layer of a virtual file system. A layer
(`Luks.LuksLayer`) wraps the ciphertext, and is opened with the credentials that a source
of them has for it: each one that can be a passphrase is tried in turn over a cursor of its
own, and the first that unlocks the container gives a source of plaintext
(`Luks.LuksSource`). A source is read at offsets only, and clips a read at its end.

The file system library is not part of the code. What the layer uses of it are its types,
and a cursor over a source, which is a parameter. Reads of a source go through a lock, one
at a time, so that any interleaving of them is a sequence.
-/

namespace Luks

open Basis

/-! ### The types of the library -/

/-- The errors of the file system that a layer reports. -/
inductive VfsError where
  /-- There is no credential to open a target with. -/
  | needCredentials (scheme target : String)
  /-- A layer could not be decoded. -/
  | decode (layer : String) (offset : UInt64) (detail : String) (bytes : Bytes)
  deriving DecidableEq

/-- The encryption schemes of this code. -/
inductive EncryptionScheme where
  /-- LUKS version 1. -/
  | luks1
  /-- LUKS version 2. -/
  | luks2
  deriving DecidableEq

/-- A credential. -/
inductive Credential where
  /-- A password. -/
  | password (p : String)
  /-- A recovery key. -/
  | recoveryKey (p : String)
  /-- The bytes of a key. -/
  | keyBytes (b : Bytes)
  /-- A key file, or another kind that is not wired here. -/
  | unwired

/-- The passphrase that a credential stands for. -/
def Credential.passphrase : Credential → Option Bytes
  | password p => some p.toUTF8.toList
  | recoveryKey p => some p.toUTF8.toList
  | keyBytes b => some b
  | unwired => none

/-- The credentials there are for a scheme and a target. -/
abbrev CredentialSource : Type := EncryptionScheme → String → List Credential

/-- A source of bytes, read at offsets: a read gives how many bytes it wrote to the front
of the buffer, and the buffer. -/
structure DynSource where
  /-- Its length. -/
  len : UInt64
  /-- Reading into a buffer. -/
  readAt : UInt64 → Bytes → Except VfsError (ℕ × Bytes)

/-! ### A source of plaintext -/

section Programs

-- The characters that are escaped where a text is quoted.
variable (escaped : Char → Bool)

/-- An error, in the terms of the file system. -/
def mapLuksErr (e : LuksError) : VfsError := .decode "luks" 0 (e.text escaped) []

/-- A decrypted payload, as a source of bytes. -/
structure LuksSource (ρ : Type) where
  /-- The payload, under a lock. -/
  inner : DecryptedPayload ρ
  /-- Its length. -/
  len : ℕ

/-- The source of a payload. -/
def LuksSource.new {ρ : Type} (payload : DecryptedPayload ρ) : LuksSource ρ :=
  ⟨payload, payload.payloadSize⟩

variable {ρ : Type} [ReadSeek ρ] (K : Crates)

/-- Read into a buffer at an offset. -/
def LuksSource.readAt (offset : UInt64) (buf : Bytes) :
    Prog VfsError Event (LuksSource ρ) (ℕ × Bytes) := do
  let s ← Prog.get id
  let avail := s.len - offset.toNat
  if avail = 0 then return (0, buf)
  else
    -- a read over the end is cut to what there is
    let want := min buf.length avail
    match slice? buf 0 want with
    | none => return (0, buf)
    | some dst =>
        let bs ← Prog.zoom LuksSource.inner (fun p s => { s with inner := p })
          (Prog.mapError (mapLuksErr escaped) (DecryptedPayload.readAt K offset dst.length))
        return (want, bs ++ buf.drop want)

/-- A sequential read of a payload into a buffer: the number of bytes read, and the
buffer. -/
def DecryptedPayload.readInto (buf : Bytes) : Exec (DecryptedPayload ρ) (ℕ × Bytes) := do
  let bs ← DecryptedPayload.read K buf.length
  return (bs.length, bs ++ buf.drop bs.length)

/-! ### The layer -/

/-- An encrypted container, as a layer. -/
structure LuksLayer where
  /-- The ciphertext. -/
  encrypted : DynSource
  /-- Its length. -/
  len : UInt64
  /-- The scheme its header names. -/
  scheme : EncryptionScheme

/-- Wrap a container, with a look at the version of its header. -/
def LuksLayer.new (encrypted : DynSource) : LuksLayer where
  encrypted := encrypted
  len := encrypted.len
  scheme := match encrypted.readAt 0 (List.replicate 8 0) with
    | .ok (n, hdr) =>
        if 8 ≤ n ∧ luksMagic.toList.isPrefixOf hdr ∧ beU16 hdr 6 = 1 then .luks1 else .luks2
    | .error _ => .luks2

-- A cursor over a part of a source.
variable (clk : Clock) (sourceCursor : DynSource → UInt64 → UInt64 → ρ)

/-- An unlock over a fresh cursor, which is dropped with the run; the clock runs on. -/
def LuksLayer.unlock (l : LuksLayer) (passphrase : Bytes) : Exec (World Unit) (Unlocked ρ) :=
  Prog.zoom (fun w => ⟨sourceCursor l.encrypted 0 l.len, w.ticks, w.now⟩)
    (fun w _ => ⟨(), w.ticks, w.now⟩) (unlockWithPassphrase K clk passphrase)

/-- What is missing where there is no credential to try. -/
def needCredentials : VfsError := .needCredentials "luks" ""

/-- Try credentials in turn, after a failure of the last one tried. -/
def LuksLayer.tryCredentials (l : LuksLayer) :
    List Credential → Option LuksError → Prog VfsError Event (World Unit) (LuksSource ρ)
  | [], lastErr => Prog.throw ((lastErr.map (mapLuksErr escaped)).getD needCredentials)
  | cred :: creds, lastErr =>
    match cred.passphrase with
    -- `continue`: the failure before it stays the last one
    | none => l.tryCredentials creds lastErr
    | some passphrase => do
        match ← Prog.attempt (l.unlock K clk sourceCursor passphrase) with
        | .ok u => return LuksSource.new u.payload
        | .error e => l.tryCredentials creds (some e)

/-- Open the layer with the credentials there are for it. -/
def LuksLayer.open (l : LuksLayer) (creds : CredentialSource) :
    Prog VfsError Event (World Unit) (LuksSource ρ) :=
  let cands := creds l.scheme ""
  if cands.isEmpty then Prog.throw needCredentials
  else l.tryCredentials escaped K clk sourceCursor cands none

end Programs

end Luks
