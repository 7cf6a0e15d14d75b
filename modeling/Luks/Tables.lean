import Luks.Basis.Base64
import Luks.Encryption

/-!
# Crates given by tables

An instance of the crates to evaluate the development on: what a primitive gives is
looked up in a table, so that it is what the real one gives on the inputs the table
lists (`Luks.Tables.crates`). Encryption is the same table read the other way, and
decryption undoes it on every input (`Luks.Tables.inverts`).

`Luks.Sample` has the table of one small container: a passphrase, a master key split
to two stripes, one sector of payload, and the metadata of a LUKS2 header.
-/

namespace Luks

open Basis

/-- What the primitives give, on the inputs that matter. -/
structure Tables where
  /-- The documents that JSON texts denote. -/
  json : List (Bytes × Value)
  /-- Hash, message; digest. -/
  hash : List ((Hash × Bytes) × Bytes)
  /-- Hash, password, salt, iterations, length; key. -/
  pbkdf2 : List ((Hash × Bytes × Bytes × ℕ × ℕ) × Bytes)
  /-- Key size, keys, tweak; plaintext and ciphertext of a data unit. -/
  xts : List ((Aes × Bytes × Bytes × Bytes) × Bytes × Bytes)

/-- `bs` cut or filled up to `n` bytes. -/
def fitTo (n : ℕ) (bs : Bytes) : Bytes := (bs ++ List.replicate n 0).take n

@[simp] theorem length_fitTo (n : ℕ) (bs : Bytes) : (fitTo n bs).length = n := by
  rw [fitTo, List.length_take, List.length_append, List.length_replicate]
  omega

/-- `a` and `b` swapped, if they have one length. -/
def swap (a b x : Bytes) : Bytes :=
  if a.length = b.length then if x = a then b else if x = b then a else x else x

theorem length_swap (a b x : Bytes) : (swap a b x).length = x.length := by
  rw [swap]
  split_ifs with hlen ha hb
  · rw [ha, hlen]
  · rw [hb, hlen]
  · rfl
  · rfl

/-- Swapping twice changes nothing. -/
theorem swap_swap (a b x : Bytes) : swap a b (swap a b x) = x := by
  by_cases hlen : a.length = b.length
  · by_cases ha : x = a
    · by_cases hab : b = a <;> simp [swap, hlen, ha, hab]
    · by_cases hb : x = b <;> simp [swap, hlen, ha, hb]
  · simp [swap, hlen]

/-- The checks of Argon2 on its parameters, in its order. -/
def argon2Check (memory time cpus len : ℕ) : Outcome String Unit :=
  if memory < 8 then .err "memory cost is too small"
  else if 2 ^ 32 ≤ cpus * 8 then .panic .arithmeticOverflow
  else if memory < cpus * 8 then .err "memory cost is too small"
  else if time < 1 then .err "time cost is too small"
  else if cpus < 1 then .err "not enough threads"
  else if 0xFFFFFF < cpus then .err "too many threads"
  else if len < 4 then .err "output is too short"
  else .ok ()

theorem argon2Check_eq_panic_iff {memory time cpus len : ℕ} {p : Panic} :
    argon2Check memory time cpus len = .panic p ↔
      p = .arithmeticOverflow ∧ 8 ≤ memory ∧ 2 ^ 32 ≤ cpus * 8 := by
  rw [argon2Check]
  split_ifs with hmemory hlanes
  · exact iff_of_false (by simp) fun h => absurd h.2.1 (Nat.not_le_of_lt hmemory)
  · rw [Outcome.panic.injEq, eq_comm,
      and_iff_left ⟨Nat.le_of_not_lt hmemory, hlanes⟩]
  all_goals exact iff_of_false (by simp) fun h => hlanes h.2.2

/-- The sizes of the records, in a build for 64 bits. -/
def recordSize : Element → ℕ
  | .keyslot => 168
  | .segment => 80
  | .digest => 128
  | .name => 24

namespace Tables

variable (T : Tables)

/-- One data unit, from plaintext to ciphertext or back. -/
def xtsSector : Encipher := fun aes k₁ k₂ tweak unit =>
  (T.xts.lookup (aes, k₁, k₂, tweak)).elim unit fun p => swap p.1 p.2 unit

theorem length_xtsSector (aes : Aes) (k₁ k₂ tweak unit : Bytes) :
    (T.xtsSector aes k₁ k₂ tweak unit).length = unit.length := by
  rw [xtsSector]
  cases T.xts.lookup (aes, k₁, k₂, tweak) with
  | none => rfl
  | some p => exact length_swap ..

/-- **The crates of the tables.** -/
def crates : Crates where
  fromSlice text := T.json.lookup text
  base64Decode := base64Decode
  digest h := {
    outputSize := h.outputSize
    hash := fun m => fitTo h.outputSize ((T.hash.lookup (h, m)).getD [])
    outputSize_pos := by cases h <;> decide
    length_hash := fun _ => length_fitTo _ _ }
  outputSize_digest _ := rfl
  pbkdf2Hmac h password salt iters len :=
    fitTo len ((T.pbkdf2.lookup (h, password, salt, iters, len)).getD [])
  length_pbkdf2Hmac _ _ _ _ _ := length_fitTo _ _
  argon2Params := argon2Check
  argon2Params_eq_panic_iff := argon2Check_eq_panic_iff
  argon2Hash _ _ _ _ password salt len :=
    if 2 ^ 32 ≤ password.length then .error "password is too long"
    else if salt.length < 8 then .error "salt is too short"
    else if 2 ^ 32 ≤ salt.length then .error "salt is too long"
    else .ok (fitTo len [])
  length_argon2Hash := by
    intro alg memory time cpus password salt len out h
    split_ifs at h
    exact Except.ok.inj h ▸ length_fitTo _ _
  xtsDecryptSector := T.xtsSector
  length_xtsDecryptSector := T.length_xtsSector
  elementSize := recordSize

/-- **Decryption undoes encryption.** -/
theorem inverts : Inverts T.crates T.xtsSector where
  length_eq := T.length_xtsSector
  decrypt aes k₁ k₂ tweak unit _ := by
    change T.xtsSector aes k₁ k₂ tweak (T.xtsSector aes k₁ k₂ tweak unit) = unit
    rw [xtsSector, xtsSector]
    cases T.xts.lookup (aes, k₁, k₂, tweak) with
    | none => rfl
    | some p => exact swap_swap ..

end Tables

/-! ### The table of one container -/

namespace Sample

/-- The passphrase. -/
def passphrase : Bytes := utf8 "correct horse"

/-- The salt of the keyslot. -/
def salt : Bytes := List.replicate 32 0x5A

/-- The salt of the digest. -/
def digestSalt : Bytes := List.replicate 32 0x22

/-- The master key. -/
def masterKey : Bytes := (List.range 32).map UInt8.ofNat

/-- The key that the passphrase derives. -/
def slotKey : Bytes := toBe 32 0x7dd4e075a2379b9877605454f91febb4bc82dbabfabccfc21e8876e7c798c9a2

/-- The digest of the master key. -/
def mkDigest : Bytes := toBe 20 0x167a4606e8a7db50f38977f16c19ff0c4ab718f3

/-- The digest of a key of zeros. -/
def zeroDigest : Bytes := toBe 20 0xd256e2264c633974c584e28138e0d12e0a958d21

/-- The first stripe. -/
def filler : Bytes := List.replicate 32 0xA5

/-- The last stripe. -/
def lastStripe : Bytes := toBe 32 0x0fa76667590729ec3369fa2a6b19205a0df1b145305b669ae0b428b4714732f4

/-- The plaintext of the payload. -/
def plain : Bytes := List.replicate 512 0x2A

theorem isXtsKey_masterKey : IsXtsKey masterKey := Or.inl rfl

/-- The number of iterations is in the range of PBKDF2. -/
theorem one_le_iterations : 1 ≤ (1000 : UInt32).toNat := by decide

/-- The key material as the container has it. -/
def material : Bytes := List.flatMap (toBe 32) [
    0x0ae6ec6771d707b4d535a36417e0c7009e243a2d8c5c0c0b77e472411a7a1af1,
    0x5ea0bafdd29e1fa780e80acb8058139a53478187d0081d72c7ec0b5cbe1e1d0d,
    0xd4dfe0455b915cd03b504063496818510c481254171fbd66626fb1320095ac9a,
    0x69c0206a6124ccf6511b62a20d4e6b4a4a59e18b5b318793df616fc9c0d4873a,
    0xd3267b41bd8f543522c745a004846909579b31b63c1af8959cd5dd51031ff986,
    0x183f4681c2a384183d749e8ba545f190fd6ab1bd70e0807d3973aaaaba3e2ad6,
    0x6eb84df4d83e40b31032201bbf532ad95ad85f1e669fdb204311ccfce334ef35,
    0x0f35f9fbe04a50b48fa020039baf2ded50c7c0f4277600f630f9e43b27ceb655,
    0x56c981c3038ec45690a808fc35f7ce75e8ded39f4412e4ab18567d3338afa9ac,
    0x8873008401fdf71307b6d0627a53a68cf655d4b8a36dd26f6d744d586fb1bdc7,
    0x67baca7b9fbbeb96ca3a86474d5d0734e4e85f8b5c570ca598c5c054dc73fe8d,
    0x3e4363a5b98f11b7ab30abb49638ff0f65e8f610221281d0c1ee4bc8be249522,
    0x315ba8ce2c2c5132a0c100c7723c2cc2271d75f737c24154f9be1bd15b377c0f,
    0x995d2f4318c731d9f09ca04d7526b759952d4860fc5234f725d8b24a7eba2153,
    0x93375560d48ef98c49d4517b7ca63efd3321b3574beaa3f6fcb0ba6ff1ff52c2,
    0x176f33c107da808aded5dcdad5344a8aa6d9e46ea6eb9de9c18193c19155a8a1]

/-- The payload as the container has it. -/
def payload : Bytes := List.flatMap (toBe 32) [
    0x82a9d6d96ebe091b06d985a2572470fcd8f22ee264ab31e2df1c6cd5a6a777d3,
    0x3d4285bbbf9cac647024a5350bdc48ba01e951e671bf1fc91cfdfa7dd93bbe0b,
    0xba7d8ba197bfdd0aded273a7b07cc2d0b741aa6789b3e1b7e6f4da6be7882683,
    0x2c41ed2211f6bb2837534c515114d7a968f5314b9de4c6ffafbe773d920ec764,
    0x1d3458b636a185eaa2a2d7d33397e5b5b8e20a747ffc52a69cb160910292c6c2,
    0x2cc765b254e896c08e4f1ea96a448549f32f69e85c235e289fc78627b6abf52f,
    0x1ba14121c1c923de99b9e3040276e1b960e9387b181f780dadd09688b7510d43,
    0xd81553e69864d3b64417f02c994ef8e31c6784afab795536fba24b020c42680c,
    0x416f8c80111420262df4b2352537e8e9dd6fc3b79b69826a12e7be9111de5716,
    0xc4e00911ddea92ec48dbbf4e5b4725f0f78259bceb58dd669ab1b66243355d3b,
    0x2ea72d96db02dafaa045719eb2922270425b726e82e0a6078f3d1966a41f2222,
    0xe7e46a974fe25544c89fa4702da98663ddf14bcd713b7e841ffd272694a66f48,
    0x537e50234fedbec7f540993e4bc46890b5a6c6f3cc3f17abbb2d8c7c9c105155,
    0x3223d4d6eaf020239305d2bf7ef952291411f2343b14c2a5a0eef1e0c834e586,
    0x3e535e7293f529a46b4d4e8cdae8452308fdc849b4448d35dc03460755b18722,
    0xebf2daa8e1f76482b75f14d8d0427f3e3d59023f9b1319e6b9bdfe52b7f540be]

/-- The table. -/
def tables (json : List (Bytes × Value)) : Tables where
  json := json
  hash := [
    ((.sha1, toBe 4 0 ++ filler.take 20), toBe 20 0x0fa664645d022feb3b60f02167142e551de0a356),
    ((.sha1, toBe 4 1 ++ filler.drop 20), toBe 20 0x244e708df8ad32af6d5a2ceb6f97238f462e1d92)]
  pbkdf2 := [((.sha1, passphrase, salt, 1000, 32), slotKey),
    ((.sha1, masterKey, digestSalt, 1000, 20), mkDigest),
    ((.sha1, List.replicate 32 0, digestSalt, 1000, 20), zeroDigest)]
  xts := [((.aes128, slotKey.take 16, slotKey.drop 16, toLe 16 0),
      filler ++ lastStripe ++ List.replicate 448 0, material),
    ((.aes128, masterKey.take 16, masterKey.drop 16, toLe 16 0), plain, payload)]

theorem fromSlice_single (text : Bytes) (doc : Value) :
    (tables [(text, doc)]).crates.fromSlice text = some doc := by
  change List.lookup text [(text, doc)] = some doc
  rw [List.lookup_cons, beq_self_eq_true]

/-- A clock that stands. -/
def clock : Clock := ⟨fun _ => 0, monotone_const⟩

theorem stands_clock : clock.Stands := fun _ _ => rfl

/-! ### Its document -/

/-- What varies in the metadata. -/
structure Metadata where
  /-- The digest, as its text. -/
  digest : String
  /-- The segments that the digest lists. -/
  digestSegments : List String
  /-- The stripe count of the keyslot. -/
  stripes : ℕ
  /-- The iteration count of the keyslot. -/
  iterations : ℕ
  /-- Cipher and mode of the segment. -/
  encryption : String
  /-- The size of the segment, as its text. -/
  size : String

/-- The digest of the master key in base64. -/
def digestText : String := "FnpGBuin21DziXfxbBn/DEq3GPM="

/-- The metadata of the container. -/
def metadata : Metadata := ⟨digestText, ["0"], 2, 1000, "aes-xts-plain64", "dynamic"⟩

/-- A text in quotes. -/
def quoted (s : String) : String := "\"" ++ s ++ "\""

/-- The JSON text of the metadata. -/
def json (m : Metadata) : Bytes := List.flatMap utf8 [
  "\x7b\"digests\":\x7b\"0\":\x7b\"digest\":", quoted m.digest,
  ",\"hash\":\"sha1\",\"iterations\":1000,\"keyslots\":[\"0\"],",
  "\"salt\":\"IiIiIiIiIiIiIiIiIiIiIiIiIiIiIiIiIiIiIiIiIiI=\",\"segments\":[",
  ",".intercalate (m.digestSegments.map quoted), "],\"type\":\"pbkdf2\"\x7d\x7d,",
  "\"keyslots\":\x7b\"0\":\x7b\"af\":\x7b\"hash\":\"sha1\",\"stripes\":", m.stripes.repr,
  ",\"type\":\"luks1\"\x7d,\"area\":\x7b\"encryption\":\"aes-xts-plain64\",",
  "\"key_size\":32,\"offset\":\"8192\",\"size\":\"512\",\"type\":\"raw\"\x7d,",
  "\"kdf\":\x7b\"hash\":\"sha1\",\"iterations\":", m.iterations.repr,
  ",\"salt\":\"WlpaWlpaWlpaWlpaWlpaWlpaWlpaWlpaWlpaWlpaWlo=\",\"type\":\"pbkdf2\"\x7d,",
  "\"key_size\":32\x7d\x7d,\"segments\":\x7b\"0\":\x7b\"encryption\":", quoted m.encryption,
  ",\"iv_tweak\":\"0\",\"offset\":\"12288\",\"sector_size\":512,\"size\":", quoted m.size,
  ",\"type\":\"crypt\"\x7d\x7d\x7d"]

/-- A number in a document. -/
def num (n : ℕ) : Value := .number (.posInt (UInt64.ofNat n))

/-- The document that the JSON text denotes. -/
def document (m : Metadata) : Value :=
  .object [
    ("digests", .object [("0", .object [("digest", .string m.digest), ("hash", .string "sha1"),
      ("iterations", num 1000), ("keyslots", .array [.string "0"]),
      ("salt", .string "IiIiIiIiIiIiIiIiIiIiIiIiIiIiIiIiIiIiIiIiIiI="),
      ("segments", .array (m.digestSegments.map .string)), ("type", .string "pbkdf2")])]),
    ("keyslots", .object [("0", .object [
      ("af", .object [("hash", .string "sha1"), ("stripes", num m.stripes),
        ("type", .string "luks1")]),
      ("area", .object [("encryption", .string "aes-xts-plain64"), ("key_size", num 32),
        ("offset", .string "8192"), ("size", .string "512"), ("type", .string "raw")]),
      ("kdf", .object [("hash", .string "sha1"), ("iterations", num m.iterations),
        ("salt", .string "WlpaWlpaWlpaWlpaWlpaWlpaWlpaWlpaWlpaWlpaWlo="),
        ("type", .string "pbkdf2")]),
      ("key_size", num 32)])]),
    ("segments", .object [("0", .object [("encryption", .string m.encryption),
      ("iv_tweak", .string "0"), ("offset", .string "12288"), ("sector_size", num 512),
      ("size", .string m.size), ("type", .string "crypt")])])]

/-- The text fits a header area of 8 KiB, and has no NUL. -/
structure Metadata.Fits (m : Metadata) : Prop where
  /-- There is room for it and the NUL that ends it. -/
  length_lt : (json m).length < 4096
  /-- It has no NUL. -/
  no_nul : ∀ b ∈ json m, b ≠ 0

/-- The texts that vary. -/
def Metadata.texts (m : Metadata) : List String :=
  [quoted m.digest, ",".intercalate (m.digestSegments.map quoted), m.stripes.repr,
    m.iterations.repr, quoted m.encryption, quoted m.size]

set_option maxRecDepth 20000 in
theorem json_metadata : (json metadata).length ≤ 3072 ∧ 0 ∉ json metadata := by
  decide +kernel

theorem fits_metadata : metadata.Fits where
  length_lt := lt_of_le_of_lt json_metadata.1 (by decide)
  no_nul := List.forall_mem_ne'.mpr json_metadata.2

/-- The text of any metadata fits, if the texts that vary are short and have no NUL: the
rest is as in the metadata above, so that it is not gone through again. -/
theorem Metadata.fits_of_texts {m : Metadata} (hlen : (m.texts.flatMap utf8).length < 1024)
    (hnul : 0 ∉ m.texts.flatMap utf8) : m.Fits := by
  obtain ⟨hbound, hclear⟩ := json_metadata
  have hlength : (json m).length + (metadata.texts.flatMap utf8).length =
      (json metadata).length + (m.texts.flatMap utf8).length := by
    simp only [json, Metadata.texts, List.flatMap_cons, List.flatMap_nil, List.length_append]
    omega
  have hmem : 0 ∈ json m → 0 ∈ json metadata ∨ 0 ∈ m.texts.flatMap utf8 := by
    simp only [json, Metadata.texts, List.flatMap_cons, List.flatMap_nil, List.mem_append]
    grind
  refine ⟨by omega, List.forall_mem_ne'.mpr fun h => ?_⟩
  rcases hmem h with h | h
  · exact hclear h
  · exact hnul h

theorem base64Encode_salt :
    base64Encode salt = "WlpaWlpaWlpaWlpaWlpaWlpaWlpaWlpaWlpaWlpaWlo=" := by
  decide +kernel

theorem base64Encode_digestSalt :
    base64Encode digestSalt = "IiIiIiIiIiIiIiIiIiIiIiIiIiIiIiIiIiIiIiIiIiI=" := by
  decide +kernel

theorem base64Encode_mkDigest : base64Encode mkDigest = digestText := by
  decide +kernel

end Sample

end Luks
