import Luks.Basis.Effect
import Luks.Error

/-!
# What the container code takes from its dependencies

The reader calls audited crates for every primitive: a JSON parser, a base64
decoder, three hashes, PBKDF2, Argon2 and AES-XTS. None of them is part of the
development, so the model takes them as one parameter (`Luks.Crates`), a structure
of functions. Its laws are the lengths of the outputs, which the code fixes by
handing over a buffer, and where the check of the parameters of Argon2 is stopped: it
multiplies the lanes in 32 bits, and a build with overflow checks stops where the
product leaves them.

With them goes what the compiler settles, the sizes of the records that are collected in
vectors.
-/

namespace Luks

open Basis

/-! ### JSON documents -/

/-- A JSON number. -/
inductive Number where
  /-- A non-negative integer that fits 64 bits. -/
  | posInt (n : UInt64)
  /-- A negative integer that fits 64 bits. -/
  | negInt (n : Int64)
  /-- Any other number; integers beyond 64 bits are among these. -/
  | float
  deriving DecidableEq

/-- A JSON document. The entries of an object stand in the order its map is
iterated in. -/
inductive Value where
  /-- `null`. -/
  | null
  /-- A truth value. -/
  | bool (b : Bool)
  /-- A number. -/
  | number (n : Number)
  /-- A string. -/
  | string (s : String)
  /-- An array. -/
  | array (a : List Value)
  /-- An object. -/
  | object (m : List (String × Value))

namespace Value

/-- The entry of an object under `key`. -/
def get (v : Value) (key : String) : Option Value :=
  match v with
  | object m => m.lookup key
  | _ => none

/-- The text of a string. -/
def asStr : Value → Option String
  | string s => some s
  | _ => none

/-- The items of an array. -/
def asArray : Value → Option (List Value)
  | array a => some a
  | _ => none

/-- The entries of an object. -/
def asObject : Value → Option (List (String × Value))
  | object m => some m
  | _ => none

end Value

/-! ### The primitives -/

/-- A hash function of fixed output size. -/
structure Digest where
  /-- Bytes of output. -/
  outputSize : ℕ
  /-- The hash of a message. -/
  hash : Bytes → Bytes
  /-- A digest is not empty. -/
  outputSize_pos : 0 < outputSize
  /-- A digest has its size. -/
  length_hash : ∀ m, (hash m).length = outputSize

/-- The hashes that are wired. -/
inductive Hash where
  /-- SHA-1. -/
  | sha1
  /-- SHA-256. -/
  | sha256
  /-- SHA-512. -/
  | sha512
  deriving DecidableEq, Repr

/-- Bytes of output of a hash. -/
def Hash.outputSize : Hash → ℕ
  | sha1 => 20
  | sha256 => 32
  | sha512 => 64

/-- The variants of Argon2 that are wired. -/
inductive Algorithm where
  /-- Argon2i. -/
  | argon2i
  /-- Argon2id. -/
  | argon2id
  deriving DecidableEq, Repr

/-- The key sizes of AES that are wired. -/
inductive Aes where
  /-- 128-bit keys. -/
  | aes128
  /-- 256-bit keys. -/
  | aes256
  deriving DecidableEq, Repr

/-- The records that the header parser collects in vectors. -/
inductive Element where
  /-- A keyslot. -/
  | keyslot
  /-- A segment. -/
  | segment
  /-- A digest. -/
  | digest
  /-- The name of a keyslot, in a digest. -/
  | name
  deriving DecidableEq, Repr

/-- **The crates** the reader is built on. -/
structure Crates where
  /-- `serde_json::from_slice`. -/
  fromSlice : Bytes → Option Value
  /-- Standard base64, padding required. -/
  base64Decode : String → Option Bytes
  /-- The hash functions. -/
  digest : Hash → Digest
  /-- Each has the size its name says. -/
  outputSize_digest : ∀ h, (digest h).outputSize = h.outputSize
  /-- PBKDF2-HMAC: password, salt, iterations, output length. -/
  pbkdf2Hmac : Hash → Bytes → Bytes → ℕ → ℕ → Bytes
  /-- It fills the buffer it is given. -/
  length_pbkdf2Hmac : ∀ h pw salt iters len, (pbkdf2Hmac h pw salt iters len).length = len
  /-- `Params::new` of Argon2, for a memory cost, time cost, lane count and output length: it
  takes them, refuses them or is stopped. -/
  argon2Params : ℕ → ℕ → ℕ → ℕ → Outcome String Unit
  /-- It is stopped where eight times the lanes, which a memory cost that is not too small is
  compared with, leaves 32 bits. -/
  argon2Params_eq_panic_iff : ∀ {memory time lanes len p},
    argon2Params memory time lanes len = .panic p ↔
      p = .arithmeticOverflow ∧ 8 ≤ memory ∧ 2 ^ 32 ≤ lanes * 8
  /-- Argon2: memory, time, lanes, password, salt, output length. -/
  argon2Hash : Algorithm → ℕ → ℕ → ℕ → Bytes → Bytes → ℕ → Except String Bytes
  /-- It fills the buffer it is given. -/
  length_argon2Hash : ∀ {alg memory time cpus pw salt len out},
    argon2Hash alg memory time cpus pw salt len = .ok out → out.length = len
  /-- AES-XTS decryption of one data unit: the two keys, the 16-byte tweak, the unit. -/
  xtsDecryptSector : Aes → Bytes → Bytes → Bytes → Bytes → Bytes
  /-- It works in place. -/
  length_xtsDecryptSector : ∀ aes k₁ k₂ tweak unit,
    (xtsDecryptSector aes k₁ k₂ tweak unit).length = unit.length
  /-- The bytes that a record takes in a vector. -/
  elementSize : Element → ℕ

end Luks
