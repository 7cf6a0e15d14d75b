import Luks.Error

/-!
# The texts of errors

What an error says (`Luks.LuksError.text`). Most texts only put the values an error names
between words. A value that is quoted is escaped first, and which characters are written as
escapes is a matter of Unicode tables that are not part of the code; they are a parameter
here.
-/

namespace Luks

open Basis

/-- A byte in two hexadecimal digits. -/
def hex2 (b : UInt8) : String :=
  String.ofList (List.leftpad 2 '0' (Nat.toDigits 16 b.toNat))

/-- Bytes as `{:02x?}` prints them. -/
def hexDebug (bs : Bytes) : String := "[" ++ String.intercalate ", " (bs.map hex2) ++ "]"

section Texts

-- The characters that are not printable, or that extend the one before them.
variable (escaped : Char → Bool)

/-- A character inside a quoted text. -/
def escapeDebug (c : Char) : String :=
  match c with
  | '\x00' => "\\0"
  | '\t' => "\\t"
  | '\r' => "\\r"
  | '\n' => "\\n"
  | '\\' => "\\\\"
  | '"' => "\\\""
  | c =>
    if escaped c then "\\u\x7b" ++ String.ofList (Nat.toDigits 16 c.toNat) ++ "\x7d"
    else c.toString

/-- A text as `{:?}` prints it. -/
def strDebug (s : String) : String :=
  "\"" ++ String.join (s.toList.map (escapeDebug escaped)) ++ "\""

/-- What an input error says. -/
def ioText : IoError → String
  | .unexpectedEof => "failed to fill whole buffer"
  | .invalidInput msg => msg
  | .other msg => msg

/-- What an error says. -/
def LuksError.text : LuksError → String
  | notLuks found =>
      "not a LUKS container: magic is " ++ hexDebug found.toList ++ ", expected 4c554b53babe"
  | unsupportedVersion version =>
      s!"unsupported LUKS version {version} (only 1 and 2 are supported)"
  | unsupported what value => "unsupported " ++ what ++ ": " ++ strDebug escaped value
  | unlockBudgetExceeded slotsTried budgetSecs =>
      s!"unlock exceeded its total budget of {budgetSecs}s after {slotsTried} keyslot(s); " ++
        "the header's cumulative key-derivation cost is not satisfiable"
  | derivationBudgetExceeded iterations projectedSecs budgetSecs =>
      s!"key derivation would take about {projectedSecs}s for {iterations} iterations, " ++
        s!"over the {budgetSecs}s budget — refusing rather than clamping, because a " ++
        "reduced iteration count derives a different key"
  | implausibleStripes stripes max blockSize =>
      s!"keyslot declares {stripes} anti-forensic stripes, over the {max} ceiling " ++
        s!"— refusing before sizing a {min (stripes * blockSize) (2 ^ 64 - 1)} byte buffer"
  | derivationMemoryExceeded requestedKib maxKib =>
      s!"argon2 keyslot asks for {requestedKib} KiB of memory, over the " ++
        s!"{maxKib} KiB ceiling — refusing before allocating"
  | keyLengthExceeded requested max =>
      s!"header asks to derive a {requested} byte master key, over the {max} " ++
        "byte ceiling — refusing before allocating or calibrating"
  | malformedHeader what need got =>
      s!"malformed LUKS header: {what} (need {need} bytes, have {got})"
  | authenticationFailed => "authentication failed: no keyslot matched the passphrase"
  | noActiveKeyslot => "no active keyslot in the LUKS header"
  | io e => "I/O error: " ++ ioText e

end Texts

end Luks
