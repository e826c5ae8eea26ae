import PertiskProxy.Foundation

/-! The functions the program takes from other crates and from Unicode data, with the
documented facts about them that proofs rely on. -/

namespace PertiskProxy

structure Mac where
  tag : Bytes → Bytes
  length_tag : ∀ message, (tag message).length = 32

instance : Inhabited Mac where
  default := { tag := fun _ => List.replicate 32 0, length_tag := by simp }

/-- What `url::Url::parse` yields, as far as the program reads it. -/
structure Url where
  scheme : Text
  host : Option Text
  port : Option Nat
  portOrKnownDefault : Option Nat
  path : Text
deriving DecidableEq

structure Platform where
  /-- `str::to_lowercase`, with the Unicode case tables. -/
  toLowercase : Text → Text
  /-- Lower-cased text has no ASCII capitals left. -/
  toAsciiLowercase_toLowercase : ∀ text,
    Text.toAsciiLowercase (toLowercase text) = toLowercase text
  /-- The case tables map no other character to white space. -/
  trim_toLowercase : ∀ text, Text.trim text = text →
    Text.trim (toLowercase text) = toLowercase text
  /-- `url::Url::parse`. -/
  parseUrl : Text → Option Url
  /-- `Hmac::<Sha256>::new_from_slice`, which accepts keys of any length. -/
  hmacSha256 : Bytes → Mac

/-- Case mapping as on ASCII text, and no URL accepted. -/
instance : Inhabited Platform where
  default :=
    { toLowercase := Text.toAsciiLowercase
      toAsciiLowercase_toLowercase := Text.toAsciiLowercase_idem
      trim_toLowercase := by
        intro text trimmed
        rw [Text.trim_toAsciiLowercase, trimmed]
      parseUrl := fun _ => none
      hmacSha256 := fun _ => default }

end PertiskProxy
