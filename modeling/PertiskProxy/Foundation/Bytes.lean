import PertiskProxy.Foundation.Text

/-! UTF-8 encoding, both decoders of the Rust standard library, and lower-case
hexadecimal. -/

namespace PertiskProxy

open List

abbrev Bytes := List UInt8

def Text.asBytes (text : Text) : Bytes :=
  text.flatMap String.utf8EncodeChar

theorem Text.asBytes_injective : Function.Injective Text.asBytes := by
  intro left right equal
  apply String.ofList_injective
  rw [← String.toByteArray_inj, String.toByteArray_ofList, String.toByteArray_ofList,
    utf8Encode, utf8Encode]
  exact congrArg toByteArray equal

namespace Bytes

def continuation (byte : UInt8) : Option Nat :=
  if 0x80 ≤ byte && byte ≤ 0xBF then some (byte.toNat - 0x80) else none

/-- The second bytes that may follow a leading byte of a three- or four-byte
sequence. The narrower ranges exclude overlong forms, surrogates, and values
above U+10FFFF. -/
def secondByte (first second : UInt8) : Option Nat :=
  let low : UInt8 := if first == 0xE0 then 0xA0 else if first == 0xF0 then 0x90 else 0x80
  let high : UInt8 := if first == 0xED then 0x9F else if first == 0xF4 then 0x8F else 0xBF
  if low ≤ second && second ≤ high then some (second.toNat - 0x80) else none

/-- Read one scalar value, or skip one maximal invalid sequence. -/
def utf8Step (first : UInt8) (rest : Bytes) : Option Char × Bytes :=
  if first < 0x80 then (some (Char.ofNat first.toNat), rest)
  else if 0xC2 ≤ first && first ≤ 0xDF then
    match rest with
    | b :: tail =>
      match continuation b with
      | some low => (some (Char.ofNat ((first.toNat - 0xC0) * 64 + low)), tail)
      | none => (none, rest)
    | [] => (none, rest)
  else if 0xE0 ≤ first && first ≤ 0xEF then
    match rest with
    | b :: tail =>
      match secondByte first b with
      | none => (none, rest)
      | some middle =>
        match tail with
        | c :: tail' =>
          match continuation c with
          | some low =>
            (some (Char.ofNat ((first.toNat - 0xE0) * 4096 + middle * 64 + low)), tail')
          | none => (none, tail)
        | [] => (none, tail)
    | [] => (none, rest)
  else if 0xF0 ≤ first && first ≤ 0xF4 then
    match rest with
    | b :: tail =>
      match secondByte first b with
      | none => (none, rest)
      | some upper =>
        match tail with
        | c :: tail' =>
          match continuation c with
          | none => (none, tail)
          | some middle =>
            match tail' with
            | d :: tail'' =>
              match continuation d with
              | some low =>
                (some (Char.ofNat ((first.toNat - 0xF0) * 262144 +
                  upper * 4096 + middle * 64 + low)), tail'')
              | none => (none, tail')
            | [] => (none, tail')
        | [] => (none, tail)
    | [] => (none, rest)
  else (none, rest)

theorem continuation_ofNat : ∀ value < 64,
    continuation (UInt8.ofNat (value + 128)) = some value := by
  decide

theorem secondByte_ofNat : ∀ lead < 21, ∀ value < 64,
    ((lead == 0 && value < 32) || (lead == 13 && 31 < value) || (lead == 16 && value < 16) ||
      (lead == 20 && 15 < value)) = false →
    secondByte (UInt8.ofNat (lead + 224)) (UInt8.ofNat (value + 128)) = some value := by
  decide +kernel

theorem toNat_byte (small : value < 256) : (UInt8.ofNat value).toNat = value := by
  rw [UInt8.toNat_ofNat']
  exact Nat.mod_eq_of_lt small

/-- An encoded character is read back, whatever follows. -/
theorem utf8Step_encode (c : Char) (rest : Bytes) :
    ∃ first more, String.utf8EncodeChar c = first :: more ∧
      utf8Step first (more ++ rest) = (some c, rest) := by
  have valid : c.val.toNat < 0xD800 ∨ 0xDFFF < c.val.toNat ∧ c.val.toNat < 0x110000 := c.valid
  have scalar : Char.ofNat c.val.toNat = c := Char.ofNat_toNat c
  unfold String.utf8EncodeChar
  generalize c.val.toNat = v at valid scalar
  dsimp only
  split
  next one =>
    refine ⟨_, _, rfl, ?_⟩
    have first := @toNat_byte v (by omega)
    unfold utf8Step
    rw [if_pos (by simp [UInt8.lt_iff_toNat_lt]; omega), first, scalar]
    rfl
  next =>
    split
    next two =>
      refine ⟨_, _, rfl, ?_⟩
      have first := @toNat_byte (v / 64 % 32 + 192) (by omega)
      have second := continuation_ofNat (v % 64) (by omega)
      unfold utf8Step
      rw [if_neg (by simp [UInt8.lt_iff_toNat_lt]; omega),
        if_pos (by simp [UInt8.le_iff_toNat_le]; omega)]
      simp only [cons_append, nil_append, second, first]
      have whole : (v / 64 % 32 + 192 - 192) * 64 + v % 64 = v := by omega
      rw [whole, scalar]
    next =>
      split
      next three =>
        refine ⟨_, _, rfl, ?_⟩
        have first := @toNat_byte (v / 4096 % 16 + 224) (by omega)
        have second := secondByte_ofNat (v / 4096 % 16) (by omega) (v / 64 % 64) (by omega)
          (by simp; omega)
        have third := continuation_ofNat (v % 64) (by omega)
        unfold utf8Step
        rw [if_neg (by simp [UInt8.lt_iff_toNat_lt]; omega),
          if_neg (by simp [UInt8.le_iff_toNat_le]; omega),
          if_pos (by simp [UInt8.le_iff_toNat_le]; omega)]
        simp only [cons_append, nil_append, second, third, first]
        have whole : (v / 4096 % 16 + 224 - 224) * 4096 + v / 64 % 64 * 64 + v % 64 = v := by omega
        rw [whole, scalar]
      next =>
        refine ⟨_, _, rfl, ?_⟩
        have first := @toNat_byte (v / 262144 % 8 + 240) (by omega)
        have second := secondByte_ofNat (v / 262144 % 8 + 16) (by omega) (v / 4096 % 64)
          (by omega) (by simp; omega)
        have third := continuation_ofNat (v / 64 % 64) (by omega)
        have fourth := continuation_ofNat (v % 64) (by omega)
        unfold utf8Step
        rw [if_neg (by simp [UInt8.lt_iff_toNat_lt]; omega),
          if_neg (by simp [UInt8.le_iff_toNat_le]; omega),
          if_neg (by simp [UInt8.le_iff_toNat_le]; omega),
          if_pos (by simp [UInt8.le_iff_toNat_le]; omega)]
        simp only [cons_append, nil_append, second, third, fourth, first]
        have whole : (v / 262144 % 8 + 240 - 240) * 262144 + v / 4096 % 64 * 4096 + v / 64 % 64 * 64 +
          v % 64 = v := by omega
        rw [whole, scalar]

def utf8ChunksFrom : Nat → Bytes → List (Option Char)
  | 0, _ => []
  | _ + 1, [] => []
  | fuel + 1, first :: rest =>
    let (decoded, remaining) := utf8Step first rest
    decoded :: utf8ChunksFrom fuel remaining

/-- The scalar values of a byte string in order, `none` standing for each
maximal invalid sequence. Every step consumes a byte, so the length is enough
fuel. -/
def utf8Chunks (bytes : Bytes) : List (Option Char) :=
  utf8ChunksFrom bytes.length bytes

def fromUtf8Lossy (bytes : Bytes) : Text :=
  (utf8Chunks bytes).map fun decoded => decoded.getD '�'

def fromUtf8 (bytes : Bytes) : Option Text :=
  (utf8Chunks bytes).mapM id

theorem utf8ChunksFrom_asBytes (text : Text) : ∀ fuel, text.asBytes.length ≤ fuel →
      utf8ChunksFrom fuel text.asBytes = text.map some := by
  induction text with
  | nil =>
    intro fuel _
    cases fuel <;> rfl
  | cons c text induction =>
    intro fuel enough
    obtain ⟨first, more, encoded, stepped⟩ := utf8Step_encode c (Text.asBytes text)
    have bytes : Text.asBytes (c :: text) = first :: (more ++ Text.asBytes text) := by
      rw [Text.asBytes, flatMap_cons, encoded]
      rfl
    rw [bytes] at enough ⊢
    cases fuel with
    | zero => cases enough
    | succ fuel =>
      rw [utf8ChunksFrom, stepped, map_cons]
      dsimp only
      rw [length_cons, length_append] at enough
      rw [induction fuel (by omega)]

theorem utf8Chunks_asBytes (text : Text) : utf8Chunks text.asBytes = text.map some :=
  utf8ChunksFrom_asBytes text _ (Nat.le_refl _)

theorem fromUtf8_asBytes (text : Text) : fromUtf8 text.asBytes = some text := by
  rw [fromUtf8, utf8Chunks_asBytes, mapM_map]
  exact mapM_pure.trans (congrArg some (map_id text))

theorem fromUtf8Lossy_asBytes (text : Text) : fromUtf8Lossy text.asBytes = text := by
  rw [fromUtf8Lossy, utf8Chunks_asBytes, map_map]
  exact map_id text

/-- Whether the byte is not a continuation byte. -/
def isHead (byte : UInt8) : Bool :=
  !(0x80 ≤ byte && byte ≤ 0xBF)

theorem isHead_of_lt (small : byte < 0x80) : isHead byte = true := by
  simp [isHead, UInt8.le_iff_toNat_le, UInt8.lt_iff_toNat_lt] at small ⊢
  omega

theorem isHead_of_continuation (valid : continuation byte = some value) :
    isHead byte = false := by
  grind [isHead, continuation]

theorem isHead_of_secondByte (valid : secondByte first byte = some value) :
    isHead byte = false := by
  grind [isHead, secondByte, UInt8.le_iff_toNat_le]

theorem countP_utf8Step (decoded : utf8Step first rest = (some c, remaining)) :
    (first :: rest).countP isHead = remaining.countP isHead + 1 := by
  have ascii := @isHead_of_lt first
  have head : 0xC2 ≤ first → isHead first = true := by
    simp [isHead, UInt8.le_iff_toNat_le]
    omega
  revert decoded
  fun_cases utf8Step first rest <;>
    grind [isHead_of_continuation, isHead_of_secondByte, UInt8.le_iff_toNat_le]

theorem countP_asBytes (text : Text) : text.asBytes.countP isHead = text.length := by
  induction text with
  | nil => rfl
  | cons c text induction =>
    obtain ⟨first, more, encoded, stepped⟩ := utf8Step_encode c (Text.asBytes text)
    rw [Text.asBytes, flatMap_cons, encoded, length_cons, ← induction]
    exact countP_utf8Step stepped

theorem length_le_of_chunks {fuel : Nat} {bytes : Bytes} {text : Text}
    (decoded : (utf8ChunksFrom fuel bytes).mapM id = some text) :
    text.length ≤ bytes.countP isHead := by
  fun_induction utf8ChunksFrom fuel bytes generalizing text with
  | case1 => 
    cases decoded
    exact Nat.zero_le _
  | case2 =>
    cases decoded
    exact Nat.zero_le _
  | case3 fuel first rest read remaining stepped induction =>
    rw [mapM_cons] at decoded
    rcases Option.bind_eq_some_iff.mp decoded with ⟨c, read, decodedRest⟩
    rcases Option.bind_eq_some_iff.mp decodedRest with ⟨tail, decodedTail, same⟩
    cases read
    cases same
    rw [countP_utf8Step stepped, length_cons]
    exact Nat.succ_le_succ (induction decodedTail)

theorem length_le_of_fromUtf8 (decoded : fromUtf8 bytes = some text) :
    text.length ≤ bytes.countP isHead :=
  length_le_of_chunks decoded

def hexDigit (nibble : Nat) : Char :=
  if nibble < 10 then Char.ofNat (48 + nibble) else Char.ofNat (87 + nibble)

def hexEncode (bytes : Bytes) : Text :=
  bytes.flatMap fun byte => [hexDigit (byte.toNat / 16), hexDigit (byte.toNat % 16)]

def isHexDigit (c : Char) : Bool :=
  c.isDigit || ('a' ≤ c && c ≤ 'f')

theorem isHexDigit_hexDigit : ∀ nibble < 16, isHexDigit (hexDigit nibble) = true := by
  decide

theorem isHexDigit_of_mem_hexEncode (member : c ∈ hexEncode bytes) : isHexDigit c = true := by
  rcases mem_flatMap.mp member with ⟨byte, -, digit⟩
  have bound : byte.toNat < 256 := byte.toNat_lt
  simp only [mem_cons, not_mem_nil, or_false] at digit
  rcases digit with rfl | rfl
  · exact isHexDigit_hexDigit _ (by omega)
  · exact isHexDigit_hexDigit _ (by omega)

@[simp] theorem length_hexEncode (bytes : Bytes) :
    (hexEncode bytes).length = 2 * bytes.length := by
  induction bytes with
  | nil => rfl
  | cons byte rest induction =>
    have unfolded : hexEncode (byte :: rest) =
        [hexDigit (byte.toNat / 16), hexDigit (byte.toNat % 16)] ++ hexEncode rest := rfl
    rw [unfolded, length_append, induction]
    simp only [length_cons, length_nil]
    omega

example : fromUtf8Lossy [0x68, 0xC3, 0xA9, 0xFF] = "hé�" := by decide

example : hexEncode [0x0A, 0xFF] = "0aff" := by decide

end Bytes

end PertiskProxy
