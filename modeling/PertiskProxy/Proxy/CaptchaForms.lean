import PertiskProxy.Proxy.Plane

/-! The answer to a captcha comes in the query string, which the planes decode each in
their own way (`proxy/mod.rs`, `h3/quinn_server.rs`), and the `next` parameter in it
becomes the `Location` of the redirect. -/

namespace PertiskProxy.Proxy

open FilterChain Http Security Text List Option Bytes

/-- The bytes that a raw value spells: `+` stands for a space, `%XX` for a byte, and any
other byte for itself, also a `%` with fewer than two bytes behind it. -/
inductive Spells : Bytes → Bytes → Prop
  | nil : Spells [] []
  | plus {raw bytes} : Spells raw bytes → Spells (43 :: raw) (32 :: bytes)
  | escape {high low h l raw bytes} : hexValue high = some h → hexValue low = some l →
      Spells raw bytes → Spells (37 :: high :: low :: raw) (UInt8.ofNat (h * 16 + l) :: bytes)
  | keep {byte raw bytes} : byte ≠ 43 → (byte = 37 → raw.length < 2) → Spells raw bytes →
      Spells (byte :: raw) (byte :: bytes)

def HasEscape (raw : Bytes) : Prop :=
  ∃ before high low behind, raw = before ++ 37 :: high :: low :: behind

theorem spells_of_decodeBytes (decoded : decodeBytes raw = some bytes) : Spells raw bytes := by
  fun_induction decodeBytes raw generalizing bytes with
  | case1 =>
    cases decoded
    exact .nil
  | case2 rest induction =>
    rcases map_eq_some_iff.mp decoded with ⟨tail, decodedTail, rfl⟩
    exact .plus (induction decodedTail)
  | case3 high low rest h l isLow isHigh induction =>
    rcases map_eq_some_iff.mp decoded with ⟨tail, decodedTail, rfl⟩
    exact .escape isHigh isLow (induction decodedTail)
  | case4 => cases decoded
  | case5 byte rest unspaced unescaped induction =>
    rcases map_eq_some_iff.mp decoded with ⟨tail, decodedTail, rfl⟩
    refine .keep unspaced ?_ (induction decodedTail)
    rintro rfl
    match rest with
    | [] | [_] => simp
    | high :: low :: behind => exact absurd rfl (unescaped high low behind rfl)

theorem decodeBytes_of_spells (spells : Spells raw bytes) : decodeBytes raw = some bytes := by
  induction spells with
  | nil => rfl
  | plus _ induction => rw [decodeBytes, induction, map_some]
  | escape isHigh isLow _ induction =>
    rw [decodeBytes, isHigh, isLow]
    dsimp only
    rw [induction, map_some]
  | keep unspaced short _ induction =>
    rw [decodeBytes, induction, map_some]
    · exact unspaced
    · rintro high low behind rfl rfl
      exact absurd (short rfl) (by simp)

theorem isHead_of_hexValue (digit : hexValue byte = some value) : isHead byte = true := by
  apply isHead_of_lt
  unfold hexValue at digit
  grind [UInt8.le_iff_toNat_le, UInt8.lt_iff_toNat_lt]

theorem Spells.countP_le (spells : Spells raw bytes) :
    bytes.countP isHead ≤ raw.countP isHead ∧
      (HasEscape raw → bytes.countP isHead < raw.countP isHead) := by
  induction spells with
  | nil => exact ⟨Nat.le_refl _, by rintro ⟨_ | _, _, _, _, same⟩ <;> cases same⟩
  | plus _ induction =>
    have space : isHead 43 = true ∧ isHead 32 = true := by decide
    rw [countP_cons_of_pos space.1, countP_cons_of_pos space.2]
    refine ⟨by omega, ?_⟩
    rintro ⟨_ | ⟨first, before⟩, high, low, behind, same⟩
    · cases same
    · have fewer := induction.2 ⟨before, high, low, behind, (cons.inj same).2⟩
      omega
  | escape isHigh isLow _ induction =>
    have percent : isHead 37 = true := by decide
    rw [countP_cons_of_pos percent, countP_cons_of_pos (isHead_of_hexValue isHigh),
      countP_cons_of_pos (isHead_of_hexValue isLow), countP_cons]
    split <;> exact ⟨by omega, fun _ => by omega⟩
  | keep _ short _ induction =>
    rw [countP_cons, countP_cons]
    refine ⟨by omega, ?_⟩
    rintro ⟨_ | ⟨first, before⟩, high, low, behind, same⟩
    · cases same
      exact absurd (short rfl) (by simp)
    · have fewer := induction.2 ⟨before, high, low, behind, (cons.inj same).2⟩
      omega

theorem Spells.keepAll {kept : Bytes} (plain : ∀ byte ∈ kept, byte ≠ 43 ∧ byte ≠ 37)
    (spells : Spells raw bytes) : Spells (kept ++ raw) (kept ++ bytes) := by
  induction kept with
  | nil => exact spells
  | cons byte kept induction =>
    have first := plain byte mem_cons_self
    exact .keep first.1 (fun percent => absurd percent first.2)
      (induction fun other member => plain other (mem_cons_of_mem _ member))

theorem encode_cases (member : byte ∈ String.utf8EncodeChar c) :
    byte.toNat = c.toNat ∨ 128 ≤ byte.toNat := by
  have code : c.toNat = c.val.toNat := rfl
  unfold String.utf8EncodeChar at member
  grind [UInt8.toNat_ofNat']

theorem plain_encode (plus : c ≠ '+') (percent : c ≠ '%') :
    ∀ byte ∈ String.utf8EncodeChar c, byte ≠ 43 ∧ byte ≠ 37 := by
  intro byte member
  constructor
  · rintro rfl
    rcases encode_cases member with same | large
    · exact plus (Char.toNat_inj.mp same.symm)
    · exact absurd large (by decide)
  · rintro rfl
    rcases encode_cases member with same | large
    · exact percent (Char.toNat_inj.mp same.symm)
    · exact absurd large (by decide)

theorem short_of_unescaped (plain : ¬HasEscape (37 :: raw)) : raw.length < 2 := by
  match raw with
  | [] | [_] => simp
  | high :: low :: behind => exact absurd ⟨[], high, low, behind, rfl⟩ plain

theorem spells_unescaped {value : Text} (plain : ¬HasEscape value.asBytes) :
    Spells value.asBytes (replaceChar '+' " " value).asBytes := by
  induction value with
  | nil => exact .nil
  | cons c value induction =>
    have rest : ¬HasEscape (asBytes value) := by
      rintro ⟨before, high, low, behind, whole⟩
      refine plain ⟨String.utf8EncodeChar c ++ before, high, low, behind, ?_⟩
      rw [asBytes, flatMap_cons, append_assoc, ← whole]
      rfl
    have tail := induction rest
    by_cases plus : c = '+'
    · subst plus
      exact .plus tail
    have kept : asBytes (replaceChar '+' " " (c :: value)) =
        String.utf8EncodeChar c ++ asBytes (replaceChar '+' " " value) := by
      simp [replaceChar, asBytes, plus]
    rw [kept]
    by_cases percent : c = '%'
    · subst percent
      exact .keep (by decide) (fun _ => short_of_unescaped plain) tail
    · exact tail.keepAll (plain_encode plus percent)

/-- The planes read the same value from a query string exactly when the raw value has no
`%` with two bytes behind it, or spells no UTF-8. -/
theorem params_agree_iff (query key : Text) : queryParam query key = h3QueryParam query key ↔
      ∀ value, rawParam query key = some value → HasEscape value.asBytes →
        ∀ bytes, Spells value.asBytes bytes → fromUtf8 bytes = none := by
  unfold queryParam h3QueryParam
  cases rawParam query key with
  | none => simp
  | some value =>
    rw [map_some, map_some, some_inj]
    constructor
    · rintro same _ ⟨⟩ escape bytes spells
      by_contra decodes
      rcases ne_none_iff_exists'.mp decodes with ⟨text, decoded⟩
      rw [urlencodingDecode, decodeBytes_of_spells spells, bind_some, decoded,
        getD_some] at same
      have short := length_le_of_fromUtf8 decoded
      have fewer := spells.countP_le.2 escape
      have long : text.length = value.length := by
        rw [same, replaceChar, length_flatMap]
        have ones : (fun c => (if c == '+' then " ".toList else [c]).length) = fun _ => 1 := by
          funext c
          split <;> rfl
        rw [ones]
        simp
      rw [countP_asBytes] at fewer
      omega
    · intro unspelled
      rw [urlencodingDecode]
      cases decoded : decodeBytes value.asBytes with
      | none => rfl
      | some bytes =>
        have spells := spells_of_decodeBytes decoded
        by_cases escape : HasEscape value.asBytes
        · rw [bind_some, unspelled value rfl escape bytes spells]
          rfl
        · have plain := decodeBytes_of_spells (spells_unescaped escape)
          cases decoded.symm.trans plain
          rw [bind_some, fromUtf8_asBytes]
          rfl

theorem escaped_next_differs :
    queryParam "next=%2Fdocs%3Fid%3D1" "next" = some "/docs?id=1".toList ∧
      h3QueryParam "next=%2Fdocs%3Fid%3D1" "next" = some "%2Fdocs%3Fid%3D1".toList := by
  decide +kernel

def atStart : Moment :=
  Moment.ofTable { routes := ∅, edge := ∅, globals := {} }

def answered (next : String) : RequestHeader where
  method := "GET"
  uri.pathAndQuery := captchaVerifyPath ++ ("?answer=2&next=" ++ next ++ "&token=").toList ++
    (mintChallenge default 0 atStart.draw).token

end PertiskProxy.Proxy
