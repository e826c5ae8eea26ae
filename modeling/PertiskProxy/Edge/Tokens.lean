import Mathlib.Algebra.Group.Nat.Defs
import PertiskProxy.Edge.Policy

/-! The encoder of `edge/mod.rs` takes three bytes at a time, the decoder shifts six bits
at a time into an accumulator. -/

namespace PertiskProxy.Edge

open Text List Option Nat

def urlAlphabet : Text := "ABCDEFGHIJKLMNOPQRSTUVWXYZabcdefghijklmnopqrstuvwxyz0123456789-_"

def stdAlphabet : Text := "ABCDEFGHIJKLMNOPQRSTUVWXYZabcdefghijklmnopqrstuvwxyz0123456789+/"

/-- The character for six bits of a 24-bit group, from the bit `shift` on. -/
def sextet (alphabet : Text) (group shift : Nat) : Char :=
  alphabet.getD (group / 2 ^ shift % 64) 'A'

/-- The encoding loop, with `pad` for what a last group lacks. -/
def b64Encode (alphabet : Text) (pad : Text) : Bytes → Text
  | [] => []
  | [a] =>
    let group := a.toNat * 65536
    [sextet alphabet group 18, sextet alphabet group 12] ++ pad ++ pad
  | [a, b] =>
    let group := a.toNat * 65536 + b.toNat * 256
    [sextet alphabet group 18, sextet alphabet group 12, sextet alphabet group 6] ++ pad
  | a :: b :: c :: rest =>
    let group := a.toNat * 65536 + b.toNat * 256 + c.toNat
    [sextet alphabet group 18, sextet alphabet group 12, sextet alphabet group 6,
      sextet alphabet group 0] ++ b64Encode alphabet pad rest

def b64urlEncode (data : Bytes) : Text := b64Encode urlAlphabet [] data

/-- The standard encoding, with padding. -/
def b64StdEncode (data : Bytes) : Text := b64Encode stdAlphabet ['='] data

theorem byte_sextet (value : Nat) (small : value < 64) :
    String.utf8EncodeChar (urlAlphabet.getD value 'A') =
        [(urlAlphabet.getD value 'A').val.toUInt8] ∧
      (urlAlphabet.getD value 'A').val.toUInt8 ≠ 61 ∧
      b64Value (urlAlphabet.getD value 'A').val.toUInt8 = some value := by
  have checked : (urlAlphabet.zipIdx.all fun letter =>
      String.utf8EncodeChar letter.1 == [letter.1.val.toUInt8] && letter.1.val.toUInt8 != 61 &&
        b64Value letter.1.val.toUInt8 == some letter.2) = true := by
    decide +kernel
  have length : urlAlphabet.length = 64 := by decide +kernel
  obtain ⟨letter, found⟩ : ∃ letter, urlAlphabet[value]? = some letter :=
    ⟨_, getElem?_eq_getElem (length ▸ small)⟩
  rw [getD_eq_getElem?_getD, found, getD_some]
  simpa [and_assoc] using all_eq_true.mp checked (letter, value)
    (mem_zipIdx_iff_getElem?.mpr found)

/-- One character of the alphabet in the decoding loop. -/
theorem decode_sextet (buf bits group shift : Nat) (rest : Text) :
    b64urlDecodeFrom buf bits (asBytes (sextet urlAlphabet group shift :: rest)) =
      let value := group / 2 ^ shift % 64
      if bits + 6 ≥ 8 then
        (b64urlDecodeFrom ((buf * 64 + value) % 1 <<< (bits + 6 - 8)) (bits + 6 - 8)
          rest.asBytes).map ((UInt8.ofNat ((buf * 64 + value) / 1 <<< (bits + 6 - 8))) :: ·)
      else b64urlDecodeFrom (buf * 64 + value) (bits + 6) rest.asBytes := by
  obtain ⟨single, other, read⟩ := byte_sextet (group / 2 ^ shift % 64) (mod_lt _ (by decide))
  unfold sextet
  rw [asBytes, flatMap_cons, single, singleton_append, b64urlDecodeFrom,
    if_neg (by simpa using other), read]
  rfl

theorem ofNat_eq_byte {value : Nat} (byte : UInt8) (same : value = byte.toNat) :
    UInt8.ofNat value = byte := by
  rw [same, UInt8.ofNat_toNat]

theorem decode_padding {pad : Text} (padding : pad = [] ∨ pad = ['=']) (buf bits : Nat) :
    b64urlDecodeFrom buf bits (asBytes pad) = some [] ∧
      b64urlDecodeFrom buf bits (asBytes (pad ++ pad)) = some [] := by
  rcases padding with rfl | rfl <;> exact ⟨rfl, rfl⟩

theorem decode_b64Encode {pad : Text} (padding : pad = [] ∨ pad = ['=']) (data : Bytes) :
    b64urlDecode (b64Encode urlAlphabet pad data) = some data := by
  unfold b64urlDecode
  fun_induction b64Encode urlAlphabet pad data with
  | case1 => rfl
  | case2 a group =>
    have first := a.toNat_lt
    rw [append_assoc]
    simp only [cons_append, nil_append, decode_sextet, reduceAdd, reduceSub,
      reduceLeDiff, ge_iff_le, if_true, if_false, (decode_padding padding _ _).2,
      map_some, group, reducePow, reduceShiftLeft]
    rw [ofNat_eq_byte a (by omega)]
  | case3 a b group =>
    have first := a.toNat_lt
    have second := b.toNat_lt
    simp only [cons_append, nil_append, decode_sextet, reduceAdd, reduceSub,
      reduceLeDiff, ge_iff_le, if_true, if_false, (decode_padding padding _ _).1,
      map_some, group, reducePow, reduceShiftLeft]
    rw [ofNat_eq_byte a (by omega), ofNat_eq_byte b (by omega)]
  | case4 a b c rest group induction =>
    have first := a.toNat_lt
    have second := b.toNat_lt
    have third := c.toNat_lt
    simp only [cons_append, nil_append, decode_sextet, reduceAdd, reduceSub,
      reduceLeDiff, ge_iff_le, if_true, if_false, group, reducePow,
      reduceShiftLeft, mod_one, induction, map_some]
    rw [ofNat_eq_byte a (by omega), ofNat_eq_byte b (by omega), ofNat_eq_byte c (by omega)]

theorem forall_mem_b64Encode {alphabet pad : Text} {Holds : Char → Prop}
    (letters : ∀ value < 64, Holds (alphabet.getD value 'A')) (padding : ∀ c ∈ pad, Holds c)
    (data : Bytes) : ∀ c ∈ b64Encode alphabet pad data, Holds c := by
  have letter : ∀ group shift, Holds (sextet alphabet group shift) :=
    fun group shift => letters _ (mod_lt _ (by decide))
  fun_induction b64Encode alphabet pad data with
  | case1 => simp
  | case2 a group =>
    simp only [forall_mem_append, forall_mem_cons, letter, not_mem_nil,
      IsEmpty.forall_iff, implies_true, true_and]
    exact ⟨padding, padding⟩
  | case3 a b group =>
    simpa only [forall_mem_append, forall_mem_cons, letter, not_mem_nil,
      IsEmpty.forall_iff, implies_true, true_and] using padding
  | case4 a b c rest group induction =>
    simpa only [forall_mem_append, forall_mem_cons, letter, not_mem_nil,
      IsEmpty.forall_iff, implies_true, true_and] using induction

theorem flatMap_b64Encode {source target pad : Text} {swap : Char → Text}
    (letters : ∀ value < 64, swap (source.getD value 'A') = [target.getD value 'A'])
    (padding : pad.flatMap swap = pad) (data : Bytes) :
    (b64Encode source pad data).flatMap swap = b64Encode target pad data := by
  have letter : ∀ group shift, swap (sextet source group shift) = [sextet target group shift] :=
    fun group shift => letters _ (mod_lt _ (by decide))
  fun_induction b64Encode source pad data with
  | case1 => rfl
  | case2 a group | case3 a b group =>
    rw [b64Encode]
    simp only [flatMap_append, flatMap_cons, flatMap_nil, letter, padding]
    rfl
  | case4 a b c rest group induction =>
    rw [b64Encode]
    simp only [flatMap_append, flatMap_cons, flatMap_nil, letter, induction]
    rfl

/-- Replacing the two characters that differ gives the other alphabet. -/
theorem replaceChar_b64StdEncode (data : Bytes) :
    replaceChar '/' "_" (replaceChar '+' "-" (b64StdEncode data)) =
      b64Encode urlAlphabet ['='] data := by
  unfold replaceChar b64StdEncode
  rw [flatMap_assoc]
  exact flatMap_b64Encode (by decide +kernel) (by decide) data

theorem len_b64Encode {alphabet : Text}
    (letters : ∀ value < 64, (alphabet.getD value 'A').utf8Size = 1) (data : Bytes) :
    len (b64Encode alphabet ['='] data) % 4 = 0 := by
  have letter : ∀ group shift, (sextet alphabet group shift).utf8Size = 1 :=
    fun group shift => letters _ (mod_lt _ (by decide))
  have padding : '='.utf8Size = 1 := rfl
  have empty : len [] = 0 := rfl
  fun_induction b64Encode alphabet ['='] data with
  | case1 => rfl
  | case2 a group | case3 a b group =>
    simp [len_cons, letter, padding, empty]
  | case4 a b c rest group induction =>
    simp only [cons_append, nil_append, len_cons, letter]
    omega

theorem b64urlDecodeStd_encode (data : Bytes) :
    b64urlDecodeStd (b64StdEncode data) = some data := by
  have blank : ∀ value < 64, isWhitespace (stdAlphabet.getD value 'A') = false := by
    decide +kernel
  have trimmed : trim (b64StdEncode data) = b64StdEncode data :=
    trimMatches_eq_self (forall_mem_b64Encode blank (by simp [isWhitespace]) data)
  have complete : (4 - len (b64Encode urlAlphabet ['='] data) % 4) % 4 = 0 := by
    rw [len_b64Encode (by decide +kernel)]
  unfold b64urlDecodeStd
  dsimp only
  rw [trimmed, replaceChar_b64StdEncode, complete, replicate_zero, append_nil]
  exact decode_b64Encode (.inr rfl) data

/-- Decoding undoes the encoding, and a header made of a user and a password gives them
back. -/
theorem base64_round_trips : (∀ data, b64urlDecode (b64urlEncode data) = some data) ∧
      ∀ (user : { name : Text // ':' ∉ name }) (password : Text),
        basicCredentials (some ("Basic ".toList ++
          b64StdEncode (asBytes (user.1 ++ ':' :: password)))) = some (user.1, password) := by
  refine ⟨decode_b64Encode (.inl rfl), fun user password => ?_⟩
  generalize encoded : b64StdEncode (asBytes (user.1 ++ ':' :: password)) = code
  have plain : ∀ c ∈ code, isWhitespace c = false :=
    encoded ▸ forall_mem_b64Encode (by decide +kernel) (by simp [isWhitespace]) _
  have decoded := b64urlDecodeStd_encode (asBytes (user.1 ++ ':' :: password))
  rw [encoded] at decoded
  have header : trim ("Basic ".toList ++ code) = "Basic ".toList ++ code := by
    rcases eq_nil_or_concat code with rfl | ⟨init, last, rfl⟩
    · have empty : b64urlDecodeStd [] = some (asBytes []) := by decide
      have same := asBytes_injective (some.inj (decoded.symm.trans empty))
      simp at same
    · have kept := plain last (by simp)
      have first : isWhitespace 'B' = false := by decide
      rw [concat_eq_append]
      exact trimMatches_ends first kept ("asic ".toList ++ init)
  have trimmed : trim code = code := trimMatches_eq_self plain
  have stripped : stripPrefix ("Basic ".toList ++ code) "Basic " = some code :=
    stripPrefix_eq_some.mpr rfl
  have split : splitOnce ':' (user.1 ++ ':' :: password) = some (user.1, password) :=
    splitOnce_eq_some.mpr ⟨rfl, user.2⟩
  unfold basicCredentials
  simp only [bind_eq_bind, bind_some]
  rw [header, stripped, bind_some, trimmed, decoded, bind_some,
    Bytes.fromUtf8_asBytes, bind_some, split]

/-! `issue_jwt` writes the owner into the payload as it is, and `verify_jwt` takes the
first `"exp":` of the payload for the expiry. -/

def expKey : Text := "\"exp\":"

def jwtHeader : Text := b64urlEncode (asBytes "\x7b\"alg\":\"HS256\",\"typ\":\"JWT\"\x7d")

def jwtPayload (owner : Text) (exp : Nat) : Text :=
  "\x7b\"sub\":\"".toList ++ owner ++ "\",".toList ++ expKey ++ ofNat exp ++ "\x7d".toList

def jwtExpiry (now validMinutes : Nat) : Nat :=
  min u64Max (now + max 60 (min u64Max (validMinutes * 60)))

def signHs256 (platform : Platform) (secret message : Text) : Text :=
  b64urlEncode ((platform.hmacSha256 secret.asBytes).tag message.asBytes)

def issueJwt (platform : Platform) (now : Nat) (secret owner : Text) (validMinutes : Nat) :
    Text :=
  let payload := b64urlEncode (asBytes (jwtPayload owner (jwtExpiry now validMinutes)))
  let signing := jwtHeader ++ '.' :: payload
  signing ++ '.' :: signHs256 platform secret signing

/-- The number that follows a key. -/
def numberAt (text : Text) : Option Nat :=
  parseUnsigned u64Max
    ((trimStartMatches isWhitespace text).takeWhile Char.isDigit)

theorem numberAt_append_quote (text rest : Text) :
    numberAt (text ++ '"' :: rest) = numberAt text := by
  have digits : ∀ left : Text, (left ++ '"' :: rest).takeWhile Char.isDigit =
      left.takeWhile Char.isDigit := by
    intro left
    induction left with
    | nil => rfl
    | cons c left induction => simp [takeWhile_cons, induction]
  rw [numberAt, trimStartMatches_append_cons (by decide), digits]
  rfl

theorem numberAt_ofNat {exp : Nat} (fits : exp ≤ u64Max) :
    numberAt (ofNat exp ++ "\x7d".toList) = some exp := by
  have digits : ∀ c ∈ ofNat exp, c.isDigit = true := fun _ => isDigit_of_mem_ofNat
  have start : trimStartMatches isWhitespace (ofNat exp ++ "\x7d".toList) =
      ofNat exp ++ "\x7d".toList := by
    cases number : ofNat exp with
    | nil => exact absurd number (ofNat_ne_nil exp)
    | cons c rest =>
      have blank := isWhitespace_of_isDigit (digits c (number ▸ mem_cons_self))
      exact dropWhile_cons_of_neg (by simp [blank])
  have number : (ofNat exp ++ "\x7d".toList).takeWhile Char.isDigit = ofNat exp := by
    rw [takeWhile_append_of_pos digits]
    exact append_nil _
  rw [numberAt, start, number, parseUnsigned_ofNat fits]

theorem stripPrefix_eq_none {text lead : Text} (absent : ¬ lead <+: text) :
    stripPrefix text lead = none := by
  rw [eq_none_iff_forall_ne_some]
  exact fun rest found => absent ⟨rest, (stripPrefix_eq_some.mp found).symm⟩

/-- No key starts in a text and ends in what `issue_jwt` writes behind the owner. -/
theorem afterFirst_append (text rest : Text) :
    afterFirst expKey (text ++ ("\",".toList ++ expKey ++ rest)) =
      some (((afterFirst expKey text).map (· ++ ("\",".toList ++ expKey ++ rest))).getD rest) := by
  induction text with
  | nil => rfl
  | cons c text induction =>
    have straddles : ¬ expKey <+: c :: text →
        ¬ expKey <+: c :: text ++ ("\",".toList ++ expKey ++ rest) := by
      intro absent starts
      rcases prefix_or_prefix_of_prefix starts (prefix_append (c :: text) _) with
        inside | short
      · exact absent inside
      obtain ⟨more, whole⟩ := short
      rw [← whole, prefix_append_right_inj] at starts
      have ends : more <:+ "exp\":".toList := ⟨text, (cons.inj whole).2⟩
      have differs : ∀ other ∈ "exp\":".toList.tails, other ≠ [] →
          ¬ other.take 2 <+: "\",".toList := by decide
      refine differs more ((mem_tails _ _).mpr ends) ?_ (starts.take 2)
      rintro rfl
      exact absent ⟨[], by simpa using whole.symm⟩
    rw [cons_append, afterFirst, afterFirst, ← cons_append]
    by_cases found : expKey <+: c :: text
    · obtain ⟨tail, whole⟩ := found
      have here : stripPrefix (c :: text) expKey = some tail :=
        stripPrefix_eq_some.mpr whole.symm
      have there : stripPrefix (c :: text ++ ("\",".toList ++ expKey ++ rest)) expKey =
          some (tail ++ ("\",".toList ++ expKey ++ rest)) := by
        rw [stripPrefix_eq_some, ← whole, append_assoc]
      rw [here, there]
      rfl
    · rw [stripPrefix_eq_none found, stripPrefix_eq_none (straddles found), induction]

theorem tokenExpiry_issued (owner : Text) {exp : Nat} (fits : exp ≤ u64Max) :
    tokenExpiry (b64urlEncode (asBytes (jwtPayload owner exp))) =
      match afterFirst expKey ('"' :: owner) with
      | some rest => numberAt rest
      | none => some exp := by
  have lead : afterFirst expKey (jwtPayload owner exp) =
      afterFirst expKey ('"' :: owner ++ ("\",".toList ++ expKey ++
        (ofNat exp ++ "\x7d".toList))) := by
    unfold jwtPayload
    simp only [append_assoc]
    rfl
  unfold tokenExpiry b64urlEncode
  rw [decode_b64Encode (.inl rfl), getD_some, Bytes.fromUtf8_asBytes]
  simp only [bind_eq_bind, bind_some]
  change (afterFirst expKey (jwtPayload owner exp)).bind numberAt = _
  rw [lead, afterFirst_append, bind_some]
  cases afterFirst expKey ('"' :: owner) with
  | none => exact numberAt_ofNat fits
  | some rest => exact numberAt_append_quote rest _

theorem splitOn_b64urlEncode (data : Bytes) :
    (b64urlEncode data).splitOn '.' = [b64urlEncode data] := by
  have letters : ∀ value < 64, urlAlphabet.getD value 'A' ≠ '.' := by decide +kernel
  have plain : ∀ c ∈ b64urlEncode data, c ≠ '.' := forall_mem_b64Encode letters (by simp) data
  exact List.splitOn_eq_singleton fun member => plain '.' member rfl

theorem verifyJwt_issued (platform : Platform) (now later : Nat) (secret owner : Text)
    (validMinutes : Nat) :
    verifyJwt platform later secret (issueJwt platform now secret owner validMinutes) = true ↔
      ∃ exp, tokenExpiry (b64urlEncode (Text.asBytes
        (jwtPayload owner (jwtExpiry now validMinutes)))) = some exp ∧ later ≤ exp := by
  unfold verifyJwt issueJwt
  dsimp only
  generalize Text.asBytes (jwtPayload owner (jwtExpiry now validMinutes)) = payload
  have parts : (jwtHeader ++ '.' :: b64urlEncode payload ++
      '.' :: signHs256 platform secret (jwtHeader ++ '.' :: b64urlEncode payload)).splitOn '.' =
      [jwtHeader, b64urlEncode payload,
        signHs256 platform secret (jwtHeader ++ '.' :: b64urlEncode payload)] := by
    unfold jwtHeader signHs256
    rw [List.splitOn_append_cons_self, List.splitOn_append_cons_self, splitOn_b64urlEncode,
      splitOn_b64urlEncode, splitOn_b64urlEncode]
    rfl
  have signed : ∀ message,
      hmacEq platform secret message (signHs256 platform secret message) = true := by
    intro message
    unfold hmacEq signHs256 b64urlEncode
    rw [decode_b64Encode (.inl rfl)]
    exact beq_self_eq_true _
  rw [parts]
  dsimp only
  rw [signed]
  cases tokenExpiry (b64urlEncode payload) <;> simp

/-- A token is accepted until its expiry exactly when no `"exp":` of the owner gives
another number. -/
theorem issued_token_lifetime_iff (platform : Platform) (secret owner : Text)
    (issued validMinutes : UInt64) : (∀ now : UInt64, issued ≤ now →
      (verifyJwt platform now.toNat secret
        (issueJwt platform issued.toNat secret owner validMinutes.toNat) = true ↔
          now.toNat ≤ issued.toNat + max 60 (60 * validMinutes.toNat))) ↔
      ∀ rest, afterFirst expKey ('"' :: owner) = some rest →
        numberAt rest = some (jwtExpiry issued.toNat validMinutes.toNat) := by
  have fits : jwtExpiry issued.toNat validMinutes.toNat ≤ u64Max := min_le_left _ _
  have bound : ∀ now : UInt64, now.toNat ≤ issued.toNat + max 60 (60 * validMinutes.toNat) ↔
      now.toNat ≤ jwtExpiry issued.toNat validMinutes.toNat := by
    intro now
    have limit : now.toNat ≤ u64Max := le_of_lt_succ now.toNat_lt
    unfold jwtExpiry
    omega
  simp only [verifyJwt_issued, tokenExpiry_issued owner fits, bound]
  cases afterFirst expKey ('"' :: owner) with
  | none => simp
  | some rest =>
    have reached : ∀ exp, issued.toNat ≤ exp → exp ≤ u64Max →
        ∃ now : UInt64, issued ≤ now ∧ now.toNat = exp := by
      intro exp later limit
      have same : (UInt64.ofNat exp).toNat = exp :=
        UInt64.toNat_ofNat_of_lt' (Nat.lt_succ_of_le limit)
      exact ⟨UInt64.ofNat exp, by rwa [UInt64.le_iff_toNat_le, same], same⟩
    have later : issued.toNat ≤ jwtExpiry issued.toNat validMinutes.toNat := by
      have limit := issued.toNat_lt
      unfold jwtExpiry u64Max
      omega
    dsimp only
    constructor
    · intro accepted other found
      cases found
      obtain ⟨now, after, last⟩ := reached _ later fits
      obtain ⟨exp, read, late⟩ := (accepted now after).mpr (Nat.le_of_eq last)
      have limit : exp ≤ u64Max := Text.le_of_parseUnsigned read
      obtain ⟨stop, behind, final⟩ := reached exp (by omega) limit
      have early := (accepted stop behind).mp ⟨exp, read, Nat.le_of_eq final⟩
      rw [read]
      congr 1
      omega
    · intro same now after
      rw [same rest rfl]
      simp

/-- An owner with an expiry of its own, a century after the one that was asked for. -/
theorem owner_sets_expiry :
    let token := issueJwt default 1700000000 "secret" "x\",\"exp\":4800000000,\"y\":\"" 10
    verifyJwt default 4700000000 "secret" token = true ∧
      1700000000 + max 60 (60 * 10) < 4700000000 := by
  refine ⟨(verifyJwt_issued ..).mpr ⟨4800000000, ?_, by decide⟩, by decide⟩
  have fits : jwtExpiry 1700000000 10 ≤ u64Max := min_le_left _ _
  rw [tokenExpiry_issued _ fits]
  decide +kernel

end PertiskProxy.Edge
