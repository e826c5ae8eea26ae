import PertiskProxy.Foundation

/-! The textual forms of `std::net::IpAddr`: the parser behind `str::parse`, the `Display`
output, and the address classes the proxy asks for. -/

namespace PertiskProxy.Net

structure Ipv4Addr where
  a : UInt8
  b : UInt8
  c : UInt8
  d : UInt8
deriving DecidableEq

structure Ipv6Addr where
  segments : List UInt16
  length_eq : segments.length = 8
deriving DecidableEq

inductive IpAddr where
  | v4 (address : Ipv4Addr)
  | v6 (address : Ipv6Addr)
deriving DecidableEq

def Ipv4Addr.toText (address : Ipv4Addr) : Text :=
  Text.ofNat address.a.toNat ++ '.' :: Text.ofNat address.b.toNat ++
    '.' :: Text.ofNat address.c.toNat ++ '.' :: Text.ofNat address.d.toNat

def Ipv6Addr.toIpv4Mapped (address : Ipv6Addr) : Option Ipv4Addr :=
  match address.segments with
  | [0, 0, 0, 0, 0, 0xFFFF, high, low] =>
    some ⟨(high >>> 8).toUInt8, high.toUInt8, (low >>> 8).toUInt8, low.toUInt8⟩
  | _ => none

structure Span where
  start : Nat
  len : Nat

def scanZeros : List UInt16 → Nat → Span → Span → Span
  | [], _, _, longest => longest
  | segment :: rest, index, current, longest =>
    if segment = 0 then
      let start := if current.len = 0 then index else current.start
      let grown : Span := ⟨start, current.len + 1⟩
      scanZeros rest (index + 1) grown (if grown.len > longest.len then grown else longest)
    else scanZeros rest (index + 1) ⟨0, 0⟩ longest

def longestZeros (segments : List UInt16) : Span :=
  scanZeros segments 0 ⟨0, 0⟩ ⟨0, 0⟩

def joinSegments (segments : List UInt16) : Text :=
  [':'].intercalate (segments.map fun segment => Nat.toDigits 16 segment.toNat)

def Ipv6Addr.toText (address : Ipv6Addr) : Text :=
  match address.toIpv4Mapped with
  | some mapped => "::ffff:".toList ++ mapped.toText
  | none =>
    let zeros := longestZeros address.segments
    if zeros.len > 1 then
      joinSegments (address.segments.take zeros.start) ++ "::".toList ++
        joinSegments (address.segments.drop (zeros.start + zeros.len))
    else joinSegments address.segments

def IpAddr.toText : IpAddr → Text
  | .v4 address | .v6 address => address.toText

def toDigit (radix : Nat) (c : Char) : Option Nat :=
  let value :=
    if c.isDigit then c.toNat - 48
    else if 'a' ≤ c ∧ c ≤ 'z' then c.toNat - 87
    else if 'A' ≤ c ∧ c ≤ 'Z' then c.toNat - 55
    else radix
  if value < radix then some value else none

/-- Read all leading digits; too many of them, none at all, or a forbidden
leading zero make the read fail. -/
def readNumber (radix maxDigits bound : Nat) (allowZeroPrefix : Bool)
    (text : Text) : Option (Nat × Text) :=
  let digits := text.takeWhile fun c => (toDigit radix c).isSome
  let rest := text.dropWhile fun c => (toDigit radix c).isSome
  let value := digits.foldl (fun sofar c => radix * sofar + (toDigit radix c).getD 0) 0
  if digits.isEmpty || digits.length > maxDigits then none
  else if !allowZeroPrefix && digits.head? == some '0' && digits.length > 1 then none
  else if value < bound then some (value, rest) else none

def readGivenChar (c : Char) : Text → Option Text
  | [] => none
  | head :: rest => if head = c then some rest else none

def readSeparator (separator : Char) (index : Nat)
    (inner : Text → Option (α × Text)) (text : Text) : Option (α × Text) :=
  if index = 0 then inner text
  else (readGivenChar separator text).bind inner

def readOctet (index : Nat) (text : Text) : Option (UInt8 × Text) :=
  (readSeparator '.' index (readNumber 10 3 256 false) text).map fun (value, rest) =>
    (UInt8.ofNat value, rest)

def readIpv4Addr (text : Text) : Option (Ipv4Addr × Text) := do
  let (a, text) ← readOctet 0 text
  let (b, text) ← readOctet 1 text
  let (c, text) ← readOctet 2 text
  let (d, text) ← readOctet 3 text
  some (⟨a, b, c, d⟩, text)

/-- Read up to `limit` groups, of which the last two may be written as an
embedded IPv4 address. -/
def readGroups : Nat → Nat → Text → List UInt16 × Bool × Text
  | 0, _, text => ([], false, text)
  | limit + 1, index, text =>
    let embedded :=
      if limit ≥ 1 then readSeparator ':' index readIpv4Addr text else none
    match embedded with
    | some (v4, rest) =>
      ([v4.a.toUInt16 * 256 + v4.b.toUInt16, v4.c.toUInt16 * 256 + v4.d.toUInt16],
        true, rest)
    | none =>
      match readSeparator ':' index (readNumber 16 4 65536 true) text with
      | some (group, rest) =>
        let (groups, ipv4, remaining) := readGroups limit (index + 1) rest
        (UInt16.ofNat group :: groups, ipv4, remaining)
      | none => ([], false, text)

def ipv6OfSegments (segments : List UInt16) : Option Ipv6Addr :=
  if length : segments.length = 8 then some ⟨segments, length⟩ else none

def readIpv6Addr (text : Text) : Option (Ipv6Addr × Text) :=
  let (head, headIpv4, rest) := readGroups 8 0 text
  if head.length = 8 then (ipv6OfSegments head).map fun address => (address, rest)
  else if headIpv4 then none
  else do
    let rest ← readGivenChar ':' rest
    let rest ← readGivenChar ':' rest
    let (tail, _, rest) := readGroups (8 - (head.length + 1)) 0 rest
    let zeros := List.replicate (8 - head.length - tail.length) 0
    let address ← ipv6OfSegments (head ++ zeros ++ tail)
    some (address, rest)

def IpAddr.parse (text : Text) : Option IpAddr :=
  let read := match readIpv4Addr text with
    | some (address, rest) => some (IpAddr.v4 address, rest)
    | none => (readIpv6Addr text).map fun (address, rest) => (IpAddr.v6 address, rest)
  match read with
  | some (address, []) => some address
  | _ => none

def Ipv4Addr.isPublicRoutable (address : Ipv4Addr) : Bool :=
  let isPrivate := address.a == 10 || (address.a == 172 && address.b &&& 0xF0 == 16) ||
    (address.a == 192 && address.b == 168)
  let isLoopback := address.a == 127
  let isLinkLocal := address.a == 169 && address.b == 254
  let isUnspecified := address == ⟨0, 0, 0, 0⟩
  let isBroadcast := address == ⟨255, 255, 255, 255⟩
  !(isPrivate || isLoopback || isLinkLocal || isUnspecified || isBroadcast)

def Ipv6Addr.isPublicRoutable (address : Ipv6Addr) : Bool :=
  let first := address.segments.headD 0
  let isLoopback := address.segments == [0, 0, 0, 0, 0, 0, 0, 1]
  let isUniqueLocal := first &&& 0xFE00 == 0xFC00
  let isUnicastLinkLocal := first &&& 0xFFC0 == 0xFE80
  let isUnspecified := address.segments == [0, 0, 0, 0, 0, 0, 0, 0]
  !(isLoopback || isUniqueLocal || isUnicastLinkLocal || isUnspecified)

example : (IpAddr.parse "203.0.113.7").map IpAddr.toText =
    some "203.0.113.7" := by decide

example : (IpAddr.parse "2001:DB8:0:0::1").map IpAddr.toText =
    some "2001:db8::1" := by decide

example : IpAddr.parse "1.2.3.04" = none := by decide

theorem Ipv4Addr.mem_toText {address : Ipv4Addr} {c : Char} (member : c ∈ address.toText) :
    c.isDigit = true ∨ c = '.' := by
  have digit {value : Nat} : c ∈ Text.ofNat value → c.isDigit = true ∨ c = '.' :=
    fun inside => .inl (Text.isDigit_of_mem_ofNat inside)
  simp only [toText, List.mem_append, List.mem_cons] at member
  rcases member with ((inside | dot | inside) | dot | inside) | dot | inside
  all_goals first | exact digit inside | exact .inr dot

theorem colon_mem_joinSegments (several : 1 < segments.length) :
    ':' ∈ joinSegments segments := by
  match segments with
  | first :: second :: rest => simp [joinSegments, List.intercalate]

theorem Ipv6Addr.colon_mem_toText (address : Ipv6Addr) : ':' ∈ address.toText := by
  unfold toText
  split
  · simp
  · dsimp only
    split
    · simp
    · exact colon_mem_joinSegments (by rw [address.length_eq]; decide)

theorem IpAddr.toText_shape (address : IpAddr) :
    (∀ c ∈ address.toText, c.isDigit = true ∨ c = '.') ∨ ':' ∈ address.toText := by
  cases address with
  | v4 address => exact .inl fun _ => Ipv4Addr.mem_toText
  | v6 address => exact .inr address.colon_mem_toText

/-! Every address is parsed from its own text. -/

open Option Nat

theorem toDigit_digitChar_ten : ∀ digit < 10, toDigit 10 digit.digitChar = some digit := by
  decide

theorem toDigit_digitChar_sixteen : ∀ digit < 16, toDigit 16 digit.digitChar = some digit := by
  decide

def IsRadix (radix : Nat) : Prop := radix = 10 ∨ radix = 16

section

variable (base : IsRadix radix)

include base

theorem IsRadix.one_lt : 1 < radix := by
  rcases base with rfl | rfl <;> decide

theorem toDigit_digitChar (small : digit < radix) :
    toDigit radix digit.digitChar = some digit := by
  rcases base with rfl | rfl
  · exact toDigit_digitChar_ten digit small
  · exact toDigit_digitChar_sixteen digit small

theorem digitChar_of_mem_toDigits (value : Nat)
    (member : c ∈ toDigits radix value) : ∃ digit < radix, c = digit.digitChar := by
  have positive : 0 < radix := Nat.lt_trans Nat.zero_lt_one base.one_lt
  induction value using Nat.strongRecOn with
  | _ value induction =>
    rw [toDigits_eq_if base.one_lt] at member
    split at member
    · next small => exact ⟨value, small, by simpa using member⟩
    rcases List.mem_append.mp member with earlier | last
    · have shrinks : value / radix < value :=
        div_lt_self (by omega) base.one_lt
      exact induction _ shrinks earlier
    · exact ⟨value % radix, mod_lt _ positive, by simpa using last⟩

theorem foldl_toDigits (value : Nat) :
    (toDigits radix value).foldl
      (fun sofar c => radix * sofar + (toDigit radix c).getD 0) 0 = value := by
  have positive : 0 < radix := Nat.lt_trans Nat.zero_lt_one base.one_lt
  induction value using Nat.strongRecOn with
  | _ value induction =>
    rw [toDigits_eq_if base.one_lt]
    split
    · next small => simp [toDigit_digitChar base small]
    · next large =>
      have shrinks : value / radix < value := div_lt_self (by omega) base.one_lt
      rw [List.foldl_append, induction _ shrinks]
      simp [toDigit_digitChar base (mod_lt value positive), div_add_mod]

theorem head_toDigits (positive : 0 < value) : (toDigits radix value).head? ≠ some '0' := by
  induction value using Nat.strongRecOn with
  | _ value induction =>
    rw [toDigits_eq_if base.one_lt]
    split
    · next small =>
      have digits : ∀ digit < 16, 0 < digit → digit.digitChar ≠ '0' := by decide
      have bounded : value < 16 := by
        rcases base with rfl | rfl
        · exact lt_trans small (by decide)
        · exact small
      simpa using digits value bounded positive
    · next large =>
      have shrinks : value / radix < value := div_lt_self positive base.one_lt
      have left : 0 < value / radix := div_pos (by omega) (by have := base.one_lt; omega)
      rw [List.head?_append_of_ne_nil _ toDigits_ne_nil]
      exact induction _ shrinks left

theorem length_toDigits_le (digits : Nat) :
    ∀ value, value < Nat.pow radix (digits + 1) →
      (toDigits radix value).length ≤ digits + 1 := by
  have positive : 0 < radix := Nat.lt_trans Nat.zero_lt_one base.one_lt
  induction digits with
  | zero =>
    intro value bound
    have small : value < radix := by simpa using bound
    rw [toDigits_of_lt_base small]
    exact le_refl 1
  | succ digits induction =>
    intro value bound
    rw [toDigits_eq_if base.one_lt]
    split
    · exact le_add_left 1 _
    · have fewer : value / radix < Nat.pow radix (digits + 1) :=
        (div_lt_iff_lt_mul positive).mpr bound
      have shorter := induction (value / radix) fewer
      rw [List.length_append]
      exact succ_le_succ shorter

end

def Stops (radix : Nat) (text : Text) : Prop :=
  ∀ c ∈ text.head?, toDigit radix c = none

theorem readNumber_toDigits (base : radix = 10 ∨ radix = 16)
    (short : value < Nat.pow radix (width + 1)) (small : value < bound)
    (stops : Stops radix rest) :
    readNumber radix (width + 1) bound allowZeroPrefix (toDigits radix value ++ rest) =
      some (value, rest) := by
  have read : ∀ c ∈ toDigits radix value, (toDigit radix c).isSome = true := by
    intro c member
    rcases digitChar_of_mem_toDigits base value member with ⟨digit, fits, rfl⟩
    simp [toDigit_digitChar base fits]
  have unread : rest.takeWhile (fun c => (toDigit radix c).isSome) = [] ∧
      rest.dropWhile (fun c => (toDigit radix c).isSome) = rest := by
    cases rest with
    | nil => exact ⟨rfl, rfl⟩
    | cons c rest => simp [stops c rfl]
  have taken : (toDigits radix value ++ rest).takeWhile
      (fun c => (toDigit radix c).isSome) = toDigits radix value := by
    rw [List.takeWhile_append_of_pos read, unread.1, List.append_nil]
  have dropped : (toDigits radix value ++ rest).dropWhile
      (fun c => (toDigit radix c).isSome) = rest := by
    rw [List.dropWhile_append_of_pos read, unread.2]
  have some : (toDigits radix value).isEmpty = false :=
    List.isEmpty_eq_false_iff.mpr toDigits_ne_nil
  have fits : ¬(toDigits radix value).length > width + 1 :=
    not_lt.mpr (length_toDigits_le base width value short)
  have canonical : ¬((toDigits radix value).head? = Option.some '0' ∧
      (toDigits radix value).length > 1) := by
    rintro ⟨zero, several⟩
    rcases Nat.eq_zero_or_pos value with rfl | positive
    · rw [toDigits_of_lt_base (by rcases base with rfl | rfl <;> decide)] at several
      simp at several
    · exact head_toDigits base positive zero
  simp only [readNumber, taken, dropped, foldl_toDigits base, some, fits, decide_false,
    Bool.or_self, Bool.false_eq_true, if_false]
  rw [if_neg, if_pos small]
  simp only [Bool.and_eq_true, beq_iff_eq, decide_eq_true_eq]
  exact fun zero => canonical ⟨zero.1.2, zero.2⟩

/-! ## IPv4 -/

theorem readNumber_octet (octet : UInt8) (stops : Stops 10 rest) :
    readNumber 10 3 256 false (Text.ofNat octet.toNat ++ rest) = some (octet.toNat, rest) :=
  readNumber_toDigits (.inl rfl) (lt_trans octet.toNat_lt (by decide)) octet.toNat_lt stops

theorem readOctet_zero (octet : UInt8) (stops : Stops 10 rest) :
    readOctet 0 (Text.ofNat octet.toNat ++ rest) = some (octet, rest) := by
  simp [readOctet, readSeparator, readNumber_octet octet stops]

theorem readOctet_succ (index : Nat) (octet : UInt8) (stops : Stops 10 rest) :
    readOctet (index + 1) ('.' :: (Text.ofNat octet.toNat ++ rest)) = some (octet, rest) := by
  simp [readOctet, readSeparator, readGivenChar, readNumber_octet octet stops]

theorem readIpv4Addr_toText (address : Ipv4Addr) {rest : Text} (stops : Stops 10 rest) :
    readIpv4Addr (address.toText ++ rest) = some (address, rest) := by
  have dot : ∀ text, Stops 10 ('.' :: text) := by
    intro text c first
    cases first
    decide
  have split : address.toText ++ rest = Text.ofNat address.a.toNat ++ '.' ::
      (Text.ofNat address.b.toNat ++ '.' :: (Text.ofNat address.c.toNat ++
        '.' :: (Text.ofNat address.d.toNat ++ rest))) := by
    simp [Ipv4Addr.toText]
  rw [split, readIpv4Addr, readOctet_zero _ (dot _)]
  simp only [bind_eq_bind, bind_some]
  rw [readOctet_succ 0 _ (dot _)]
  simp only [bind_some]
  rw [readOctet_succ 1 _ (dot _)]
  simp only [bind_some]
  rw [readOctet_succ 2 _ stops]
  rfl

theorem readIpv4Addr_word {word rest : Text} (dotless : '.' ∉ word)
    (ends : ∀ c ∈ rest.head?, c = ':') : readIpv4Addr (word ++ rest) = none := by
  -- What follows the leading digits is never a dot.
  have undotted : ∀ left, '.' ∉ left →
      readGivenChar '.' ((left ++ rest).dropWhile fun c => (toDigit 10 c).isSome) = none := by
    intro left
    induction left with
    | nil =>
      intro _
      cases rest with
      | nil => rfl
      | cons c rest =>
        cases ends c rfl
        rfl
    | cons c left induction =>
      intro absent
      rw [List.mem_cons, not_or] at absent
      rw [List.cons_append, List.dropWhile_cons]
      split
      · exact induction absent.2
      · simp [readGivenChar, Ne.symm absent.1]
  cases octet : readOctet 0 (word ++ rest) with
  | none => simp [readIpv4Addr, octet]
  | some read =>
    have remaining : readGivenChar '.' read.2 = none := by
      rcases map_eq_some_iff.mp octet with ⟨number, parsed, rfl⟩
      have after : number.2 = (word ++ rest).dropWhile fun c => (toDigit 10 c).isSome := by
        simp only [readSeparator, if_true, readNumber] at parsed
        split at parsed
        · cases parsed
        split at parsed
        · cases parsed
        · split at parsed
          · cases parsed
            rfl
          · cases parsed
      rw [after]
      exact undotted word dotless
    have second : readOctet 1 read.2 = none := by
      simp [readOctet, readSeparator, remaining]
    simp [readIpv4Addr, octet, second]

/-! ## Groups -/

def groupText (group : UInt16) : Text :=
  Nat.toDigits 16 group.toNat

def lead (index : Nat) : Text :=
  if index = 0 then [] else [':']

def groupsText : Nat → List UInt16 → Text
  | _, [] => []
  | index, group :: groups => lead index ++ groupText group ++ groupsText (index + 1) groups

theorem joinSegments_eq : ∀ groups : List UInt16, joinSegments groups = groupsText 0 groups
  | [] => rfl
  | first :: rest => by
    have later : ∀ (index : Nat) (group : UInt16) (groups : List UInt16),
        groupsText (index + 1) (group :: groups) = ':' :: joinSegments (group :: groups) := by
      intro index group groups
      induction groups generalizing index group with
      | nil => simp [groupsText, lead, groupText, joinSegments]
      | cons next groups induction =>
        rw [groupsText, induction]
        simp [lead, groupText, joinSegments, List.intercalate]
    cases rest with
    | nil => simp [groupsText, lead, groupText, joinSegments]
    | cons next rest =>
      rw [groupsText, later]
      simp [lead, groupText, joinSegments, List.intercalate]

theorem readSeparator_lead (index : Nat) (inner : Text → Option (α × Text))
    (text : Text) : readSeparator ':' index inner (lead index ++ text) = inner text := by
  by_cases first : index = 0 <;> simp [readSeparator, lead, first, readGivenChar]

theorem readGroups_group (limit index : Nat) (group : UInt16) {after : Text}
    (ends : ∀ c ∈ after.head?, c = ':') :
    readGroups (limit + 1) index (lead index ++ (groupText group ++ after)) =
      (group :: (readGroups limit (index + 1) after).1,
        (readGroups limit (index + 1) after).2) := by
  have dotless : '.' ∉ groupText group := by
    intro dot
    rcases digitChar_of_mem_toDigits (.inr rfl) _ dot with ⟨digit, small, equal⟩
    revert equal
    exact (by decide : ∀ digit < 16, '.' ≠ digitChar digit) digit small
  have stops : Stops 16 after := by
    intro c first
    cases ends c first
    decide
  have number : readNumber 16 4 65536 true (groupText group ++ after) =
      some (group.toNat, after) :=
    readNumber_toDigits (.inr rfl) group.toNat_lt group.toNat_lt stops
  simp [readGroups, readSeparator_lead, readIpv4Addr_word dotless ends, ite_self, number,
    UInt16.ofNat_toNat]

theorem readGroups_nil : ∀ limit index : Nat, readGroups limit index [] = ([], false, [])
  | 0, _ => rfl
  | limit + 1, index => by
    have unread : ∀ {α : Type} (inner : Text → Option (α × Text)), inner [] = none →
        readSeparator ':' index inner [] = none := by
      intro α inner fails
      by_cases first : index = 0 <;> simp [readSeparator, first, fails, readGivenChar]
    simp [readGroups, unread readIpv4Addr rfl, unread (readNumber 16 4 65536 true) rfl, ite_self]

theorem readGroups_colons (text : Text) : ∀ limit index : Nat,
    readGroups limit index (':' :: ':' :: text) = ([], false, ':' :: ':' :: text)
  | 0, _ => rfl
  | limit + 1, index => by
    have noAddress : ∀ rest, readIpv4Addr (':' :: rest) = none :=
      fun rest => @readIpv4Addr_word [] (':' :: rest) List.not_mem_nil (by simp)
    have noNumber : ∀ rest, readNumber 16 4 65536 true (':' :: rest) = none := fun _ => rfl
    have unread : ∀ {α : Type} (inner : Text → Option (α × Text)),
        (∀ rest, inner (':' :: rest) = none) →
          readSeparator ':' index inner (':' :: ':' :: text) = none := by
      intro α inner fails
      by_cases first : index = 0 <;> simp [readSeparator, first, fails, readGivenChar]
    simp [readGroups, unread readIpv4Addr noAddress,
      unread (readNumber 16 4 65536 true) noNumber, ite_self]

theorem readGroups_groupsText (ends : ∀ c ∈ rest.head?, c = ':')
    (done : ∀ limit index, readGroups limit index rest = ([], false, rest))
    (groups : List UInt16) : ∀ limit index, groups.length ≤ limit →
      readGroups limit index (groupsText index groups ++ rest) = (groups, false, rest) := by
  induction groups with
  | nil => exact fun limit index _ => done limit index
  | cons group groups induction =>
    intro limit index fits
    cases limit with
    | zero => simp at fits
    | succ limit =>
      have read := induction limit (index + 1) (le_of_succ_le_succ fits)
      have separated : ∀ c ∈ (groupsText (index + 1) groups ++ rest).head?, c = ':' := by
        cases groups with
        | nil => exact ends
        | cons next groups => simp [groupsText, lead]
      rw [groupsText, List.append_assoc, List.append_assoc,
        readGroups_group limit index group separated, read]

/-! ## The longest run of zeros -/

structure ZeroRun (segments : List UInt16) (span : Span) : Prop where
  within : span.start + span.len ≤ segments.length
  zero : ∀ offset < span.len, segments[span.start + offset]? = some 0

theorem ZeroRun.grow (run : ZeroRun segments current)
    (touches : 0 < current.len → current.start + current.len = index)
    (here : segments[index]? = some 0) :
    ∃ start, (if current.len = 0 then index else current.start) = start ∧
      ZeroRun segments ⟨start, current.len + 1⟩ ∧ start + (current.len + 1) = index + 1 := by
  have room : index < segments.length := (List.getElem?_eq_some_iff.mp here).1
  by_cases empty : current.len = 0
  · refine ⟨index, if_pos empty, ⟨?_, ?_⟩, by rw [empty]⟩
    · rw [empty]
      exact room
    · intro offset inside
      rw [empty] at inside
      rw [lt_one_iff.mp inside]
      exact here
  refine ⟨current.start, if_neg empty, ⟨?_, ?_⟩, by omega⟩
  · change current.start + (current.len + 1) ≤ _
    omega
  intro offset inside
  by_cases earlier : offset < current.len
  · exact run.zero offset earlier
  · have bound : offset < current.len + 1 := inside
    have last : current.start + offset = index := by omega
    rw [last]
    exact here

theorem scanZeros_zeroRun (done rest : List UInt16) (run : ZeroRun (done ++ rest) current)
    (touches : 0 < current.len → current.start + current.len = done.length)
    (best : ZeroRun (done ++ rest) longest) :
    ZeroRun (done ++ rest) (scanZeros rest done.length current longest) := by
  induction rest generalizing done current longest with
  | nil => exact best
  | cons segment rest induction =>
    have shifted : done ++ segment :: rest = (done ++ [segment]) ++ rest := by simp
    have counted : done.length + 1 = (done ++ [segment]).length := by simp
    rw [scanZeros]
    split
    · next zero =>
      rcases run.grow touches (show (done ++ segment :: rest)[done.length]? = some 0 by
        simp [zero]) with ⟨start, started, grown, ended⟩
      rw [started]
      rw [counted] at ended ⊢
      rw [shifted] at grown best ⊢
      apply induction (done ++ [segment]) grown (fun _ => ended)
      split
      · exact grown
      · exact best
    have none : ZeroRun (done ++ segment :: rest) ⟨0, 0⟩ :=
      ⟨zero_le _, fun _ inside => absurd inside (not_lt_zero _)⟩
    rw [counted]
    rw [shifted] at none best ⊢
    exact induction (done ++ [segment]) none
      (fun positive => absurd positive (lt_irrefl 0)) best

theorem longestZeros_zeroRun (segments : List UInt16) :
    ZeroRun segments (longestZeros segments) := by
  have none : ZeroRun ([] ++ segments) ⟨0, 0⟩ :=
    ⟨zero_le _, fun _ inside => absurd inside (not_lt_zero _)⟩
  exact scanZeros_zeroRun [] segments none (fun positive => absurd positive (lt_irrefl 0)) none

theorem ZeroRun.fill (run : ZeroRun segments span) :
    segments.take span.start ++ List.replicate span.len 0 ++
      segments.drop (span.start + span.len) = segments := by
  have zeros : (segments.drop span.start).take span.len = List.replicate span.len 0 := by
    apply List.ext_getElem?
    intro offset
    rw [List.getElem?_take, List.getElem?_replicate, List.getElem?_drop]
    split
    · next inside => exact run.zero offset inside
    · rfl
  rw [← zeros, List.append_assoc, ← List.drop_drop, List.take_append_drop, List.take_append_drop]

/-! ## IPv6 -/

theorem segment_halves (segment : UInt16) :
    (segment >>> 8).toUInt8.toUInt16 * 256 + segment.toUInt8.toUInt16 = segment := by
  apply UInt16.toNat_inj.mp
  have bound : segment.toNat < 65536 := segment.toNat_lt
  simp only [UInt16.toNat_add, UInt16.toNat_mul, UInt8.toNat_toUInt16, UInt16.toNat_toUInt8,
    UInt16.toNat_shiftRight]
  simp [shiftRight_eq_div_pow]
  omega

theorem segments_of_mapped {address : Ipv6Addr} {mapped : Ipv4Addr}
    (found : address.toIpv4Mapped = some mapped) :
    address.segments = [0, 0, 0, 0, 0, 0xFFFF, mapped.a.toUInt16 * 256 + mapped.b.toUInt16,
      mapped.c.toUInt16 * 256 + mapped.d.toUInt16] := by
  unfold Ipv6Addr.toIpv4Mapped at found
  split at found
  · next high low shape =>
    cases found
    rw [shape, segment_halves, segment_halves]
  · cases found

theorem ipv6OfSegments_segments (same : segments = address.segments) :
    ipv6OfSegments segments = some address := by
  subst same
  simp [ipv6OfSegments, address.length_eq]

theorem readIpv6Addr_compressed {address : Ipv6Addr} {head tail : List UInt16}
    {tailText : Text} {ipv4 : Bool} (short : head.length < 8)
    (read : readGroups (8 - (head.length + 1)) 0 tailText = (tail, ipv4, []))
    (fills : head ++ List.replicate (8 - head.length - tail.length) 0 ++ tail =
      address.segments) :
    readIpv6Addr (joinSegments head ++ ':' :: ':' :: tailText) = some (address, []) := by
  have first : readGroups 8 0 (joinSegments head ++ ':' :: ':' :: tailText) =
      (head, false, ':' :: ':' :: tailText) := by
    rw [joinSegments_eq]
    exact readGroups_groupsText (by simp) (readGroups_colons tailText) head 8 0
      (le_of_lt short)
  have fewer : head.length ≠ 8 := Nat.ne_of_lt short
  simp only [readIpv6Addr, first, if_neg fewer, Bool.false_eq_true, if_false, readGivenChar,
    if_true, bind_eq_bind, bind_some, read, ipv6OfSegments_segments fills]

theorem readIpv6Addr_toText (address : Ipv6Addr) :
    readIpv6Addr address.toText = some (address, []) := by
  have eight := address.length_eq
  unfold Ipv6Addr.toText
  split
  · next mapped found =>
    have embedded : readGroups 6 1 (':' :: mapped.toText) =
        ([mapped.a.toUInt16 * 256 + mapped.b.toUInt16,
          mapped.c.toUInt16 * 256 + mapped.d.toUInt16], true, []) := by
      have octets := @readIpv4Addr_toText mapped [] (by simp [Stops])
      rw [List.append_nil] at octets
      simp [readGroups, readSeparator, readGivenChar, octets]
    have read := @readGroups_group 6 0 0xFFFF (':' :: mapped.toText) (by simp)
    rw [embedded] at read
    exact @readIpv6Addr_compressed address [] _ _ _ (by decide) read
      (segments_of_mapped found).symm
  dsimp only
  split
  · next long =>
    have run := longestZeros_zeroRun address.segments
    generalize longestZeros address.segments = zeros at long run
    have within : zeros.start + zeros.len ≤ 8 := eight ▸ run.within
    have headLength : (address.segments.take zeros.start).length = zeros.start := by
      rw [List.length_take, eight]
      omega
    have tailLength : (address.segments.drop (zeros.start + zeros.len)).length =
        8 - (zeros.start + zeros.len) := by
      rw [List.length_drop, eight]
    have read := readGroups_groupsText (by simp) readGroups_nil
      (address.segments.drop (zeros.start + zeros.len)) (8 - (zeros.start + 1)) 0
      (by rw [tailLength]; omega)
    rw [List.append_nil, ← joinSegments_eq] at read
    rw [List.append_assoc]
    refine readIpv6Addr_compressed (by rw [headLength]; omega) (by rwa [headLength]) ?_
    have count : 8 - zeros.start - (8 - (zeros.start + zeros.len)) = zeros.len := by omega
    rw [headLength, tailLength, count]
    exact run.fill
  · have read := readGroups_groupsText (by simp) readGroups_nil address.segments 8 0
      (le_of_eq eight)
    rw [List.append_nil, ← joinSegments_eq] at read
    simp [readIpv6Addr, read, eight, ipv6OfSegments_segments rfl]

/-! ## Addresses -/

def IsAddressChar (c : Char) : Prop :=
  c = '.' ∨ c = ':' ∨ ∃ digit < 16, c = Nat.digitChar digit

theorem mem_groupsText (groups : List UInt16) :
    ∀ index, c ∈ groupsText index groups → c = ':' ∨ ∃ digit < 16, c = digitChar digit := by
  induction groups with
  | nil =>
    intro index member
    cases member
  | cons group groups induction =>
    intro index member
    rw [groupsText, List.append_assoc, List.mem_append, List.mem_append] at member
    rcases member with colon | digit | later
    · unfold lead at colon
      split at colon
      · cases colon
      · exact .inl (List.mem_singleton.mp colon)
    · exact .inr (digitChar_of_mem_toDigits (.inr rfl) _ digit)
    · exact induction (index + 1) later

theorem mem_toText_unmapped {address : Ipv6Addr} {c : Char}
    (unmapped : address.toIpv4Mapped = none) (member : c ∈ address.toText) :
    c = ':' ∨ ∃ digit < 16, c = digitChar digit := by
  simp only [Ipv6Addr.toText, unmapped, joinSegments_eq] at member
  split at member
  · rw [List.mem_append, List.mem_append] at member
    rcases member with (head | colons) | tail
    · exact mem_groupsText _ _ head
    · exact .inl (by simpa using colons)
    · exact mem_groupsText _ _ tail
  · exact mem_groupsText _ _ member

theorem IpAddr.mem_toText {address : IpAddr} {c : Char} (member : c ∈ address.toText) :
    IsAddressChar c := by
  have ofV4 : ∀ address : Ipv4Addr, c ∈ address.toText → IsAddressChar c := by
    intro address inside
    simp only [Ipv4Addr.toText, List.mem_append, List.mem_cons] at inside
    have digit : ∀ value, c ∈ Text.ofNat value → IsAddressChar c := by
      intro value printed
      rcases digitChar_of_mem_toDigits (.inl rfl) value printed with ⟨digit, small, equal⟩
      exact .inr (.inr ⟨digit, lt_trans small (by decide), equal⟩)
    rcases inside with ((printed | dot | printed) | dot | printed) | dot | printed
    all_goals first | exact digit _ printed | exact .inl dot
  cases address with
  | v4 address => exact ofV4 address member
  | v6 address =>
    cases mapped : address.toIpv4Mapped with
    | none => exact .inr (mem_toText_unmapped mapped member)
    | some inner =>
      change c ∈ address.toText at member
      rw [Ipv6Addr.toText, mapped] at member
      rcases List.mem_append.mp member with lead | inside
      · have letters : ("::ffff:".toList.all fun c => c == ':' || c == digitChar 15) =
            true := by decide
        have letter := List.all_eq_true.mp letters c lead
        rw [Bool.or_eq_true, beq_iff_eq, beq_iff_eq] at letter
        rcases letter with colon | letter
        · exact .inr (.inl colon)
        · exact .inr (.inr ⟨15, by decide, letter⟩)
      · exact ofV4 inner inside

/-- Every address is parsed from its own text. -/
theorem IpAddr.parse_toText (address : IpAddr) : IpAddr.parse address.toText = some address := by
  cases address with
  | v4 address =>
    have read := @readIpv4Addr_toText address [] (by simp [Stops])
    rw [List.append_nil] at read
    simp [IpAddr.parse, IpAddr.toText, read]
  | v6 address =>
    rcases Text.before_append_of_mem address.colon_mem_toText with ⟨rest, split⟩
    have dotless : '.' ∉ Text.before ':' address.toText := by
      cases mapped : address.toIpv4Mapped with
      | some inner =>
        rw [Ipv6Addr.toText, mapped]
        exact List.not_mem_nil
      | none =>
        intro dot
        rcases mem_toText_unmapped mapped ((List.takeWhile_prefix _).subset dot) with
          colon | ⟨digit, small, equal⟩
        · exact absurd colon (by decide)
        · revert equal
          exact (by decide : ∀ digit < 16, '.' ≠ digitChar digit) digit small
    have other : readIpv4Addr address.toText = none := by
      rw [split]
      exact readIpv4Addr_word dotless (by simp)
    simp [IpAddr.parse, IpAddr.toText, other, readIpv6Addr_toText]

theorem IpAddr.toText_ne_nil (address : IpAddr) : address.toText ≠ [] := by
  intro empty
  have read := address.parse_toText
  rw [empty] at read
  cases read

end PertiskProxy.Net
