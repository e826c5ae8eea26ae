import Mathlib.Data.List.DropRight
import Mathlib.Data.List.Infix

/-! The unsigned integer ranges, saturating addition, and readings of `std::time::Instant`
and of the Unix clock. -/

namespace PertiskProxy

def u16Max : Nat := 65535

def u32Max : Nat := 4294967295

def u64Max : Nat := 18446744073709551615

def saturatingAdd32 (left right : Nat) : Nat :=
  min (left + right) u32Max

def saturatingAdd64 (left right : Nat) : Nat :=
  min (left + right) u64Max

/-- A monotonic clock reading in nanoseconds. -/
abbrev Instant := Nat

def Instant.ofSecs (seconds : Nat) : Nat :=
  seconds * 1000000000

/-- `Instant::duration_since`, which is zero when the argument is later. -/
def Instant.durationSince (later earlier : Instant) : Nat :=
  later - earlier

/-- The two clocks as one call reads them: the monotonic one, and whole
seconds since the Unix epoch (zero before it). -/
structure Clock where
  instant : Instant
  unixSecs : Nat
deriving DecidableEq, Inhabited

/-! Rust `str` operations over lists of Unicode scalar values. Byte lengths are computed
from the UTF-8 size of each character; every other operation used here is insensitive to
the encoding. -/

variable {drop : Char → Bool} {c : Char} {text : Text}

/-- A Rust string, as the list of its Unicode scalar values. -/
abbrev Text := List Char

instance : Coe String Text := ⟨String.toList⟩

namespace Text

/-- `str::len`: the number of UTF-8 bytes. -/
def len (text : Text) : Nat :=
  text.foldr (fun c bytes => c.utf8Size + bytes) 0

/-! ## White space -/

/-- `char::is_whitespace`: the Unicode `White_Space` property. -/
def isWhitespace (c : Char) : Bool :=
  let code := c.toNat
  (9 ≤ code && code ≤ 13) || code == 0x20 || code == 0x85 || code == 0xA0 ||
    code == 0x1680 || (0x2000 ≤ code && code ≤ 0x200A) || code == 0x2028 ||
    code == 0x2029 || code == 0x202F || code == 0x205F || code == 0x3000

def trimStartMatches (drop : Char → Bool) (text : Text) : Text :=
  text.dropWhile drop

def trimEndMatches (drop : Char → Bool) (text : Text) : Text :=
  text.rdropWhile drop

def trimMatches (drop : Char → Bool) (text : Text) : Text :=
  trimEndMatches drop (trimStartMatches drop text)

def trim (text : Text) : Text :=
  trimMatches isWhitespace text

/-- `Some(trimmed)` unless nothing but white space is left, the recurring
`.map(str::trim).filter(|s| !s.is_empty())`. -/
def trimmedNonEmpty (text : Option Text) : Option Text :=
  (text.map trim).filter fun trimmed => !trimmed.isEmpty

/-! ## Letter case -/

def asciiLower (c : Char) : Char :=
  if 65 ≤ c.toNat ∧ c.toNat ≤ 90 then Char.ofNat (c.toNat + 32) else c

def asciiUpper (c : Char) : Char :=
  if 97 ≤ c.toNat ∧ c.toNat ≤ 122 then Char.ofNat (c.toNat - 32) else c

def toAsciiLowercase (text : Text) : Text :=
  text.map asciiLower

def toAsciiUppercase (text : Text) : Text :=
  text.map asciiUpper

def eqIgnoreAsciiCase (left right : Text) : Bool :=
  toAsciiLowercase left == toAsciiLowercase right

/-! ## Searching and splitting -/

def startsWith (text lead : Text) : Bool :=
  lead.isPrefixOf text

def endsWith (text tail : Text) : Bool :=
  tail.isSuffixOf text

def contains (text needle : Text) : Bool :=
  decide (needle <:+: text)

def stripPrefix (text lead : Text) : Option Text :=
  if startsWith text lead then some (text.drop lead.length) else none

/-- `text.split(separator).next()`: everything before the first separator. -/
def before (separator : Char) (text : Text) : Text :=
  text.takeWhile (· != separator)

def splitOnce (separator : Char) : Text → Option (Text × Text)
  | [] => none
  | c :: rest =>
    if c == separator then some ([], rest)
    else (splitOnce separator rest).map fun (left, right) => (c :: left, right)

def rsplitOnce (separator : Char) (text : Text) : Option (Text × Text) :=
  (splitOnce separator text.reverse).map fun (right, left) =>
    (left.reverse, right.reverse)

def replaceChar (target : Char) (replacement : Text) (text : Text) : Text :=
  text.flatMap fun c => if c == target then replacement else [c]

/-! ## Decimal numbers -/

def ofNat (value : Nat) : Text :=
  Nat.toDigits 10 value

def unsignedDigits : Text → Text
  | '+' :: rest => rest
  | text => text

def ofInt : Int → Text
  | .ofNat value => ofNat value
  | .negSucc value => '-' :: ofNat (value + 1)

/-- `str::parse` at an unsigned type with the given largest value: an optional
`+`, then one or more digits, and no overflow. -/
def parseUnsigned (largest : Nat) (text : Text) : Option Nat :=
  let digits := unsignedDigits text
  if digits.isEmpty || !digits.all Char.isDigit then none
  else
    let value := Nat.ofDigitChars 10 digits 0
    if value ≤ largest then some value else none

/-- `str::parse` at a signed type with the given bounds. -/
def parseInteger (lowest highest : Int) (text : Text) : Option Int :=
  let (negative, digits) := match text with
    | '-' :: rest => (true, rest)
    | '+' :: rest => (false, rest)
    | text => (false, text)
  if digits.isEmpty || !digits.all Char.isDigit then none
  else
    let value : Int := Nat.ofDigitChars 10 digits 0
    let value := if negative then -value else value
    if lowest ≤ value ∧ value ≤ highest then some value else none

/-! ## Lemmas -/

theorem startsWith_iff : startsWith text lead = true ↔ lead <+: text := by
  simp [startsWith]

theorem endsWith_iff : endsWith text tail = true ↔ tail <:+ text := by
  simp [endsWith]

@[simp] theorem len_cons (c : Char) (text : Text) : len (c :: text) = c.utf8Size + len text := rfl

theorem len_append (left right : Text) : len (left ++ right) = len left + len right := by
  induction left with
  | nil => simp [len]
  | cons c rest induction =>
    rw [List.cons_append, len_cons, len_cons, induction]
    omega

theorem eq_nil_of_len_eq_zero (zero : len text = 0) : text = [] := by
  cases text with
  | nil => rfl
  | cons c rest =>
    have positive := Char.utf8Size_pos c
    rw [len_cons] at zero
    omega

theorem eq_of_suffix_of_len_eq (leftTail : left <:+ text) (rightTail : right <:+ text)
    (equal : len left = len right) : left = right := by
  have append : ∀ {short long : Text}, short <:+ long → len short = len long → short = long := by
    rintro short _ ⟨lead, rfl⟩ same
    rw [len_append] at same
    rw [eq_nil_of_len_eq_zero (by omega : len lead = 0), List.nil_append]
  rcases List.suffix_or_suffix_of_suffix leftTail rightTail with inside | inside
  · exact append inside equal
  · exact (append inside equal.symm).symm

theorem stripPrefix_eq_some : stripPrefix text lead = some rest ↔ text = lead ++ rest := by
  unfold stripPrefix
  split
  · next starts =>
    rcases startsWith_iff.mp starts with ⟨tail, rfl⟩
    simp
  · next differs =>
    simp only [reduceCtorEq, false_iff]
    rintro rfl
    exact differs (startsWith_iff.mpr (List.prefix_append lead rest))

theorem trimEndMatches_append (drop : Char → Bool) (text : Text) :
    ∃ tail, text = trimEndMatches drop text ++ tail ∧ ∀ c ∈ tail, drop c = true := by
  refine ⟨text.rtakeWhile drop, ?_, fun c member => List.mem_rtakeWhile_imp member⟩
  exact (List.rdropWhile_append_rtakeWhile ..).symm

theorem mem_of_mem_trimMatches (member : c ∈ trimMatches drop text) : c ∈ text :=
  (List.dropWhile_suffix drop).subset ((List.rdropWhile_prefix drop _).subset member)

theorem trimEndMatches_idem (drop : Char → Bool) (text : Text) :
    trimEndMatches drop (trimEndMatches drop text) = trimEndMatches drop text :=
  List.rdropWhile_idempotent drop text

section

variable (kept : drop c = false) (left right : Text)

include kept

theorem trimStartMatches_append_cons :
    trimStartMatches drop (left ++ c :: right) = trimStartMatches drop left ++ c :: right := by
  unfold trimStartMatches
  induction left with
  | nil => simp [kept]
  | cons first rest induction =>
    by_cases dropped : drop first = true
    · simpa [dropped] using induction
    · simp [dropped]

theorem trimEndMatches_append_cons :
    trimEndMatches drop (left ++ c :: right) = left ++ c :: trimEndMatches drop right := by
  have mirrored := trimStartMatches_append_cons kept right.reverse left.reverse
  unfold trimStartMatches at mirrored
  unfold trimEndMatches List.rdropWhile
  rw [List.reverse_append, List.reverse_cons, List.append_assoc, List.singleton_append, mirrored]
  simp

theorem trimMatches_append_cons : trimMatches drop (left ++ c :: right) =
      trimStartMatches drop left ++ c :: trimEndMatches drop right := by
  rw [trimMatches, trimStartMatches_append_cons kept, trimEndMatches_append_cons kept]

end

theorem trimMatches_ends (keepFirst : drop first = false) (keepLast : drop last = false)
    (middle : Text) :
    trimMatches drop (first :: (middle ++ [last])) = first :: (middle ++ [last]) := by
  have start : trimStartMatches drop (first :: middle) = first :: middle := by
    simp [trimStartMatches, keepFirst]
  exact (trimMatches_append_cons keepLast (first :: middle) []).trans (by rw [start]; rfl)

theorem mem_trimEndMatches
    (kept : drop c = false) (member : c ∈ text) : c ∈ trimEndMatches drop text := by
  rcases List.append_of_mem member with ⟨left, right, rfl⟩
  rw [trimEndMatches_append_cons kept]
  simp

theorem mem_trimMatches (kept : drop c = false) (member : c ∈ text) :
    c ∈ trimMatches drop text := by
  rcases List.append_of_mem member with ⟨left, right, rfl⟩
  rw [trimMatches_append_cons kept]
  simp

theorem trimMatches_eq_self (kept : ∀ c ∈ text, drop c = false) :
    trimMatches drop text = text := by
  have start : text.dropWhile drop = text := by
    cases text with
    | nil => rfl
    | cons c rest => simp [kept c List.mem_cons_self]
  rw [trimMatches, trimStartMatches, start, trimEndMatches, List.rdropWhile_eq_self_iff]
  intro some
  simpa using kept _ (List.getLast_mem some)

theorem splitOnce_eq_none : splitOnce separator text = none ↔ separator ∉ text := by
  induction text with
  | nil => simp [splitOnce]
  | cons c rest induction =>
    by_cases equal : c = separator
    · simp [splitOnce, equal]
    · simp [splitOnce, equal, induction, Ne.symm equal]

theorem splitOnce_eq_some : splitOnce separator text = some (left, right) ↔
      text = left ++ separator :: right ∧ separator ∉ left := by
  induction text generalizing left with
  | nil => simp [splitOnce]
  | cons c rest induction =>
    by_cases equal : c = separator
    · subst c
      cases left with
      | nil => simp [splitOnce]
      | cons head tail =>
        simp only [splitOnce, beq_self_eq_true, if_true, Option.some.injEq,
          Prod.mk.injEq, List.cons_append, List.cons.injEq, List.mem_cons, not_or]
        constructor
        · rintro ⟨impossible, -⟩
          cases impossible
        · rintro ⟨⟨same, -⟩, different, -⟩
          exact absurd same different
    cases left with
    | nil => simp [splitOnce, equal]
    | cons head tail =>
      simp only [splitOnce, beq_iff_eq, equal, if_false, Option.map_eq_some_iff,
        Prod.exists, Prod.mk.injEq, List.cons.injEq, List.cons_append]
      constructor
      · rintro ⟨left, right, found, ⟨rfl, rfl⟩, rfl⟩
        rcases induction.mp found with ⟨rfl, absent⟩
        exact ⟨⟨rfl, rfl⟩, by simp [Ne.symm equal, absent]⟩
      · rintro ⟨⟨rfl, rfl⟩, absent⟩
        refine ⟨tail, right, induction.mpr ⟨rfl, ?_⟩, ⟨rfl, rfl⟩, rfl⟩
        exact fun member => absent (List.mem_cons_of_mem _ member)

theorem append_separator_inj {separator : Char} {left right left' right' : Text}
    (absent : separator ∉ left) (absent' : separator ∉ left')
    (equal : left ++ separator :: right = left' ++ separator :: right') :
    left = left' ∧ right = right' := by
  have first : splitOnce separator (left ++ separator :: right) = some (left, right) :=
    splitOnce_eq_some.mpr ⟨rfl, absent⟩
  rw [equal, splitOnce_eq_some.mpr ⟨rfl, absent'⟩] at first
  simpa [eq_comm] using first

@[simp] theorem not_mem_before (separator : Char) (text : Text) :
    separator ∉ before separator text := by
  intro member
  simpa using List.mem_takeWhile_imp member

theorem before_eq_self (absent : separator ∉ text) : before separator text = text := by
  unfold before
  rw [List.takeWhile_eq_self_iff]
  intro c member
  have different : c ≠ separator := fun equal => absent (equal ▸ member)
  simpa using different

theorem before_append_separator (separator : Char) (left right : Text) :
    before separator (left ++ separator :: right) = before separator left := by
  unfold before
  induction left with
  | nil => simp
  | cons c left induction => simp [List.takeWhile_cons, induction]

theorem before_append_of_mem (member : separator ∈ text) :
    ∃ rest, text = before separator text ++ separator :: rest := by
  cases parts : splitOnce separator text with
  | none => exact absurd member (splitOnce_eq_none.mp parts)
  | some pair =>
    rcases splitOnce_eq_some.mp parts with ⟨whole, absent⟩
    refine ⟨pair.2, ?_⟩
    rw [whole, before_append_separator, before_eq_self absent]

theorem rsplitOnce_append (left : Text) (absent : separator ∉ right) :
    rsplitOnce separator (left ++ separator :: right) = some (left, right) := by
  have reversed : (left ++ separator :: right).reverse =
      right.reverse ++ separator :: left.reverse := by simp
  have parts : splitOnce separator (left ++ separator :: right).reverse =
      some (right.reverse, left.reverse) :=
    splitOnce_eq_some.mpr ⟨reversed, by simpa using absent⟩
  rw [rsplitOnce, parts]
  simp

theorem mem_replaceChar (other : c ≠ target) (fresh : c ≠ replacement) :
    c ∈ replaceChar target [replacement] text ↔ c ∈ text := by
  rw [replaceChar, List.mem_flatMap]
  constructor
  · rintro ⟨original, member, inside⟩
    split at inside
    · exact absurd (List.mem_singleton.mp inside) fresh
    · exact List.mem_singleton.mp inside ▸ member
  · intro member
    refine ⟨c, member, ?_⟩
    simp [other]

theorem isWhitespace_letter (low : 65 ≤ c.toNat) (high : c.toNat ≤ 122) :
    isWhitespace c = false := by
  have letters : ∀ code < 123, code < 65 ∨ isWhitespace (Char.ofNat code) = false := by decide
  rcases letters c.toNat (by omega) with below | plain
  · omega
  · rwa [Char.ofNat_toNat] at plain

theorem asciiLower_cases (c : Char) : asciiLower c = c ∨
    65 ≤ c.toNat ∧ c.toNat ≤ 90 ∧ 97 ≤ (asciiLower c).toNat ∧ (asciiLower c).toNat ≤ 122 := by
  have letters : ∀ code < 91, code < 65 ∨
      97 ≤ (Char.ofNat (code + 32)).toNat ∧ (Char.ofNat (code + 32)).toNat ≤ 122 := by decide
  by_cases upper : 65 ≤ c.toNat ∧ c.toNat ≤ 90
  · rw [asciiLower, if_pos upper]
    have letter := letters c.toNat (by omega)
    omega
  · exact .inl (if_neg upper)

theorem asciiUpper_cases (c : Char) : asciiUpper c = c ∨
    97 ≤ c.toNat ∧ c.toNat ≤ 122 ∧ 65 ≤ (asciiUpper c).toNat ∧ (asciiUpper c).toNat ≤ 90 := by
  have letters : ∀ code < 123, code < 97 ∨
      65 ≤ (Char.ofNat (code - 32)).toNat ∧ (Char.ofNat (code - 32)).toNat ≤ 90 := by decide
  by_cases lower : 97 ≤ c.toNat ∧ c.toNat ≤ 122
  · rw [asciiUpper, if_pos lower]
    have letter := letters c.toNat (by omega)
    omega
  · exact .inl (if_neg lower)

theorem asciiLower_idem (c : Char) : asciiLower (asciiLower c) = asciiLower c := by
  rcases asciiLower_cases c with same | letter
  · rw [same, same]
  · exact if_neg (by omega)

@[simp] theorem toAsciiLowercase_idem (text : Text) :
    toAsciiLowercase (toAsciiLowercase text) = toAsciiLowercase text := by
  simp [toAsciiLowercase, asciiLower_idem]

theorem isWhitespace_asciiLower (c : Char) : isWhitespace (asciiLower c) = isWhitespace c := by
  rcases asciiLower_cases c with same | letter
  · rw [same]
  · rw [isWhitespace_letter (by omega) (by omega), isWhitespace_letter (by omega) (by omega)]

theorem trim_toAsciiLowercase (text : Text) :
    trim (toAsciiLowercase text) = toAsciiLowercase (trim text) := by
  have alike : isWhitespace ∘ asciiLower = isWhitespace := funext isWhitespace_asciiLower
  simp only [trim, trimMatches, trimStartMatches, trimEndMatches, toAsciiLowercase,
    List.rdropWhile, List.dropWhile_map, alike, ← List.map_reverse]

theorem asciiUpper_idem (c : Char) : asciiUpper (asciiUpper c) = asciiUpper c := by
  rcases asciiUpper_cases c with same | letter
  · rw [same, same]
  · exact if_neg (by omega)

@[simp] theorem toAsciiUppercase_idem (text : Text) :
    toAsciiUppercase (toAsciiUppercase text) = toAsciiUppercase text := by
  simp [toAsciiUppercase, asciiUpper_idem]

theorem isWhitespace_asciiUpper (c : Char) : isWhitespace (asciiUpper c) = isWhitespace c := by
  rcases asciiUpper_cases c with same | letter
  · rw [same]
  · rw [isWhitespace_letter (by omega) (by omega), isWhitespace_letter (by omega) (by omega)]

theorem trim_toAsciiUppercase (text : Text) :
    trim (toAsciiUppercase text) = toAsciiUppercase (trim text) := by
  have alike : isWhitespace ∘ asciiUpper = isWhitespace := funext isWhitespace_asciiUpper
  simp only [trim, trimMatches, trimStartMatches, trimEndMatches, toAsciiUppercase,
    List.rdropWhile, List.dropWhile_map, alike, ← List.map_reverse]

theorem mem_of_mem_toAsciiUppercase (noLetter : c.toNat < 65 ∨ 90 < c.toNat)
    (member : c ∈ toAsciiUppercase text) : c ∈ text := by
  rcases List.mem_map.mp member with ⟨original, inside, rfl⟩
  rcases asciiUpper_cases original with same | letter
  · rwa [same]
  · omega

theorem dropWhile_rdropWhile_dropWhile (drop : Char → Bool) (text : Text) :
    ((text.dropWhile drop).rdropWhile drop).dropWhile drop =
      (text.dropWhile drop).rdropWhile drop := by
  have first := List.head?_dropWhile_not drop text
  have lead := List.rdropWhile_prefix drop (text.dropWhile drop)
  generalize (text.dropWhile drop).rdropWhile drop = inner at lead ⊢
  cases inner with
  | nil => rfl
  | cons c rest =>
    rcases lead with ⟨tail, whole⟩
    rw [← whole] at first
    simp only [List.cons_append, List.head?_cons] at first
    simp [first]

@[simp] theorem trim_idem (text : Text) : trim (trim text) = trim text := by
  simp only [trim, trimMatches, trimStartMatches, trimEndMatches]
  rw [dropWhile_rdropWhile_dropWhile, List.rdropWhile_idempotent]

theorem mem_of_mem_toAsciiLowercase (noLetter : c.toNat < 97 ∨ 122 < c.toNat)
    (member : c ∈ toAsciiLowercase text) : c ∈ text := by
  rcases List.mem_map.mp member with ⟨original, inside, rfl⟩
  rcases asciiLower_cases original with same | letter
  · rwa [same]
  · omega

/-! ### Splitting at any of several characters -/

theorem not_of_mem_splitOnP {separates : Char → Bool} {piece : Text}
    (member : piece ∈ text.splitOnP separates) : ∀ c ∈ piece, separates c = false := by
  induction text generalizing piece with
  | nil =>
    rw [List.splitOnP_nil, List.mem_singleton] at member
    simp [member]
  | cons first rest induction =>
    rw [List.splitOnP_cons_eq_if_modifyHead] at member
    split at member
    · rcases List.mem_cons.mp member with rfl | later
      · simp
      · exact induction later
    rename_i other
    cases parts : rest.splitOnP separates with
    | nil => simp [parts] at member
    | cons head tail =>
      rw [parts] at member induction
      rcases List.mem_cons.mp member with rfl | later
      · intro c inside
        rcases List.mem_cons.mp inside with rfl | inHead
        · simpa using other
        · exact induction List.mem_cons_self c inHead
      · exact induction (List.mem_cons_of_mem _ later)

theorem splitOnP_intercalate (splits : separates separator = true) (some : pieces ≠ [])
    (solid : ∀ piece ∈ pieces, ∀ c ∈ piece, separates c = false) :
    ([separator].intercalate pieces).splitOnP separates = pieces := by
  induction pieces with
  | nil => exact absurd rfl some
  | cons first rest induction =>
    have plain := solid first List.mem_cons_self
    cases rest with
    | nil => simpa using List.splitOnP_eq_singleton plain
    | cons second rest =>
      have later := induction (by simp) fun piece member =>
        solid piece (List.mem_cons_of_mem _ member)
      have joined : [separator].intercalate (first :: second :: rest) =
          first ++ separator :: [separator].intercalate (second :: rest) := by
        simp [List.intercalate]
      rw [joined, List.splitOnP_append_cons_of_forall_mem plain separator splits, later]

theorem ofNat_injective : Function.Injective ofNat := by
  intro left right equal
  have values := congrArg (Nat.ofDigitChars 10 · 0) equal
  simpa [ofNat] using values

theorem isDigit_of_mem_ofNat (member : c ∈ ofNat value) : c.isDigit = true :=
  Nat.isDigit_of_mem_toDigits (by decide) (by decide) member

theorem isWhitespace_of_isDigit (digit : c.isDigit = true) : isWhitespace c = false := by
  simp only [Char.isDigit, Bool.and_eq_true, decide_eq_true_eq] at digit
  have lower : 48 ≤ c.toNat := digit.1
  have upper : c.toNat ≤ 57 := digit.2
  simp only [isWhitespace, Bool.or_eq_false_iff, Bool.and_eq_false_iff, decide_eq_false_iff_not,
    beq_eq_false_iff_ne]
  omega

theorem ofNat_ne_nil (value : Nat) : ofNat value ≠ [] :=
  Nat.toDigits_ne_nil

theorem mem_ofInt (member : c ∈ ofInt value) : c = '-' ∨ c.isDigit = true := by
  cases value with
  | ofNat value => exact .inr (isDigit_of_mem_ofNat member)
  | negSucc value =>
    rcases List.mem_cons.mp member with sign | digit
    · exact .inl sign
    · exact .inr (isDigit_of_mem_ofNat digit)

theorem ofInt_injective : Function.Injective ofInt := by
  have unsigned : ∀ value other : Nat, ofNat value ≠ '-' :: ofNat other := by
    intro value other same
    have sign : '-' ∈ ofNat value := by
      rw [same]
      exact List.mem_cons_self
    exact absurd (isDigit_of_mem_ofNat sign) (by decide)
  intro left right same
  cases left with
  | ofNat left =>
    cases right with
    | ofNat right => rw [ofNat_injective same]
    | negSucc right => exact absurd same (unsigned left (right + 1))
  | negSucc left =>
    cases right with
    | ofNat right => exact absurd same.symm (unsigned right (left + 1))
    | negSucc right =>
      have values := ofNat_injective (List.cons.inj same).2
      rw [Nat.succ.inj values]

theorem mem_unsignedDigits (member : c ∈ text) : c ∈ unsignedDigits text ∨ c = '+' := by
  unfold unsignedDigits
  split
  · simpa [or_comm] using member
  · exact .inl member

theorem mem_of_parseUnsigned (parsed : parseUnsigned largest text = some value)
    (member : c ∈ text) : c.isDigit = true ∨ c = '+' := by
  unfold parseUnsigned at parsed
  dsimp only at parsed
  split at parsed
  · cases parsed
  · next digits =>
    simp only [Bool.or_eq_true, Bool.not_eq_true', not_or, Bool.not_eq_false,
      List.all_eq_true] at digits
    exact (mem_unsignedDigits member).imp_left (digits.2 c)

theorem le_of_parseUnsigned (parsed : parseUnsigned largest text = some value) :
    value ≤ largest := by
  unfold parseUnsigned at parsed
  dsimp only at parsed
  split at parsed
  · cases parsed
  · split at parsed
    · next fits =>
      cases parsed
      exact fits
    · cases parsed

theorem parseUnsigned_ofNat_eq (largest value : Nat) :
    parseUnsigned largest (ofNat value) = if value ≤ largest then some value else none := by
  have digits : ∀ c ∈ ofNat value, c.isDigit = true := fun _ => isDigit_of_mem_ofNat
  have unsigned : unsignedDigits (ofNat value) = ofNat value := by
    unfold unsignedDigits
    split
    · next rest equal =>
      have signDigit := digits '+' (by rw [equal]; exact List.mem_cons_self)
      exact absurd signDigit (by decide)
    · rfl
  have nonEmpty : (ofNat value).isEmpty = false := by
    simpa using ofNat_ne_nil value
  have allDigits : (ofNat value).all Char.isDigit = true := List.all_eq_true.mpr digits
  simp only [parseUnsigned, unsigned, nonEmpty, allDigits, Bool.not_true, Bool.or_false]
  simp [ofNat]

theorem parseUnsigned_ofNat (fits : value ≤ largest) :
    parseUnsigned largest (ofNat value) = some value := by
  rw [parseUnsigned_ofNat_eq, if_pos fits]

end Text

end PertiskProxy
