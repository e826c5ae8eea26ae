import Mathlib.Data.List.Find
import PertiskProxy.Foundation

/-! `parse_cpu_quantity` and `parse_bytes_quantity` of `api/kubernetes.rs`. -/

namespace PertiskProxy.Api

open Text Binary64 List

/-- A double. The two zeros are one value. -/
inductive F64 where
  | finite (value : ℚ)
  | infinite (negative : Bool)
  | nan

namespace F64

def ofRat (value : ℚ) : F64 :=
  let magnitude := nearest |value|
  if 2 ^ 1024 ≤ magnitude then .infinite (value < 0)
  else .finite (if value < 0 then -magnitude else magnitude)

/-- The product with a positive literal. -/
def scale (factor : ℚ) : F64 → F64
  | .finite value => ofRat (value * nearest factor)
  | other => other

/-- `f64::round`, and the conversion to `i64`, which saturates. -/
def roundToI64 : F64 → ℤ
  | .finite value =>
    max (-2 ^ 63) (min (2 ^ 63 - 1) (if value < 0 then -⌊1 / 2 - value⌋ else ⌊value + 1 / 2⌋))
  | .infinite negative => if negative then -2 ^ 63 else 2 ^ 63 - 1
  | .nan => 0

end F64

def natValue (digits : Text) : Nat :=
  Nat.ofDigitChars 10 digits 0

def readDigits (digits : Text) : Option ℤ :=
  if digits.isEmpty || !digits.all Char.isDigit then none else some (natValue digits)

def splitSign : Text → Bool × Text
  | '-' :: rest => (true, rest)
  | '+' :: rest => (false, rest)
  | text => (false, text)

def readExponent : Text → Option ℤ
  | [] => some 0
  | mark :: rest =>
    if mark = 'e' ∨ mark = 'E' then
      let (negative, digits) := splitSign rest
      (readDigits digits).map fun value => if negative then -value else value
    else none

def readFraction : Text → Text × Text
  | '.' :: rest => rest.span Char.isDigit
  | text => ([], text)

def readDecimal (text : Text) : Option ℚ :=
  let (whole, rest) := text.span Char.isDigit
  let (fraction, rest) := readFraction rest
  if (whole ++ fraction).isEmpty then none
  else (readExponent rest).map fun exponent : ℤ =>
    natValue (whole ++ fraction) * 10 ^ (exponent - fraction.length)

/-- `str::parse::<f64>`. -/
def parseF64 (text : Text) : Option F64 :=
  let (negative, body) := splitSign text
  match readDecimal body with
  | some value => some (.ofRat (if negative then -value else value))
  | none =>
    let word := toAsciiLowercase body
    if word = "nan".toList then some .nan
    else if word = "inf".toList ∨ word = "infinity".toList then some (.infinite negative)
    else none

/-- The first suffix of a table that a quantity ends with, and its multiplier. -/
def unitOf (units : List (Text × ℚ)) (unit : ℚ) (qty : Text) : Text × ℚ :=
  (units.find? fun entry => endsWith qty entry.1).getD ([], unit)

def parseQuantity (units : List (Text × ℚ)) (unit : ℚ) (qty : Text) : Option ℤ :=
  let qty := trim qty
  if qty.isEmpty then none
  else
    let (suffix, multiplier) := unitOf units unit qty
    (parseF64 (qty.take (qty.length - suffix.length))).map fun number =>
      (number.scale multiplier).roundToI64

def cpuUnits : List (Text × ℚ) :=
  [("n", 1 / 10 ^ 6), ("u", 1 / 10 ^ 3), ("m", 1)]

def parseCpuQuantity : Text → Option ℤ := parseQuantity cpuUnits 1000

def bytesUnits : List (Text × ℚ) :=
  [("Ei", 1024 ^ 6), ("Pi", 1024 ^ 5), ("Ti", 1024 ^ 4), ("Gi", 1024 ^ 3), ("Mi", 1024 ^ 2),
    ("Ki", 1024), ("E", 1000 ^ 6), ("P", 1000 ^ 5), ("T", 1000 ^ 4), ("G", 1000 ^ 3),
    ("M", 1000 ^ 2), ("K", 1000)]

def parseBytesQuantity : Text → Option ℤ := parseQuantity bytesUnits 1

inductive ExponentText : Text → ℤ → Prop
  | absent : ExponentText [] 0
  | present : (mark = 'e' ∨ mark = 'E') → (sign, factor) ∈ [([], 1), (['+'], 1), (['-'], -1)] →
      digits ≠ [] → (∀ c ∈ digits, c.isDigit = true) →
        ExponentText (mark :: (sign ++ digits)) (factor * natValue digits)

/-- How Kubernetes writes a number that is not negative. -/
inductive NumberText : Text → ℚ → Prop
  | intro : sign ∈ [[], ['+']] → whole ++ fraction ≠ [] →
      (∀ c ∈ whole ++ fraction, c.isDigit = true) →
      (point = '.' :: fraction ∨ point = [] ∧ fraction = []) → ExponentText power exponent →
        NumberText (sign ++ (whole ++ (point ++ power)))
          (natValue (whole ++ fraction) * 10 ^ (exponent - fraction.length))

def suffixes : List (Text × ℚ) :=
  [([], 1), ("n", 1 / 10 ^ 9), ("u", 1 / 10 ^ 6), ("m", 1 / 10 ^ 3), ("k", 10 ^ 3),
    ("M", 10 ^ 6), ("G", 10 ^ 9), ("T", 10 ^ 12), ("P", 10 ^ 15), ("E", 10 ^ 18),
    ("Ki", 2 ^ 10), ("Mi", 2 ^ 20), ("Gi", 2 ^ 30), ("Ti", 2 ^ 40), ("Pi", 2 ^ 50),
    ("Ei", 2 ^ 60)]

def IsNearest (result : Option ℤ) (value : ℚ) : Prop :=
  ∃ integer, result = some integer ∧ |integer - value| ≤ 1 / 2

/-- The product of the rounded factors, no larger than an `i64` can be. -/
def doubleProduct (value multiplier : ℚ) : ℚ :=
  min (nearest (nearest value * nearest multiplier)) (2 ^ 63 - 1)

/-- No half integer separates a rounded value from the exact one; one that equals the exact
value may go either way. -/
def Unseparated (rounded value : ℚ) : Prop :=
  ∀ integer : ℤ, ((integer : ℚ) + 1 / 2 ≤ rounded → (integer : ℚ) + 1 / 2 ≤ value) ∧
    ((integer : ℚ) + 1 / 2 < value → (integer : ℚ) + 1 / 2 ≤ rounded)

variable {text whole rest : Text}

theorem span_digits (digits : ∀ c ∈ whole, c.isDigit = true)
    (stop : ∀ c ∈ rest.head?, c.isDigit = false) :
    (whole ++ rest).span Char.isDigit = (whole, rest) := by
  rw [span_eq_takeWhile_dropWhile, takeWhile_append_of_pos digits,
    dropWhile_append_of_pos digits]
  cases rest with
  | nil => simp
  | cons c rest => simp [stop c rfl]

theorem splitSign_of_head (unsigned : ∀ c ∈ text.head?, c ≠ '-' ∧ c ≠ '+') :
    splitSign text = (false, text) := by
  unfold splitSign
  split
  · exact absurd rfl (unsigned '-' rfl).1
  · exact absurd rfl (unsigned '+' rfl).2
  · rfl

theorem digit_unsigned (digit : c.isDigit = true) : c ≠ '-' ∧ c ≠ '+' := by
  constructor <;> rintro rfl <;> revert digit <;> decide

theorem ExponentText.read (exponent : ExponentText text value) :
    readExponent text = some value := by
  cases exponent with
  | absent => rfl
  | @present mark sign factor digits marked signed given all =>
    have number : readDigits digits = some (natValue digits : ℤ) := by
      rw [readDigits, if_neg]
      simp [given, all_eq_true.mpr all]
    rw [readExponent, if_pos marked]
    simp only [mem_cons, Prod.mk.injEq, not_mem_nil, or_false] at signed
    rcases signed with ⟨rfl, rfl⟩ | ⟨rfl, rfl⟩ | ⟨rfl, rfl⟩
    · have unsigned := splitSign_of_head fun c first =>
        digit_unsigned (all c (mem_of_mem_head? first))
      simp [unsigned, number]
    · simp [splitSign, number]
    · simp [splitSign, number]

theorem ExponentText.stops (exponent : ExponentText text value) :
    ∀ c ∈ text.head?, c.isDigit = false ∧ c ≠ '.' := by
  cases exponent with
  | absent => simp
  | present mark sign some digits =>
    rcases mark with rfl | rfl <;> simp

theorem NumberText.parse (number : NumberText text value) :
    parseF64 text = some (.ofRat value) := by
  cases number with
  | @intro sign whole fraction point power exponent signed given digits pointed powered =>
    have wholeDigits := fun c member => digits c (mem_append_left fraction member)
    have fractionDigits := fun c member => digits c (mem_append_right whole member)
    have stops := fun c first => (powered.stops c first).1
    have fractionRead : readFraction (point ++ power) = (fraction, power) := by
      rcases pointed with rfl | ⟨rfl, rfl⟩
      · exact span_digits fractionDigits stops
      · unfold readFraction
        split
        · next first => exact absurd rfl (powered.stops '.' (by simp_all)).2
        · rfl
    have pointStops : ∀ c ∈ (point ++ power).head?, c.isDigit = false := by
      rcases pointed with rfl | ⟨rfl, rfl⟩
      · simp
      · exact stops
    have read : readDecimal (whole ++ (point ++ power)) = some
        ((natValue (whole ++ fraction) : ℚ) * 10 ^ (exponent - fraction.length)) := by
      unfold readDecimal
      rw [span_digits wholeDigits pointStops]
      dsimp only
      rw [fractionRead, if_neg (by simpa using given), powered.read]
      rfl
    have unsigned : splitSign (sign ++ (whole ++ (point ++ power))) =
        (false, whole ++ (point ++ power)) := by
      rcases mem_pair.mp signed with rfl | rfl
      · apply splitSign_of_head
        cases whole with
        | nil =>
          rcases pointed with rfl | ⟨rfl, rfl⟩
          · simp
          · exact absurd rfl given
        | cons digit rest => simpa using digit_unsigned (wholeDigits digit mem_cons_self)
      · rfl
    unfold parseF64
    rw [unsigned]
    dsimp only
    rw [read]
    rfl

/-- Texts that end as a number does. -/
def EndsNumeral (text : Text) : Prop :=
  ∃ init last, text = init ++ [last] ∧ (last.isDigit = true ∨ last = '.')

theorem EndsNumeral.intro (front : Text) (given : rest ≠ [])
    (all : ∀ c ∈ rest, c.isDigit = true ∨ c = '.') : EndsNumeral (front ++ rest) := by
  refine ⟨front ++ rest.dropLast, rest.getLast given, ?_, all _ (getLast_mem given)⟩
  rw [append_assoc, dropLast_append_getLast]

theorem EndsNumeral.eq_nil {front : Text} (ends : EndsNumeral (front ++ rest))
    (letters : ∀ c ∈ rest, c.isDigit = false ∧ c ≠ '.') : rest = [] := by
  rcases ends with ⟨init, last, same, numeral⟩
  rcases eq_nil_or_concat rest with rfl | ⟨start, c, rfl⟩
  · rfl
  · rw [concat_eq_append, ← append_assoc] at same
    have final : c = last := by simpa using congrArg getLast? same
    have letter := letters c (by simp)
    rcases numeral with digit | rfl
    · rw [final, digit] at letter
      cases letter.1
    · exact absurd final letter.2

theorem NumberText.last (number : NumberText text value) : EndsNumeral text := by
  cases number with
  | @intro sign whole fraction point power exponent signed given digits pointed powered =>
    cases powered with
    | @present mark sign' factor numerals marked _ some all =>
      have ends := EndsNumeral.intro (sign ++ (whole ++ (point ++ mark :: sign'))) some
        fun c member => .inl (all c member)
      simpa using ends
    | absent =>
      rcases pointed with rfl | ⟨rfl, rfl⟩
      · have ends := EndsNumeral.intro (sign ++ whole) (cons_ne_nil '.' fraction)
          fun c member => (mem_cons.mp member).symm.imp_left fun inside =>
            digits c (mem_append_right _ inside)
        simpa using ends
      · have ends := EndsNumeral.intro sign (by simpa using given)
          fun c member => .inl (digits c (mem_append_left _ member))
        simpa using ends

theorem splitSign_eq (text : Text) : ∃ sign, text = sign ++ (splitSign text).2 ∧
    ∀ c ∈ sign, c = '-' ∨ c = '+' := by
  unfold splitSign
  split
  · exact ⟨['-'], rfl, by simp⟩
  · exact ⟨['+'], rfl, by simp⟩
  · exact ⟨[], rfl, by simp⟩

theorem readFraction_eq (text : Text) : ∃ point, text = point ++ (readFraction text).2 ∧
    (∀ c ∈ point, c.isDigit = true ∨ c = '.') ∧ (point = [] → (readFraction text).1 = []) := by
  unfold readFraction
  split
  · next rest =>
    refine ⟨'.' :: rest.takeWhile Char.isDigit, ?_, ?_, nofun⟩
    · simp [span_eq_takeWhile_dropWhile, takeWhile_append_dropWhile]
    · intro c member
      rcases mem_cons.mp member with rfl | inside
      · exact .inr rfl
      · exact .inl (mem_takeWhile_imp inside)
  · exact ⟨[], rfl, by simp⟩

theorem readExponent_ends (read : readExponent rest = some exponent) (given : rest ≠ [])
    (front : Text) : EndsNumeral (front ++ rest) := by
  cases rest with
  | nil => exact absurd rfl given
  | cons mark rest =>
    rcases splitSign_eq rest with ⟨sign, same, -⟩
    by_cases marked : mark = 'e' ∨ mark = 'E'
    · simp only [readExponent, if_pos marked, readDigits, Option.map_eq_some_iff,
        Option.ite_none_left_eq_some] at read
      rcases read with ⟨_, ⟨plain, -⟩, -⟩
      have digits : (splitSign rest).2 ≠ [] ∧ ∀ c ∈ (splitSign rest).2, c.isDigit = true := by
        simpa using plain
      have ends := EndsNumeral.intro (front ++ mark :: sign) digits.1 fun c member =>
        .inl (digits.2 c member)
      rw [same]
      simpa using ends
    · simp [readExponent, marked] at read

theorem readDecimal_ends (read : readDecimal text = some value) : EndsNumeral text := by
  unfold readDecimal at read
  rw [span_eq_takeWhile_dropWhile] at read
  dsimp only at read
  rcases readFraction_eq (text.dropWhile Char.isDigit) with ⟨point, same, numerals, pointless⟩
  have parts : text = text.takeWhile Char.isDigit ++ (point ++
      (readFraction (text.dropWhile Char.isDigit)).2) := by
    rw [← same, takeWhile_append_dropWhile]
  split at read
  · cases read
  · next given =>
    rcases Option.map_eq_some_iff.mp read with ⟨exponent, power, -⟩
    by_cases ended : (readFraction (text.dropWhile Char.isDigit)).2 = []
    · rw [ended, append_nil] at parts
      rw [parts]
      refine EndsNumeral.intro [] (fun empty => given ?_) fun c member => ?_
      · rcases append_eq_nil_iff.mp empty with ⟨whole, fraction⟩
        rw [whole, pointless fraction]
        rfl
      · exact (mem_append.mp member).elim (fun inside => .inl (mem_takeWhile_imp inside))
          (numerals c)
    · rw [parts, ← append_assoc]
      exact readExponent_ends power ended _

theorem NumberText.endsWith_append (number : NumberText text value) {ending : Text}
    (letters : ∀ c ∈ ending, c.isDigit = false ∧ c ≠ '.') (suffix : Text) :
    endsWith (text ++ suffix) ending = endsWith suffix ending := by
  rw [Bool.eq_iff_iff, endsWith_iff, endsWith_iff]
  refine ⟨fun ends => ?_, fun ends => ends.trans (suffix_append _ _)⟩
  rcases suffix_or_suffix_of_suffix ends (suffix_append _ _) with inside | ⟨longer, rfl⟩
  · exact inside
  rcases ends with ⟨front, same⟩
  rw [← append_assoc] at same
  have overlap := number.last
  rw [← append_cancel_right same] at overlap
  rw [overlap.eq_nil fun c inside => letters c (mem_append_left _ inside)]
  exact suffix_rfl

theorem NumberText.solid (number : NumberText text value) :
    ∀ c ∈ text, isWhitespace c = false := by
  cases number with
  | @intro sign whole fraction point power exponent signed given digits pointed powered =>
    have plain : ∀ c ∈ ['+', '-', '.', 'e', 'E'], isWhitespace c = false := by
      simp [isWhitespace]
    have digit := @isWhitespace_of_isDigit
    cases powered <;> grind

theorem NumberText.nonneg (number : NumberText text value) : 0 ≤ value := by
  cases number
  exact mul_nonneg (Nat.cast_nonneg _) (zpow_nonneg (by norm_num) _)

theorem infinite_large : (2 : ℚ) ^ 100 ≤ 2 ^ 1024 :=
  pow_le_pow_right₀ one_le_two (by decide)

theorem roundToI64_ofRat (nonneg : 0 ≤ value) :
    (F64.ofRat value).roundToI64 = ⌊min (nearest value) (2 ^ 63 - 1) + 1 / 2⌋ := by
  have least := nearest_nonneg nonneg
  have largest : ⌊(2 ^ 63 - 1 : ℚ) + 1 / 2⌋ = 2 ^ 63 - 1 := by norm_num
  simp only [F64.ofRat, abs_of_nonneg nonneg, not_lt.mpr nonneg, decide_false, if_false]
  split
  · next infinite =>
    have huge := infinite_large.trans infinite
    clear infinite
    rw [min_eq_right (by linarith), largest]
    rfl
  · have start : 0 ≤ ⌊nearest value + 1 / 2⌋ := Int.floor_nonneg.mpr (by linarith)
    have split := Int.floor_mono.map_min (a := nearest value + 1 / 2) (b := 2 ^ 63 - 1 + 1 / 2)
    rw [F64.roundToI64, if_neg (not_lt.mpr least), ← min_add_add_right, split, largest,
      min_comm, max_eq_right (by omega)]

/-- A parsed number times a literal, as an integer: infinity saturates as a large number does. -/
theorem scale_ofRat_round (nonneg : 0 ≤ value) (large : 1 / 10 ^ 6 ≤ multiplier) :
    ((F64.ofRat value).scale multiplier).roundToI64 =
      ⌊doubleProduct value multiplier + 1 / 2⌋ := by
  have factor : 1 / 10 ^ 7 ≤ nearest multiplier := by
    linarith [(abs_le.mp (abs_nearest_sub_le (by linarith : 0 ≤ multiplier))).1]
  have least := nearest_nonneg nonneg
  have product := mul_nonneg least (by linarith : 0 ≤ nearest multiplier)
  by_cases infinite : 2 ^ 1024 ≤ nearest value
  · have scaled := mul_le_mul (infinite_large.trans infinite) factor (by norm_num) least
    have huge := (abs_le.mp (abs_nearest_sub_le product)).1
    rw [doubleProduct, min_eq_right (by linarith)]
    simp only [F64.ofRat, abs_of_nonneg nonneg, not_lt.mpr nonneg, if_pos infinite]
    norm_num [F64.scale, F64.roundToI64]
  · rw [doubleProduct, ← roundToI64_ofRat product]
    simp only [F64.ofRat, abs_of_nonneg nonneg, not_lt.mpr nonneg, if_neg infinite, if_false,
      F64.scale]

theorem isNearest_floor_iff :
    IsNearest (some ⌊rounded + 1 / 2⌋) value ↔ Unseparated rounded value := by
  have floor := Int.floor_le (rounded + 1 / 2)
  have next := Int.lt_floor_add_one (rounded + 1 / 2)
  constructor
  · rintro ⟨_, ⟨rfl⟩, close⟩ integer
    rcases abs_le.mp close with ⟨lower, upper⟩
    constructor
    · intro below
      have order : integer + 1 ≤ ⌊rounded + 1 / 2⌋ :=
        Int.le_floor.mpr (by push_cast; linarith)
      have cast : (integer : ℚ) + 1 ≤ ⌊rounded + 1 / 2⌋ := by exact_mod_cast order
      linarith
    · intro below
      have order : integer < ⌊rounded + 1 / 2⌋ := by
        exact_mod_cast (by linarith : (integer : ℚ) < ⌊rounded + 1 / 2⌋)
      have cast : (integer : ℚ) + 1 ≤ ⌊rounded + 1 / 2⌋ := by exact_mod_cast order
      linarith
  · intro unseparated
    have lower := (unseparated (⌊rounded + 1 / 2⌋ - 1)).1
    have upper := (unseparated ⌊rounded + 1 / 2⌋).2
    push_cast at lower
    refine ⟨_, rfl, abs_le.mpr ⟨?_, ?_⟩⟩
    · by_contra above
      linarith [upper (by linarith)]
    · linarith [lower (by linarith)]

theorem parseF64_lettered (number : NumberText text value) (unread : ¬ EndsNumeral (text ++ rest)) :
    parseF64 (text ++ rest) = none := by
  rcases splitSign_eq (text ++ rest) with ⟨sign, same, signs⟩
  unfold parseF64
  dsimp only
  split
  · next read =>
    rcases readDecimal_ends read with ⟨init, last, ended, numeral⟩
    exact absurd ⟨sign ++ init, last, by rw [same, ended, append_assoc], numeral⟩ unread
  · rcases number.last with ⟨init, last, rfl, numeral⟩
    have inside : last ∈ (splitSign (init ++ [last] ++ rest)).2 := by
      have member : last ∈ init ++ [last] ++ rest := by simp
      rw [same, mem_append] at member
      refine member.resolve_left fun leading => ?_
      rcases signs last leading with rfl | rfl <;> revert numeral <;> decide
    have small : last.toNat ≤ 57 := by
      rcases numeral with digit | rfl
      · simp only [Char.isDigit, Bool.and_eq_true, decide_eq_true_eq] at digit
        exact digit.2
      · decide
    have lower : last ∈ toAsciiLowercase (splitSign (init ++ [last] ++ rest)).2 :=
      mem_map.mpr ⟨last, inside, if_neg (by omega)⟩
    have unlike : ∀ word : Text, (word.all fun c => decide (57 < c.toNat)) = true →
        toAsciiLowercase (splitSign (init ++ [last] ++ rest)).2 ≠ word := by
      rintro _ letters rfl
      exact absurd small (not_le.mpr (of_decide_eq_true (all_eq_true.mp letters _ lower)))
    rw [if_neg (unlike _ rfl), if_neg]
    exact not_or.mpr ⟨unlike _ rfl, unlike _ rfl⟩

/-- A table and a suffix without characters that a number could have. -/
def Lettered (units : List (Text × ℚ)) (suffix : Text) : Prop :=
  ((suffix :: units.map Prod.fst).all fun ending =>
    ending.all fun c => !c.isDigit && c != '.' && !isWhitespace c) = true

theorem Lettered.letters (lettered : Lettered units suffix) :
    ∀ ending ∈ suffix :: units.map Prod.fst, ∀ c ∈ ending,
      (c.isDigit = false ∧ c ≠ '.') ∧ isWhitespace c = false := by
  simpa only [Lettered, all_eq_true, Bool.and_eq_true, Bool.not_eq_true', bne_iff_ne]
    using lettered

theorem parseQuantity_append (number : NumberText text value) (kept ending : Text)
    (lettered : Lettered units (kept ++ ending))
    (found : unitOf units unit (kept ++ ending) = (ending, multiplier)) :
    parseQuantity units unit (text ++ (kept ++ ending)) = (parseF64 (text ++ kept)).map
      fun number => (number.scale multiplier).roundToI64 := by
  have trimmed : trim (text ++ (kept ++ ending)) = text ++ (kept ++ ending) := by
    apply trimMatches_eq_self
    intro c member
    rcases mem_append.mp member with inside | inside
    · exact number.solid c inside
    · exact (lettered.letters _ mem_cons_self c inside).2
  have unitFound : unitOf units unit (text ++ (kept ++ ending)) = (ending, multiplier) := by
    rw [← found, unitOf, unitOf]
    congr 1
    apply find?_congr
    intro entry member
    exact number.endsWith_append (fun c inside => (lettered.letters entry.1
      (mem_cons_of_mem _ (mem_map_of_mem member)) c inside).1) _
  rcases number.last with ⟨init, last, spelled, -⟩
  unfold parseQuantity
  rw [trimmed, if_neg (by simp [spelled])]
  dsimp only
  rw [unitFound, ← append_assoc, take_left' (by simp only [length_append]; omega)]

/-- What a table makes of a suffix: it knows it with its multiplier, or takes it for a part of
the number. -/
def Treats (units : List (Text × ℚ)) (unit : ℚ) (known : List Text) (suffix : Text)
    (multiplier : ℚ) : Prop :=
  Lettered units suffix ∧
    if known.contains suffix then
      unitOf units unit suffix = (suffix, multiplier) ∧ 1 / 10 ^ 6 ≤ multiplier
    else suffix ≠ [] ∧ unitOf units unit suffix = ([], unit)

theorem parseQuantity_nearest_iff (number : NumberText text value)
    (treats : Treats units unit known suffix multiplier) :
    IsNearest (parseQuantity units unit (text ++ suffix)) (value * multiplier) ↔
      suffix ∈ known ∧ Unseparated (doubleProduct value multiplier) (value * multiplier) := by
  rcases treats with ⟨lettered, found⟩
  simp only [contains_iff_mem] at found
  split at found
  · next listed =>
    rcases found with ⟨found, large⟩
    have read := parseQuantity_append number [] suffix lettered found
    rw [append_nil, number.parse] at read
    rw [← isNearest_floor_iff, ← scale_ofRat_round number.nonneg large]
    simpa [listed] using iff_of_eq (congrArg (IsNearest · (value * multiplier)) read)
  · next unlisted =>
    rcases found with ⟨given, found⟩
    have unread : parseF64 (text ++ suffix) = none := parseF64_lettered number fun ends =>
      given (ends.eq_nil fun c inside => (lettered.letters _ mem_cons_self c inside).1)
    have read := parseQuantity_append number suffix []
      (by simpa using lettered) (by simpa using found)
    rw [unread, append_nil] at read
    simp [unlisted, read, IsNearest]

/-- The suffixes that each parser knows. -/
def cpuSuffixes : List Text := [[], "n", "u", "m"]

def bytesSuffixes : List Text :=
  [[], "M", "G", "T", "P", "E", "Ki", "Mi", "Gi", "Ti", "Pi", "Ei"]

/-- A quantity is read as the nearest integer exactly if its parser knows its suffix and no
half integer separates the product in doubles from the exact value. -/
theorem quantity_nearest_iff (number : NumberText text value)
    (listed : (suffix, factor) ∈ suffixes) :
    (IsNearest (parseCpuQuantity (text ++ suffix)) (value * (1000 * factor)) ↔
      suffix ∈ cpuSuffixes ∧
        Unseparated (doubleProduct value (1000 * factor)) (value * (1000 * factor))) ∧
    (IsNearest (parseBytesQuantity (text ++ suffix)) (value * factor) ↔
      suffix ∈ bytesSuffixes ∧ Unseparated (doubleProduct value factor) (value * factor)) := by
  have cpu : ∀ entry ∈ suffixes, Treats cpuUnits 1000 cpuSuffixes entry.1 (1000 * entry.2) := by
    unfold Treats Lettered
    decide +kernel
  have bytes : ∀ entry ∈ suffixes, Treats bytesUnits 1 bytesSuffixes entry.1 entry.2 := by
    unfold Treats Lettered
    decide +kernel
  exact ⟨parseQuantity_nearest_iff number (cpu _ listed),
    parseQuantity_nearest_iff number (bytes _ listed)⟩

theorem seven_exbibytes : IsNearest (parseBytesQuantity "7Ei") (7 * 2 ^ 60) := by
  have number := @NumberText.intro [] "7" [] [] [] 0 (by decide) (by decide)
    (all_eq_true.mp rfl) (.inr ⟨rfl, rfl⟩) .absent
  have value : (natValue ("7".toList ++ []) : ℚ) * 10 ^ ((0 : ℤ) - ([] : Text).length) = 7 := by
    decide +kernel
  have product : doubleProduct 7 (2 ^ 60) = 7 * 2 ^ 60 := by decide +kernel
  rw [value] at number
  refine (quantity_nearest_iff number (by decide +kernel :
    ("Ei".toList, (2 ^ 60 : ℚ)) ∈ suffixes)).2.mpr ⟨by decide, ?_⟩
  rw [product]
  exact fun _ => ⟨id, le_of_lt⟩

theorem kilo_unread : parseCpuQuantity "1k" = none ∧ parseBytesQuantity "1k" = none := by
  decide +kernel

end PertiskProxy.Api
