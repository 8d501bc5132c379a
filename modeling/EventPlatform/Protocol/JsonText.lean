import EventPlatform.Protocol.Validators

/-! # JSON text

What `json.dumps` writes and `json.loads` reads.  A value without duplicate keys is
read back from what was written for it. -/

namespace EventPlatform.Protocol

open EventPlatform.Lib

/-! ## Writing -/

/-- `\uXXXX`, the escape of one UTF-16 code unit. -/
def escapeUnit (unit : Nat) : List Char :=
  ['\\', 'u', Nat.digitChar (unit / 4096), Nat.digitChar (unit / 256 % 16),
    Nat.digitChar (unit / 16 % 16), Nat.digitChar (unit % 16)]

/-- With `ensure_ascii` everything outside printable ASCII is escaped. -/
def escapeJson (c : Char) : List Char :=
  if c = '"' then ['\\', '"']
  else if c = '\\' then ['\\', '\\']
  else if c = '\n' then ['\\', 'n']
  else if c = '\r' then ['\\', 'r']
  else if c = '\t' then ['\\', 't']
  else if c = '\x08' then ['\\', 'b']
  else if c = '\x0c' then ['\\', 'f']
  else if 32 ≤ c.toNat ∧ c.toNat ≤ 126 then [c]
  else if c.toNat < 0x10000 then escapeUnit c.toNat
  else
    escapeUnit (0xD800 + (c.toNat - 0x10000) / 1024) ++ escapeUnit (0xDC00 + (c.toNat - 0x10000) % 1024)

def dumpsStr (s : String) : List Char := '"' :: (s.toList.flatMap escapeJson ++ ['"'])

def dumpsNat (n : Nat) : List Char :=
  if n = 0 then ['0'] else (Nat.digits 10 n).reverse.map Nat.digitChar

def dumpsInt : Int → List Char
  | .ofNat n => dumpsNat n
  | .negSucc n => '-' :: dumpsNat (n + 1)

mutual

def dumpsValue : Json → List Char
  | .null => ['n', 'u', 'l', 'l']
  | .bool true => ['t', 'r', 'u', 'e']
  | .bool false => ['f', 'a', 'l', 's', 'e']
  | .int value => dumpsInt value
  | .float text => text.toList
  | .str value => dumpsStr value
  | .list [] => ['[', ']']
  | .list (item :: items) => '[' :: (dumpsValue item ++ dumpsItems items)
  | .dict [] => ['\x7b', '\x7d']
  | .dict ((key, value) :: fields) =>
    '\x7b' :: (dumpsStr key ++ ':' :: ' ' :: (dumpsValue value ++ dumpsFields fields))

def dumpsItems : List Json → List Char
  | [] => [']']
  | item :: items => ',' :: ' ' :: (dumpsValue item ++ dumpsItems items)

def dumpsFields : List (String × Json) → List Char
  | [] => ['\x7d']
  | (key, value) :: fields =>
    ',' :: ' ' :: (dumpsStr key ++ ':' :: ' ' :: (dumpsValue value ++ dumpsFields fields))

end

def dumps (value : Json) : String := String.ofList (dumpsValue value)

/-! ## Reading

A reader returns what is left of the text; `fuel` bounds the depth and the length of
what it reads. -/

abbrev Reader (α : Type) := List Char → Option (α × List Char)

def isJsonSpace (c : Char) : Bool := c = ' ' ∨ c = '\t' ∨ c = '\n' ∨ c = '\r'

def skipSpace (cs : List Char) : List Char := cs.dropWhile isJsonSpace

def hexValue (c : Char) : Option Nat :=
  if c.isDigit then some (c.toNat - 48)
  else if 'a' ≤ c ∧ c ≤ 'f' then some (c.toNat - 87)
  else if 'A' ≤ c ∧ c ≤ 'F' then some (c.toNat - 55)
  else none

/-- The four digits of `\uXXXX`. -/
def readUnit : Reader Nat
  | a :: b :: c :: d :: rest => do
    return (4096 * (← hexValue a) + 256 * (← hexValue b) + 16 * (← hexValue c) + (← hexValue d), rest)
  | _ => none

/-- What follows a backslash.  Two escaped surrogates are one character; a lone one
    has no counterpart among the characters here and is replaced. -/
def readEscape : Reader Char
  | '"' :: rest => some ('"', rest)
  | '\\' :: rest => some ('\\', rest)
  | '/' :: rest => some ('/', rest)
  | 'b' :: rest => some ('\x08', rest)
  | 'f' :: rest => some ('\x0c', rest)
  | 'n' :: rest => some ('\n', rest)
  | 'r' :: rest => some ('\r', rest)
  | 't' :: rest => some ('\t', rest)
  | 'u' :: rest => do
    let (unit, rest) ← readUnit rest
    if unit < 0xD800 ∨ 0xDFFF < unit then return (Char.ofNat unit, rest)
    match rest with
    | '\\' :: 'u' :: low =>
      let (second, after) ← readUnit low
      if unit < 0xDC00 ∧ 0xDC00 ≤ second ∧ second ≤ 0xDFFF then
        return (Char.ofNat (0x10000 + 1024 * (unit - 0xD800) + (second - 0xDC00)), after)
      else return ('\uFFFD', rest)
    | _ => return ('\uFFFD', rest)
  | _ => none

/-- The characters of a string up to its closing quote. -/
def readChars : Nat → Reader (List Char)
  | 0, _ => none
  | _ + 1, [] => none
  | _ + 1, '"' :: rest => some ([], rest)
  | fuel + 1, '\\' :: rest => do
    let (c, rest) ← readEscape rest
    let (cs, rest) ← readChars fuel rest
    return (c :: cs, rest)
  | fuel + 1, c :: rest => do
    if c.toNat < 32 then none
    let (cs, rest) ← readChars fuel rest
    return (c :: cs, rest)

/-- `-?(0|[1-9][0-9]*)` -/
def readIntText (cs : List Char) : Option (List Char × List Char) :=
  let (sign, cs) := match cs with
    | '-' :: rest => (['-'], rest)
    | _ => ([], cs)
  match cs with
  | '0' :: rest => some (sign ++ ['0'], rest)
  | _ =>
    let (digits, rest) := cs.span (·.isDigit)
    if digits = [] then none else some (sign ++ digits, rest)

/-- `(\.[0-9]+)?` -/
def readFraction : List Char → List Char × List Char
  | '.' :: rest =>
    let (digits, after) := rest.span (·.isDigit)
    if digits = [] then ([], '.' :: rest) else ('.' :: digits, after)
  | cs => ([], cs)

/-- `([eE][-+]?[0-9]+)?` -/
def readExponent : List Char → List Char × List Char
  | [] => ([], [])
  | e :: rest =>
    if e = 'e' ∨ e = 'E' then
      let (sign, rest') := match rest with
        | '-' :: rest => (['-'], rest)
        | '+' :: rest => (['+'], rest)
        | _ => ([], rest)
      let (digits, after) := rest'.span (·.isDigit)
      if digits = [] then ([], e :: rest) else (e :: (sign ++ digits), after)
    else ([], e :: rest)

def natOfDigits (digits : List Char) : Nat := digits.foldl (fun n c => 10 * n + (c.toNat - 48)) 0

def intOfText : List Char → Int
  | '-' :: digits => -(natOfDigits digits : Int)
  | digits => natOfDigits digits

def readNumber (cs : List Char) : Option (Json × List Char) := do
  let (integer, rest) ← readIntText cs
  let (fraction, rest) := readFraction rest
  let (exponent, rest) := readExponent rest
  if fraction = [] ∧ exponent = [] then return (.int (intOfText integer), rest)
  else return (.float (String.ofList (integer ++ fraction ++ exponent)), rest)

mutual

/-- `scan_once` -/
def readValue : Nat → Reader Json
  | 0, _ => none
  | fuel + 1, '"' :: rest => do
    let (cs, rest) ← readChars fuel rest
    return (.str (String.ofList cs), rest)
  | fuel + 1, '[' :: rest =>
    match skipSpace rest with
    | ']' :: rest => some (.list [], rest)
    | rest => do
      let (item, rest) ← readValue fuel rest
      let (items, rest) ← readItems fuel (skipSpace rest)
      return (.list (item :: items), rest)
  | fuel + 1, '\x7b' :: rest =>
    match skipSpace rest with
    | '\x7d' :: rest => some (.dict [], rest)
    | rest => do
      let (field, rest) ← readField fuel rest
      let (fields, rest) ← readFields fuel (skipSpace rest)
      -- a key that comes again overwrites its value
      return (.dict ((field :: fields).foldl (fun d f => Dict.set f.1 f.2 d) []), rest)
  | _ + 1, 'n' :: 'u' :: 'l' :: 'l' :: rest => some (.null, rest)
  | _ + 1, 't' :: 'r' :: 'u' :: 'e' :: rest => some (.bool true, rest)
  | _ + 1, 'f' :: 'a' :: 'l' :: 's' :: 'e' :: rest => some (.bool false, rest)
  | _ + 1, 'N' :: 'a' :: 'N' :: rest => some (.float "NaN", rest)
  | _ + 1, 'I' :: 'n' :: 'f' :: 'i' :: 'n' :: 'i' :: 't' :: 'y' :: rest => some (.float "Infinity", rest)
  | _ + 1, '-' :: 'I' :: 'n' :: 'f' :: 'i' :: 'n' :: 'i' :: 't' :: 'y' :: rest =>
    some (.float "-Infinity", rest)
  | _ + 1, cs => readNumber cs

def readItems : Nat → Reader (List Json)
  | 0, _ => none
  | _ + 1, ']' :: rest => some ([], rest)
  | fuel + 1, ',' :: rest => do
    let (item, rest) ← readValue fuel (skipSpace rest)
    let (items, rest) ← readItems fuel (skipSpace rest)
    return (item :: items, rest)
  | _ + 1, _ => none

def readField : Nat → Reader (String × Json)
  | 0, _ => none
  | fuel + 1, '"' :: rest => do
    let (key, rest) ← readChars fuel rest
    match skipSpace rest with
    | ':' :: rest =>
      let (value, rest) ← readValue fuel (skipSpace rest)
      return ((String.ofList key, value), rest)
    | _ => none
  | _ + 1, _ => none

def readFields : Nat → Reader (List (String × Json))
  | 0, _ => none
  | _ + 1, '\x7d' :: rest => some ([], rest)
  | fuel + 1, ',' :: rest => do
    let (field, rest) ← readField fuel (skipSpace rest)
    let (fields, rest) ← readFields fuel (skipSpace rest)
    return (field :: fields, rest)
  | _ + 1, _ => none

end

/-- `json.loads`; the text of an error is kept short. -/
def loads (text : String) : Except String Json :=
  match readValue (text.toList.length + 1) (skipSpace text.toList) with
  | none => .error "Expecting value"
  | some (value, rest) => if skipSpace rest = [] then .ok value else .error "Extra data"

/-! ## Strings -/

variable {fuel : Nat} {rest : List Char}

theorem hexValue_digitChar : ∀ d < 16, hexValue (Nat.digitChar d) = some d := by
  decide

theorem readUnit_escapeUnit {unit : Nat} (small : unit < 65536) :
    readUnit (Nat.digitChar (unit / 4096) :: Nat.digitChar (unit / 256 % 16) ::
      Nat.digitChar (unit / 16 % 16) :: Nat.digitChar (unit % 16) :: rest) = some (unit, rest) := by
  have sum : 4096 * (unit / 4096) + 256 * (unit / 256 % 16) + 16 * (unit / 16 % 16) + unit % 16 = unit := by
    omega
  simp only [readUnit, hexValue_digitChar (unit / 4096) (by omega),
    hexValue_digitChar (unit / 256 % 16) (by omega), hexValue_digitChar (unit / 16 % 16) (by omega),
    hexValue_digitChar (unit % 16) (by omega)]
  simp [sum]

theorem not_surrogate (c : Char) : c.toNat < 0xD800 ∨ 0xDFFF < c.toNat := by
  have valid := c.valid
  simp only [UInt32.isValidChar, Nat.isValidChar] at valid
  exact valid.imp_right And.left

theorem toNat_le (c : Char) : c.toNat ≤ 0x10FFFF := by
  have valid := c.valid
  simp only [UInt32.isValidChar, Nat.isValidChar] at valid
  have same : c.toNat = c.val.toNat := rfl
  omega

theorem readEscape_unit {unit : Nat} (small : unit < 65536) (scalar : unit < 0xD800 ∨ 0xDFFF < unit) :
    readEscape ((escapeUnit unit).tail ++ rest) = some (Char.ofNat unit, rest) := by
  simp only [escapeUnit, List.tail_cons, List.cons_append, List.nil_append, readEscape,
    readUnit_escapeUnit small]
  simp [scalar]

theorem readEscape_surrogates {high low : Nat} (first : 0xD800 ≤ high ∧ high < 0xDC00)
    (second : 0xDC00 ≤ low ∧ low ≤ 0xDFFF) :
    readEscape ((escapeUnit high).tail ++ (escapeUnit low ++ rest)) =
      some (Char.ofNat (0x10000 + 1024 * (high - 0xD800) + (low - 0xDC00)), rest) := by
  have notScalar : ¬ (high < 0xD800 ∨ 0xDFFF < high) := by omega
  have pair : high < 0xDC00 ∧ 0xDC00 ≤ low ∧ low ≤ 0xDFFF := ⟨first.2, second⟩
  simp only [escapeUnit, List.tail_cons, List.cons_append, List.nil_append, readEscape,
    readUnit_escapeUnit (show high < 65536 by omega), readUnit_escapeUnit (show low < 65536 by omega),
    Option.bind_eq_bind, Option.bind_some, notScalar, pair, if_false, if_true, Option.pure_def,
    and_self]

theorem readChars_escape {c : Char} {cs : List Char}
    (escaped : readEscape cs = some (c, rest)) : readChars (fuel + 1) ('\\' :: cs) =
      (readChars fuel rest).map fun p => (c :: p.1, p.2) := by
  simp only [readChars, escaped, Option.bind_eq_bind, Option.bind_some]
  cases readChars fuel rest <;> rfl

theorem readChars_plain {c : Char} (quote : c ≠ '"') (backslash : c ≠ '\\') (printable : 32 ≤ c.toNat) :
    readChars (fuel + 1) (c :: rest) = (readChars fuel rest).map fun p => (c :: p.1, p.2) := by
  rw [readChars.eq_5 _ _ _ quote backslash, if_neg (by omega)]
  cases readChars fuel rest <;> rfl

theorem readChars_escapeJson (c : Char) : readChars (fuel + 1) (escapeJson c ++ rest) =
    (readChars fuel rest).map fun p => (c :: p.1, p.2) := by
  simp only [escapeJson]
  split
  · subst c; exact readChars_escape rfl
  split
  · subst c; exact readChars_escape rfl
  split
  · subst c; exact readChars_escape rfl
  split
  · subst c; exact readChars_escape rfl
  split
  · subst c; exact readChars_escape rfl
  split
  · subst c; exact readChars_escape rfl
  split
  · subst c; exact readChars_escape rfl
  next quote backslash _ _ _ _ _ =>
  split
  next printable => exact readChars_plain quote backslash printable.1
  next =>
  split
  next small =>
    have unit := @readEscape_unit rest _ small (not_surrogate c)
    rw [Char.ofNat_toNat] at unit
    exact readChars_escape unit
  -- beyond the basic plane the character is written as two surrogates
  next large =>
    have upper := toNat_le c
    have pair := @readEscape_surrogates rest (0xD800 + (c.toNat - 0x10000) / 1024)
      (0xDC00 + (c.toNat - 0x10000) % 1024) (by omega) (by omega)
    have sum : 0x10000 + 1024 * (0xD800 + (c.toNat - 0x10000) / 1024 - 0xD800) +
        (0xDC00 + (c.toNat - 0x10000) % 1024 - 0xDC00) = c.toNat := by
      omega
    rw [sum, Char.ofNat_toNat] at pair
    rw [List.append_assoc]
    exact readChars_escape pair

theorem readChars_dumpsStr (cs : List Char) (enough : cs.length < fuel) :
    readChars fuel (cs.flatMap escapeJson ++ '"' :: rest) = some (cs, rest) := by
  induction cs generalizing fuel with
  | nil =>
    cases fuel with
    | zero => simp at enough
    | succ fuel => simp [readChars]
  | cons c cs ih =>
    cases fuel with
    | zero => simp at enough
    | succ fuel =>
      rw [List.flatMap_cons, List.append_assoc, readChars_escapeJson, ih (by simpa using enough)]
      rfl

theorem length_le_flatMap_escapeJson (cs : List Char) : cs.length ≤ (cs.flatMap escapeJson).length := by
  induction cs with
  | nil => simp
  | cons c cs ih =>
    have one : 1 ≤ (escapeJson c).length := by
      simp only [escapeJson]
      split_ifs <;> simp [escapeUnit]
    rw [List.flatMap_cons, List.length_append, List.length_cons]
    omega

/-! ## Numbers -/

/-- What may follow a number that is written: nothing that would lengthen it. -/
def Ends (rest : List Char) : Prop := ∀ c ∈ rest.head?, c = ',' ∨ c = ']' ∨ c = '\x7d'

def Digits (cs : List Char) : Prop := cs ≠ [] ∧ ∀ c ∈ cs, c.isDigit = true

/-- The fraction and the exponent that `float.__repr__` writes. -/
def IsFraction (cs : List Char) : Prop := cs = [] ∨ ∃ digits, Digits digits ∧ cs = '.' :: digits

def IsExponent (cs : List Char) : Prop :=
  cs = [] ∨ ∃ sign digits, (sign = ['-'] ∨ sign = ['+']) ∧ Digits digits ∧ cs = 'e' :: (sign ++ digits)

def IsFloat (text : List Char) : Prop :=
  ∃ sign integer fraction exponent, (sign = [] ∨ sign = ['-']) ∧ IsFraction fraction ∧
    IsExponent exponent ∧ ¬ (fraction = [] ∧ exponent = []) ∧
    text = sign ++ dumpsNat integer ++ fraction ++ exponent

theorem span_digits {digits : List Char} (all : ∀ c ∈ digits, c.isDigit = true)
    (stops : ∀ c ∈ rest.head?, c.isDigit = false) :
    (digits ++ rest).span (·.isDigit) = (digits, rest) := by
  rw [List.span_eq_takeWhile_dropWhile, List.takeWhile_append_of_pos all, List.dropWhile_append_of_pos all]
  cases rest with
  | nil => simp
  | cons c rest => simp [stops c (by simp)]

theorem isDigit_digitChar : ∀ d < 10, (Nat.digitChar d).isDigit = true := by
  decide

theorem toNat_digitChar : ∀ d < 10, (Nat.digitChar d).toNat - 48 = d := by
  decide

theorem isDigit_dumpsNat (n : Nat) : ∀ c ∈ dumpsNat n, c.isDigit = true := by
  simp only [dumpsNat]
  split
  · intro c member
    rw [List.mem_singleton.mp member]
    rfl
  · intro c member
    obtain ⟨d, inDigits, rfl⟩ := List.mem_map.mp member
    exact isDigit_digitChar d (Nat.digits_lt_base (by decide) (List.mem_reverse.mp inDigits))

theorem dumpsNat_ne_nil (n : Nat) : dumpsNat n ≠ [] := by
  simp only [dumpsNat]
  split
  · decide
  next nonzero => simpa [Nat.digits_eq_nil_iff_eq_zero] using nonzero

/-- A number but zero does not begin with a zero. -/
theorem head_dumpsNat {n : Nat} (nonzero : n ≠ 0) : (dumpsNat n).head? ≠ some '0' := by
  have nonempty : Nat.digits 10 n ≠ [] := Nat.digits_ne_nil_iff_ne_zero.mpr nonzero
  rw [dumpsNat, if_neg nonzero, List.head?_map, List.head?_reverse, List.getLast?_eq_getLast_of_ne_nil nonempty]
  have leading := Nat.getLast_digit_ne_zero 10 nonzero
  have small : (Nat.digits 10 n).getLast nonempty < 10 :=
    Nat.digits_lt_base (by decide) (List.getLast_mem nonempty)
  revert leading small
  generalize (Nat.digits 10 n).getLast nonempty = d
  intro leading small
  interval_cases d <;> first | exact absurd rfl leading | decide

theorem natOfDigits_map (ds : List Nat) (small : ∀ d ∈ ds, d < 10) :
    natOfDigits (ds.reverse.map Nat.digitChar) = Nat.ofDigits 10 ds := by
  induction ds with
  | nil => rfl
  | cons d ds ih =>
    have rest := ih fun d member => small d (List.mem_cons_of_mem _ member)
    rw [natOfDigits] at rest ⊢
    rw [List.reverse_cons, List.map_append, List.foldl_append, rest, Nat.ofDigits_cons]
    simp only [List.map_cons, List.map_nil, List.foldl_cons, List.foldl_nil,
      toNat_digitChar d (small d List.mem_cons_self)]
    omega

theorem natOfDigits_dumpsNat (n : Nat) : natOfDigits (dumpsNat n) = n := by
  simp only [dumpsNat]
  split
  next zero => rw [zero]; rfl
  next => rw [natOfDigits_map _ fun d member => Nat.digits_lt_base (by decide) member, Nat.ofDigits_digits]

/-- Digits are read as they are: no sign comes before them. -/
theorem intOfText_digits {digits : List Char} (all : ∀ c ∈ digits, c.isDigit = true) :
    intOfText digits = natOfDigits digits := by
  cases digits with
  | nil => rfl
  | cons c cs =>
    have digit := all c List.mem_cons_self
    rw [intOfText.eq_2]
    intro cs same
    rw [(List.cons.inj same).1] at digit
    exact absurd digit (by decide)

theorem intOfText_dumpsInt (value : Int) : intOfText (dumpsInt value) = value := by
  cases value with
  | ofNat n =>
    rw [dumpsInt, intOfText_digits (isDigit_dumpsNat n), natOfDigits_dumpsNat]
    rfl
  | negSucc n =>
    rw [dumpsInt, intOfText, natOfDigits_dumpsNat]
    rfl

theorem Ends.not_digit (ends : Ends rest) : ∀ c ∈ rest.head?, c.isDigit = false := by
  intro c head
  rcases ends c head with rfl | rfl | rfl <;> rfl

theorem readFraction_append {fraction : List Char} (isFraction : IsFraction fraction)
    (stops : ∀ c ∈ rest.head?, c.isDigit = false ∧ c ≠ '.') :
    readFraction (fraction ++ rest) = (fraction, rest) := by
  rcases isFraction with rfl | ⟨digits, isDigits, rfl⟩
  · cases rest with
    | nil => rfl
    | cons c rest =>
      have point := (stops c rfl).2
      rw [List.nil_append, readFraction.eq_2]
      rintro rest same
      exact absurd (List.cons.inj same).1 point
  · simp only [List.cons_append, readFraction, span_digits isDigits.2 fun c head => (stops c head).1,
      if_neg isDigits.1]

theorem readExponent_append {exponent : List Char} (isExponent : IsExponent exponent) (ends : Ends rest) :
    readExponent (exponent ++ rest) = (exponent, rest) := by
  rcases isExponent with rfl | ⟨sign, digits, signs, isDigits, rfl⟩
  · cases rest with
    | nil => rfl
    | cons c rest =>
      have other : ¬ (c = 'e' ∨ c = 'E') := by
        rcases ends c rfl with rfl | rfl | rfl <;> decide
      simp only [List.nil_append, readExponent, if_neg other]
  · have span := span_digits isDigits.2 ends.not_digit
    rcases signs with rfl | rfl <;>
    simp only [List.cons_append, List.nil_append, readExponent, true_or, if_true, span,
      if_neg isDigits.1]

theorem readIntText_dumpsNat (sign : List Char) (signs : sign = [] ∨ sign = ['-']) (n : Nat)
    (stops : ∀ c ∈ rest.head?, c.isDigit = false) :
    readIntText (sign ++ dumpsNat n ++ rest) = some (sign ++ dumpsNat n, rest) := by
  -- the sign is taken off first
  have digitsFirst : (match sign ++ dumpsNat n ++ rest with
      | '-' :: rest => (['-'], rest)
      | _ => ([], sign ++ dumpsNat n ++ rest)) = (sign, dumpsNat n ++ rest) := by
    rcases signs with rfl | rfl
    · cases text : dumpsNat n with
      | nil => exact absurd text (dumpsNat_ne_nil n)
      | cons c cs =>
        have digit := isDigit_dumpsNat n c (by simp [text])
        simp only [List.nil_append, List.cons_append]
        split
        next same =>
          rw [(List.cons.inj same).1] at digit
          exact absurd digit (by decide)
        next => rfl
    · rfl
  simp only [readIntText]
  rw [digitsFirst]
  by_cases zero : n = 0
  · subst zero
    rfl
  · have head := head_dumpsNat zero
    have span := span_digits (isDigit_dumpsNat n) stops
    cases text : dumpsNat n with
    | nil => exact absurd text (dumpsNat_ne_nil n)
    | cons c cs =>
      rw [text] at head span
      simp only [List.cons_append] at span ⊢
      split
      next same => exact absurd (congrArg some (List.cons.inj same).1) head
      next => simp only [span, if_neg (List.cons_ne_nil c cs)]

theorem readNumber_append {sign fraction exponent : List Char} (signs : sign = [] ∨ sign = ['-']) (n : Nat)
    (isFraction : IsFraction fraction) (isExponent : IsExponent exponent) (ends : Ends rest) :
    readNumber (sign ++ dumpsNat n ++ fraction ++ exponent ++ rest) =
      some (if fraction = [] ∧ exponent = [] then .int (intOfText (sign ++ dumpsNat n))
        else .float (String.ofList (sign ++ dumpsNat n ++ fraction ++ exponent)), rest) := by
  have afterExponent : ∀ c ∈ (exponent ++ rest).head?, c.isDigit = false ∧ c ≠ '.' := by
    rcases isExponent with rfl | ⟨_, _, _, _, rfl⟩
    · intro c head
      rcases ends c head with rfl | rfl | rfl <;> decide
    · simp
  have afterFraction : ∀ c ∈ (fraction ++ (exponent ++ rest)).head?, c.isDigit = false := by
    rcases isFraction with rfl | ⟨_, _, rfl⟩
    · exact fun c head => (afterExponent c head).1
    · simp
  rw [List.append_assoc, List.append_assoc _ fraction]
  simp only [readNumber, readIntText_dumpsNat sign signs n afterFraction, Option.bind_eq_bind,
    Option.bind_some, readFraction_append isFraction afterExponent, readExponent_append isExponent ends]
  split <;> rfl

/-! ## Values -/

mutual

/-- A value as `json.dumps` can write it: no key occurs twice in an object, and a
    float is a literal. -/
def Json.Proper : Json → Prop
  | .null | .bool _ | .int _ | .str _ => True
  | .float text => IsFloat text.toList
  | .list items => properItems items
  | .dict fields => (fields.map (·.1)).Nodup ∧ properFields fields

def properItems : List Json → Prop
  | [] => True
  | item :: items => item.Proper ∧ properItems items

def properFields : List (String × Json) → Prop
  | [] => True
  | (_, value) :: fields => value.Proper ∧ properFields fields

end

/-- A value that is written begins with a character that no reader skips. -/
theorem dumpsValue_head {value : Json} (proper : value.Proper) :
    ∃ c cs, dumpsValue value = c :: cs ∧ isJsonSpace c = false ∧ c ≠ ']' := by
  -- a number begins with a digit, which is no space and no bracket
  have number : ∀ n, ∃ c cs, dumpsNat n = c :: cs ∧ isJsonSpace c = false ∧ c ≠ ']' := by
    intro n
    cases text : dumpsNat n with
    | nil => exact absurd text (dumpsNat_ne_nil n)
    | cons c cs =>
      have digit := isDigit_dumpsNat n c (by simp [text])
      refine ⟨c, cs, rfl, ?_, ?_⟩
      · simp only [isJsonSpace, decide_eq_false_iff_not]
        rintro (rfl | rfl | rfl | rfl) <;> exact absurd digit (by decide)
      · rintro rfl
        exact absurd digit (by decide)
  cases value with
  | null => exact ⟨_, _, rfl, rfl, by decide⟩
  | bool value => cases value <;> exact ⟨_, _, rfl, rfl, by decide⟩
  | int value =>
    cases value with
    | ofNat n => exact number n
    | negSucc n => exact ⟨_, _, rfl, rfl, by decide⟩
  | float text =>
    obtain ⟨sign, integer, fraction, exponent, signs, _, _, _, parts⟩ := proper
    rw [dumpsValue, parts]
    rcases signs with rfl | rfl
    · obtain ⟨c, cs, text, skipped, other⟩ := number integer
      exact ⟨c, cs ++ fraction ++ exponent, by simp [text], skipped, other⟩
    · exact ⟨_, _, rfl, rfl, by decide⟩
  | str value => exact ⟨_, _, rfl, rfl, by decide⟩
  | list items => cases items <;> exact ⟨_, _, rfl, rfl, by decide⟩
  | dict fields =>
    cases fields with
    | nil => exact ⟨_, _, rfl, rfl, by decide⟩
    | cons field fields => exact ⟨_, _, rfl, rfl, by decide⟩

theorem skipSpace_dumpsValue {value : Json} (proper : value.Proper) :
    skipSpace (dumpsValue value ++ rest) = dumpsValue value ++ rest := by
  obtain ⟨c, cs, text, skipped, _⟩ := dumpsValue_head proper
  rw [text, List.cons_append, skipSpace, List.dropWhile_cons_of_neg (by simp [skipped])]

theorem skipSpace_ends (ends : Ends rest) : skipSpace rest = rest := by
  cases rest with
  | nil => rfl
  | cons c rest =>
    rcases ends c rfl with rfl | rfl | rfl <;> rfl

/-- A sign or a digit begins a number. -/
theorem readValue_number {c : Char} {cs : List Char}
    (begins : c.isDigit = true ∨ c = '-' ∧ ∀ next ∈ cs.head?, next.isDigit = true) :
    readValue (fuel + 1) (c :: cs) = readNumber (c :: cs) := by
  have first : c ≠ '"' ∧ c ≠ '[' ∧ c ≠ '\x7b' ∧ c ≠ 'n' ∧ c ≠ 't' ∧ c ≠ 'f' ∧ c ≠ 'N' ∧ c ≠ 'I' := by
    rcases begins with digit | ⟨rfl, _⟩
    · refine ⟨?_, ?_, ?_, ?_, ?_, ?_, ?_, ?_⟩ <;> (rintro rfl; exact absurd digit (by decide))
    · decide
  obtain ⟨quote, bracket, brace, n, t, f, nan, infinity⟩ := first
  rw [readValue.eq_11]
  all_goals intro rest same
  all_goals obtain ⟨rfl, rfl⟩ := List.cons.inj same
  all_goals try contradiction
  -- minus infinity has no digit after its sign
  rcases begins with digit | ⟨_, digit⟩
  · exact absurd digit (by decide)
  · exact absurd (digit 'I' rfl) (by decide)

theorem readValue_signed {sign fraction exponent : List Char} (signs : sign = [] ∨ sign = ['-']) (n : Nat)
    (isFraction : IsFraction fraction) (isExponent : IsExponent exponent) (ends : Ends rest) :
    readValue (fuel + 1) (sign ++ dumpsNat n ++ fraction ++ exponent ++ rest) =
      some (if fraction = [] ∧ exponent = [] then .int (intOfText (sign ++ dumpsNat n))
        else .float (String.ofList (sign ++ dumpsNat n ++ fraction ++ exponent)), rest) := by
  rw [← readNumber_append signs n isFraction isExponent ends]
  cases text : dumpsNat n with
  | nil => exact absurd text (dumpsNat_ne_nil n)
  | cons c cs =>
    have digit := isDigit_dumpsNat n c (by simp [text])
    rcases signs with rfl | rfl
    · exact readValue_number (.inl digit)
    · refine readValue_number (.inr ⟨rfl, ?_⟩)
      simpa using digit

theorem ends_dumpsItems (items : List Json) (rest : List Char) : Ends (dumpsItems items ++ rest) := by
  cases items with
  | nil => simp [dumpsItems, Ends]
  | cons item items => simp [dumpsItems, Ends]

theorem ends_dumpsFields (fields : List (String × Json)) (rest : List Char) : Ends (dumpsFields fields ++ rest) := by
  cases fields with
  | nil => simp [dumpsFields, Ends]
  | cons field fields =>
    obtain ⟨key, value⟩ := field
    simp [dumpsFields, Ends]

theorem readField_dumps {key : String} {value : Json} (proper : value.Proper)
    (enough : (dumpsStr key).length ≤ fuel)
    (read : readValue fuel (dumpsValue value ++ rest) = some (value, rest)) :
    readField (fuel + 1) (dumpsStr key ++ ':' :: ' ' :: (dumpsValue value ++ rest)) =
      some ((key, value), rest) := by
  have long := length_le_flatMap_escapeJson key.toList
  have short : key.toList.length < fuel := by
    simp only [dumpsStr, List.length_cons, List.length_append, List.length_nil] at enough
    omega
  have after : skipSpace (' ' :: (dumpsValue value ++ rest)) = dumpsValue value ++ rest :=
    skipSpace_dumpsValue proper
  have colon : skipSpace (':' :: ' ' :: (dumpsValue value ++ rest)) =
      ':' :: ' ' :: (dumpsValue value ++ rest) := rfl
  simp only [dumpsStr, List.cons_append, List.append_assoc, List.nil_append, readField,
    readChars_dumpsStr key.toList short, Option.bind_eq_bind, Option.bind_some, colon, after, read,
    String.ofList_toList]
  rfl

mutual

/-- What is written for a value is read as this value, whatever comes after it. -/
theorem readValue_dumps : ∀ (value : Json) (fuel : Nat) (rest : List Char), value.Proper →
    (dumpsValue value).length ≤ fuel → Ends rest →
    readValue fuel (dumpsValue value ++ rest) = some (value, rest)
  | .null, fuel + 1, rest, _, _, _ => rfl
  | .bool true, fuel + 1, rest, _, _, _ => rfl
  | .bool false, fuel + 1, rest, _, _, _ => rfl
  | .int (.ofNat n), fuel + 1, rest, _, _, ends => by
    have read := @readValue_signed fuel rest [] [] [] (.inl rfl) n (.inl rfl) (.inl rfl) ends
    have value := intOfText_dumpsInt (.ofNat n)
    rw [dumpsInt] at value
    simpa [dumpsValue, dumpsInt, value] using read
  | .int (.negSucc n), fuel + 1, rest, _, _, ends => by
    have read := @readValue_signed fuel rest ['-'] [] [] (.inr rfl) (n + 1) (.inl rfl) (.inl rfl) ends
    have value := intOfText_dumpsInt (.negSucc n)
    rw [dumpsInt] at value
    simpa [dumpsValue, dumpsInt, value] using read
  | .float text, fuel + 1, rest, proper, _, ends => by
    obtain ⟨sign, integer, fraction, exponent, signs, isFraction, isExponent, some_, parts⟩ := proper
    have read := @readValue_signed fuel rest _ _ _ signs integer isFraction isExponent ends
    rw [if_neg some_, ← parts, String.ofList_toList] at read
    rw [dumpsValue]
    exact read
  | .str value, fuel + 1, rest, _, enough, _ => by
    have long := length_le_flatMap_escapeJson value.toList
    have short : value.toList.length < fuel := by
      simp only [dumpsValue, dumpsStr, List.length_cons, List.length_append, List.length_nil] at enough
      omega
    simp only [dumpsValue, dumpsStr, List.cons_append, List.append_assoc, List.nil_append, readValue,
      readChars_dumpsStr value.toList short, Option.bind_eq_bind, Option.bind_some, String.ofList_toList]
    rfl
  | .list [], fuel + 1, rest, _, _, _ => rfl
  | .list (item :: items), fuel + 1, rest, proper, enough, _ => by
    obtain ⟨first, others⟩ := proper
    simp only [dumpsValue, List.length_cons, List.length_append] at enough
    have ends := ends_dumpsItems items rest
    have read := readValue_dumps item fuel (dumpsItems items ++ rest) first (by omega) ends
    have more := readItems_dumps items fuel rest others (by omega)
    obtain ⟨c, cs, text, skipped, open_⟩ := dumpsValue_head first
    simp only [dumpsValue, List.cons_append, List.append_assoc, readValue, skipSpace_dumpsValue first]
    rw [text, List.cons_append] at read ⊢
    split
    -- the first character of an item does not close the list
    next same => exact absurd (List.cons.inj same).1 open_
    next =>
      simp only [read, Option.bind_eq_bind, Option.bind_some, skipSpace_ends ends, more]
      rfl
  | .dict [], fuel + 1, rest, _, _, _ => rfl
  | .dict ((key, value) :: fields), fuel + 1, rest, proper, enough, _ => by
    obtain ⟨nodup, first, others⟩ := proper
    simp only [dumpsValue, List.length_cons, List.length_append] at enough
    have ends := ends_dumpsFields fields rest
    cases fuel with
    | zero => omega
    | succ fuel =>
      have read := readValue_dumps value fuel (dumpsFields fields ++ rest) first (by omega) ends
      have field := @readField_dumps fuel _ key value first (by omega) read
      have more := readFields_dumps fields (fuel + 1) rest others (by omega)
      -- the keys are distinct, so setting them one by one gives the fields back
      have whole := @Dict.foldl_set _ _ _ ((key, value) :: fields) [] nodup
      simp only [dumpsValue, List.cons_append, List.append_assoc, readValue]
      rw [show skipSpace (dumpsStr key ++ ':' :: ' ' :: (dumpsValue value ++ (dumpsFields fields ++ rest))) =
        dumpsStr key ++ ':' :: ' ' :: (dumpsValue value ++ (dumpsFields fields ++ rest)) from rfl]
      split
      next same => exact absurd (List.cons.inj same).1 (by decide)
      next =>
        simp only [field, Option.bind_eq_bind, Option.bind_some, skipSpace_ends ends, more, whole,
          List.nil_append]
        rfl
  | value, 0, rest, proper, enough, _ => by
    -- nothing is written as no text, so there is fuel
    obtain ⟨c, cs, text, _⟩ := dumpsValue_head proper
    simp [text] at enough

theorem readItems_dumps : ∀ (items : List Json) (fuel : Nat) (rest : List Char), properItems items →
    (dumpsItems items).length ≤ fuel → readItems fuel (dumpsItems items ++ rest) = some (items, rest)
  | [], fuel + 1, rest, _, _ => rfl
  | item :: items, fuel + 1, rest, proper, enough => by
    obtain ⟨first, others⟩ := proper
    simp only [dumpsItems, List.length_cons, List.length_append] at enough
    have ends := ends_dumpsItems items rest
    have read := readValue_dumps item fuel (dumpsItems items ++ rest) first (by omega) ends
    have more := readItems_dumps items fuel rest others (by omega)
    have after : skipSpace (' ' :: (dumpsValue item ++ (dumpsItems items ++ rest))) =
        dumpsValue item ++ (dumpsItems items ++ rest) := skipSpace_dumpsValue first
    simp only [dumpsItems, List.cons_append, List.append_assoc, readItems, after, read,
      Option.bind_eq_bind, Option.bind_some, skipSpace_ends ends, more]
    rfl
  | [], 0, rest, _, enough => by simp [dumpsItems] at enough
  | item :: items, 0, rest, _, enough => by simp [dumpsItems] at enough

theorem readFields_dumps : ∀ (fields : List (String × Json)) (fuel : Nat) (rest : List Char),
    properFields fields → (dumpsFields fields).length ≤ fuel →
    readFields fuel (dumpsFields fields ++ rest) = some (fields, rest)
  | [], fuel + 1, rest, _, _ => rfl
  | (key, value) :: fields, fuel + 1, rest, proper, enough => by
    obtain ⟨first, others⟩ := proper
    simp only [dumpsFields, List.length_cons, List.length_append] at enough
    have ends := ends_dumpsFields fields rest
    cases fuel with
    | zero => omega
    | succ fuel =>
      have read := readValue_dumps value fuel (dumpsFields fields ++ rest) first (by omega) ends
      have field := @readField_dumps fuel _ key value first (by omega) read
      have more := readFields_dumps fields (fuel + 1) rest others (by omega)
      have after : skipSpace (' ' :: (dumpsStr key ++ ':' :: ' ' ::
          (dumpsValue value ++ (dumpsFields fields ++ rest)))) =
          dumpsStr key ++ ':' :: ' ' :: (dumpsValue value ++ (dumpsFields fields ++ rest)) := rfl
      simp only [dumpsFields, List.cons_append, List.append_assoc, readFields, after, field,
        Option.bind_eq_bind, Option.bind_some, skipSpace_ends ends, more]
      rfl
  | [], 0, rest, _, enough => by simp [dumpsFields] at enough
  | (key, value) :: fields, 0, rest, _, enough => by simp [dumpsFields] at enough

end

/-- `json.loads` reads back what `json.dumps` has written. -/
theorem loads_dumps {value : Json} (proper : value.Proper) : loads (dumps value) = .ok value := by
  have ends : Ends [] := fun _ head => by cases head
  have read := readValue_dumps value ((dumpsValue value).length + 1) [] proper (by omega) ends
  have skipped := @skipSpace_dumpsValue [] value proper
  rw [List.append_nil] at read skipped
  simp only [loads, dumps, String.toList_ofList, skipped, read]
  rfl

end EventPlatform.Protocol
