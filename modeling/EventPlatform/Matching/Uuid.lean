import Mathlib

/-! # UUID values of participant ids

`uuidValue` is `uuid.UUID(pid).int` of the standard library: the `urn:` and
`uuid:` markers, the braces and the hyphens are optional, and what remains must
be 32 hexadecimal digits.  `none` stands for the `ValueError`.  The order of
`UUID` objects is the order of these numbers. -/

namespace EventPlatform.Matching

def removeUrn : List Char → List Char
  | 'u' :: 'r' :: 'n' :: ':' :: rest => removeUrn rest
  | c :: rest => c :: removeUrn rest
  | [] => []

def removeUuid : List Char → List Char
  | 'u' :: 'u' :: 'i' :: 'd' :: ':' :: rest => removeUuid rest
  | c :: rest => c :: removeUuid rest
  | [] => []

/-- `str.strip('{}')`. -/
def stripBraces (cs : List Char) : List Char :=
  let brace : Char → Bool := fun c => c == '{' || c == '}'
  ((cs.dropWhile brace).reverse.dropWhile brace).reverse

def hexDigit (c : Char) : Option Nat :=
  if '0' ≤ c ∧ c ≤ '9' then some (c.toNat - '0'.toNat)
  else if 'a' ≤ c ∧ c ≤ 'f' then some (c.toNat - 'a'.toNat + 10)
  else if 'A' ≤ c ∧ c ≤ 'F' then some (c.toNat - 'A'.toNat + 10)
  else none

/-- `int(hex, 16)` on plain hexadecimal digits. -/
def readHex (cs : List Char) : Option Nat :=
  cs.foldlM (fun acc c => (hexDigit c).map (16 * acc + ·)) 0

def uuidHex (pid : String) : List Char :=
  (stripBraces (removeUuid (removeUrn pid.toList))).filter (· != '-')

/-- That `int(hex, 16)` also takes an underscore between two digits, a sign, a `0x`, white space and
    the digits of other scripts is left out: no id that is a UUID holds one of these. -/
def uuidValue (pid : String) : Option Nat :=
  let hex := uuidHex pid
  if hex.length = 32 then readHex hex else none

theorem length_removeUrn_le (cs : List Char) : (removeUrn cs).length ≤ cs.length := by
  fun_induction removeUrn cs <;> simp <;> omega

theorem length_removeUuid_le (cs : List Char) : (removeUuid cs).length ≤ cs.length := by
  fun_induction removeUuid cs <;> simp <;> omega

theorem length_stripBraces_le (cs : List Char) : (stripBraces cs).length ≤ cs.length := by
  simp only [stripBraces, List.length_reverse]
  apply (List.dropWhile_sublist _).length_le.trans
  rw [List.length_reverse]
  exact (List.dropWhile_sublist _).length_le

/-- Markers, braces and hyphens aside, an id has 32 digits. -/
theorem length_of_uuidValue {pid : String} {value : Nat} (valid : uuidValue pid = some value) : 32 ≤ pid.length := by
  have digits : (uuidHex pid).length = 32 := by
    simp only [uuidValue] at valid
    split at valid
    · assumption
    · cases valid
  calc 32 = (uuidHex pid).length := digits.symm
    _ ≤ (stripBraces (removeUuid (removeUrn pid.toList))).length := List.length_filter_le _ _
    _ ≤ (removeUuid (removeUrn pid.toList)).length := length_stripBraces_le _
    _ ≤ (removeUrn pid.toList).length := length_removeUuid_le _
    _ ≤ pid.toList.length := length_removeUrn_le _
    _ = pid.length := String.length_toList

/-- `UUID(x) < UUID(y)` for two well formed ids. -/
def UuidLt (x y : String) : Prop :=
  ∃ a b, uuidValue x = some a ∧ uuidValue y = some b ∧ a < b

theorem UuidLt.asymm {x y : String} (h : UuidLt x y) : ¬ UuidLt y x := by
  obtain ⟨a, b, valueX, valueY, less⟩ := h
  rintro ⟨b', a', valueY', valueX', less'⟩
  have sameA : a = a' := Option.some.inj (valueX.symm.trans valueX')
  have sameB : b = b' := Option.some.inj (valueY.symm.trans valueY')
  omega

theorem UuidLt.ne {x y : String} (h : UuidLt x y) : x ≠ y := by
  intro same
  subst same
  exact h.asymm h

end EventPlatform.Matching
