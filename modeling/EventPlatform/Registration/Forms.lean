import EventPlatform.Protocol.Validators

/-! # The registration form

`validate_registration_data` checks what a client has posted.  What it does not check it
takes as it is: the ids of the tags may be any JSON value with a length. -/

namespace EventPlatform.Registration

open EventPlatform.Lib EventPlatform.Protocol

structure RegistrationError where
  message : String
  code : String
deriving DecidableEq

/-- What `validate_registration_data` raises: its own error, or the exception of an
    operation on a value of the wrong type. -/
inductive FormException where
  | registrationError (error : RegistrationError)
  | attributeError
  | typeError
  | overflowError
deriving DecidableEq

inductive IntError where
  | typeError
  | valueError
  | overflowError

/-- How Python reads numbers: whether the text of a float is zero, and `int(value)`. -/
structure PyNumbers where
  floatIsZero : String → Bool
  int : Json → Except IntError Int

/-- `bool(value)` -/
def truthy (py : PyNumbers) : Json → Bool
  | .null => false
  | .bool value => value
  | .int value => value ≠ 0
  | .float text => !py.floatIsZero text
  | .str value => value ≠ ""
  | .list items => !items.isEmpty
  | .dict fields => !fields.isEmpty

/-- `len(value)`, where the value has a length. -/
def pyLen : Json → Option Nat
  | .str value => some value.length
  | .list items => some items.length
  | .dict fields => some fields.length
  | .null | .bool _ | .int _ | .float _ => none

/-- `str.strip()` -/
def strip (text : String) : String :=
  String.ofList (((text.toList.dropWhile isSpace).reverse.dropWhile isSpace).reverse)

/-- `value.strip()`, of a string only. -/
def stripText : Json → Except FormException String
  | .str value => .ok (strip value)
  | _ => .error .attributeError

structure RegistrationPayload where
  displayName : String
  email : String
  age : Option Int
  gender : Json
  wantToDate : Json
  whatsapp : Json
  tagIds : Json
  acceptedTerms : Json

def refuse {α : Type} (message code : String) : Except FormException α :=
  .error (.registrationError ⟨message, code⟩)

def checkDisplayName (data : Payload) : Except FormException String := do
  let displayName ← stripText ((data.get? "display_name").getD (.str ""))
  if displayName = "" then refuse "Full name is required." "missing_full_name" else return displayName

def checkEmail (data : Payload) : Except FormException String := do
  let email ← stripText ((data.get? "email").getD (.str ""))
  if email = "" ∨ '@' ∉ email.toList then refuse "A valid email address is required." "invalid_email"
  else return email

def checkTerms (py : PyNumbers) (data : Payload) : Except FormException Json :=
  let acceptedTerms := (data.get? "accepted_terms").getD (.bool true)
  if truthy py acceptedTerms then .ok acceptedTerms
  else refuse "You must accept the terms and conditions." "terms_not_accepted"

/-- `data.get("tag_ids") or data.get("tags") or []` -/
def chosenTags (py : PyNumbers) (data : Payload) : Json :=
  let tagIds := (data.get? "tag_ids").getD .null
  let tags := (data.get? "tags").getD .null
  if truthy py tagIds then tagIds else if truthy py tags then tags else .list []

def checkTags (py : PyNumbers) (uniqueTags : Bool) (data : Payload) : Except FormException Json :=
  let tagIds := chosenTags py data
  match pyLen tagIds with
  | none => .error .typeError
  | some count =>
    if 5 < count then refuse "Too many tags selected." "invalid_tag_count"
    else if uniqueTags ∧ count ≠ 1 then refuse "Exactly one tag must be selected." "invalid_tag_count"
    else .ok tagIds

def invalidAge {α : Type} : Except FormException α :=
  refuse "Valid age (at least 18) is required." "invalid_age"

def readAge (py : PyNumbers) (age : Json) : Except FormException (Option Int) :=
  match py.int age with
  | .ok years => if years < 18 ∨ 100 < years then invalidAge else .ok (some years)
  | .error .typeError | .error .valueError => invalidAge
  | .error .overflowError => .error .overflowError

def checkAge (py : PyNumbers) (data : Payload) : Except FormException (Option Int) :=
  match (data.get? "age").getD .null with
  | .null => .ok none
  | .str "" => .ok none
  | age => readAge py age

def validatePayload (py : PyNumbers) (uniqueTags : Bool) (data : Payload) :
    Except FormException RegistrationPayload := do
  let displayName ← checkDisplayName data
  let email ← checkEmail data
  let acceptedTerms ← checkTerms py data
  let tagIds ← checkTags py uniqueTags data
  let age ← checkAge py data
  return {
    displayName := displayName
    email := email
    age := age
    gender := (data.get? "gender").getD (.str "Other/Prefer Not to Say")
    wantToDate := (data.get? "want_to_date").getD (.str "Any")
    whatsapp := (data.get? "whatsapp").getD (.str "")
    tagIds := tagIds
    acceptedTerms := acceptedTerms }

/-- `uniqueTags` is the rule of the event. -/
def validateRegistrationData (py : PyNumbers) (uniqueTags : Bool) : Json → Except FormException RegistrationPayload
  | .dict data => validatePayload py uniqueTags data
  | _ => refuse "Invalid request data format." "invalid_json"

/-! ## Errors -/

def formErrorCodes : List String :=
  ["missing_full_name", "invalid_email", "terms_not_accepted", "invalid_tag_count", "invalid_age", "invalid_json"]

/-- Every error that the form raises of its own has one of its codes. -/
def KnownCodes {α : Type} (result : Except FormException α) : Prop :=
  ∀ error, result = .error (.registrationError error) → error.code ∈ formErrorCodes

section
variable {α β : Type} {x : Except FormException α} {f : α → Except FormException β}

theorem KnownCodes.bind (first : KnownCodes x) (rest : ∀ a, KnownCodes (f a)) : KnownCodes (x >>= f) := by
  cases x with
  | ok a => exact rest a
  | error e => exact fun error same => first error (by cases same; rfl)

theorem KnownCodes.ok (a : α) : KnownCodes (.ok a) := fun _ same => nomatch same

theorem KnownCodes.refuse {message code : String} (known : code ∈ formErrorCodes) :
    KnownCodes (refuse message code : Except FormException α) := by
  intro error same
  cases same
  exact known

end

variable {py : PyNumbers} {uniqueTags : Bool}

theorem knownCodes_stripText (value : Json) : KnownCodes (stripText value) := by
  intro error same
  cases value <;> cases same

theorem knownCodes_checkDisplayName (data : Payload) : KnownCodes (checkDisplayName data) := by
  apply (knownCodes_stripText _).bind
  intro displayName
  split
  · exact KnownCodes.refuse (by decide)
  · exact KnownCodes.ok _

theorem knownCodes_checkEmail (data : Payload) : KnownCodes (checkEmail data) := by
  apply (knownCodes_stripText _).bind
  intro email
  split
  · exact KnownCodes.refuse (by decide)
  · exact KnownCodes.ok _

theorem knownCodes_checkTerms (data : Payload) : KnownCodes (checkTerms py data) := by
  simp only [checkTerms]
  split
  · exact KnownCodes.ok _
  · exact KnownCodes.refuse (by decide)

theorem knownCodes_checkTags (data : Payload) : KnownCodes (checkTags py uniqueTags data) := by
  simp only [checkTags]
  split
  · exact fun _ same => nomatch same
  · split
    · exact KnownCodes.refuse (by decide)
    · split
      · exact KnownCodes.refuse (by decide)
      · exact KnownCodes.ok _

theorem knownCodes_readAge (age : Json) : KnownCodes (readAge py age) := by
  simp only [readAge]
  split
  · split
    · exact KnownCodes.refuse (by decide)
    · exact KnownCodes.ok _
  · exact KnownCodes.refuse (by decide)
  · exact KnownCodes.refuse (by decide)
  · exact fun _ same => nomatch same

theorem knownCodes_checkAge (data : Payload) : KnownCodes (checkAge py data) := by
  simp only [checkAge]
  split
  · exact KnownCodes.ok _
  · exact KnownCodes.ok _
  · exact knownCodes_readAge _

theorem knownCodes_validateRegistrationData (data : Json) :
    KnownCodes (validateRegistrationData py uniqueTags data) := by
  cases data with
  | dict data =>
    exact (knownCodes_checkDisplayName data).bind fun _ => (knownCodes_checkEmail data).bind fun _ =>
      (knownCodes_checkTerms data).bind fun _ => (knownCodes_checkTags data).bind fun _ =>
        (knownCodes_checkAge data).bind fun _ => KnownCodes.ok _
  | _ => exact KnownCodes.refuse (by decide)

end EventPlatform.Registration
