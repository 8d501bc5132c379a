import EventPlatform.Lib.PyText
import EventPlatform.Lib.Substitute

/-! # What the log shows

`RedactSensitiveDataFilter` runs four substitutions one after another over every message.
`isWord` is what `\w` matches; it is a parameter, since the Unicode table is not part of the
program.  So are `str` and `%`, which call the methods of the objects that are logged. -/

namespace EventPlatform.Health

open EventPlatform.Lib

/-! ## The patterns -/

def redacted : List Char := "[REDACTED]".toList

/-- A letter of a pattern under `re.IGNORECASE`, which also accepts four letters that are not
    ASCII. -/
def ignoresCase (letter c : Char) : Bool :=
  c = letter || c = letter.toUpper || (letter = 'i' && (c = '\u0130' || c = '\u0131')) ||
    (letter = 's' && c = '\u017F') || (letter = 'k' && c = '\u212A')

/-- The text begins with the word, in any case. -/
def startsWith : List Char → List Char → Bool
  | [], _ => true
  | _ :: _, [] => false
  | letter :: word, c :: text => ignoresCase letter c && startsWith word text

/-- A word and the longest run of a class behind it, which may not be empty. -/
def wordThenRun (word : List Char) (inClass : Char → Bool) : Pattern Char := fun text =>
  if startsWith word text then
    match ((text.drop word.length).takeWhile inClass).length with
    | 0 => 0
    | length + 1 => word.length + (length + 1)
  else 0

/-- `[\w\-\.]`, which is also `[\w\.-]` -/
def inHost (isWord : Char → Bool) (c : Char) : Bool := isWord c || c = '-' || c = '.'

/-- `token=[\w\-\.]+` -/
def tokenPattern (isWord : Char → Bool) : Pattern Char := wordThenRun "token=".toList (inHost isWord)

/-- `[^/\s]` -/
def inPathPart (c : Char) : Bool := c ≠ '/' && !isSpace c

/-- `(/join/)[^/\s]+`; the group plays no part in the replacement. -/
def joinPattern : Pattern Char := wordThenRun "/join/".toList inPathPart

/-- `password=\S+` -/
def passwordPattern : Pattern Char := wordThenRun "password=".toList fun c => !isSpace c

/-- The last dot that is neither the first character nor without a word character behind it. -/
def lastDot (isWord : Char → Bool) : List Char → Option Nat
  | [] => none
  | c :: rest =>
    match lastDot isWord rest with
    | some i => some (i + 1)
    | none => if c = '.' ∧ rest.head?.any isWord then some 0 else none

/-- `[\w\.-]+@[\w\.-]+\.\w+`: the second run gives back what follows its last dot. -/
def emailPattern (isWord : Char → Bool) : Pattern Char := fun text =>
  let user := text.takeWhile (inHost isWord)
  match text.drop user.length with
  | '@' :: rest =>
    let host := rest.takeWhile (inHost isWord)
    if user.isEmpty then 0
    else
      match lastDot isWord host.tail with
      | none => 0
      | some i => user.length + 1 + (i + 2) + ((host.drop (i + 2)).takeWhile isWord).length
  | _ => 0

/-- `SENSITIVE_PATTERNS` -/
def sensitivePatterns (isWord : Char → Bool) : List (Pattern Char) :=
  [tokenPattern isWord, joinPattern, passwordPattern, emailPattern isWord]

def redactMessage (isWord : Char → Bool) (message : List Char) : List Char :=
  (sensitivePatterns isWord).foldl (fun message pattern => sub pattern redacted message) message

/-! ## Records -/

inductive LogValue (α : Type) where
  | text (value : String)
  | object (value : α)
deriving DecidableEq

/-- What logging does with objects and arguments; either may raise. -/
structure Formatting (α β ε : Type) where
  str : α → Except ε String
  percent : String → β → Except ε String

/-- `args` is there when it is not empty. -/
structure LogRecord (α β : Type) where
  msg : LogValue α
  args : Option β
  requestId : Option (LogValue α)
deriving DecidableEq

section Filter

variable {α β ε : Type} (python : Formatting α β ε)

def LogValue.str : LogValue α → Except ε String
  | .text value => .ok value
  | .object value => python.str value

def LogRecord.getMessage (record : LogRecord α β) : Except ε String := do
  let msg ← record.msg.str python
  match record.args with
  | none => return msg
  | some args => python.percent msg args

/-- `RedactSensitiveDataFilter.filter`, and the record after it. -/
def filter (isWord : Char → Bool) (record : LogRecord α β) : Except ε Bool × LogRecord α β :=
  match record.getMessage python with
  | .error e => (.error e, record)
  | .ok message =>
    (.ok true,
      { msg := .text (String.ofList (redactMessage isWord message.toList))
        args := none
        requestId := some (record.requestId.getD (.text "-")) })

end Filter

/-! ## Where the patterns match -/

/-- What the program relies on: neither white space nor these characters are word characters. -/
structure WordClass (isWord : Char → Bool) : Prop where
  space : ∀ c, isWord c = true → isSpace c = false
  opens : isWord '[' = false
  closes : isWord ']' = false
  at_ : isWord '@' = false

/-- The word, in any case, and then a character of the class. -/
def WordSpot (word : List Char) (inClass : Char → Bool) (u : List Char) (x : Char) : Prop :=
  u.length = word.length ∧ startsWith word u = true ∧ inClass x = true

/-- A user, a host and a dot, and then a word character. -/
def EmailSpot (isWord : Char → Bool) (u : List Char) (x : Char) : Prop :=
  ∃ user host, user ≠ [] ∧ host ≠ [] ∧ (∀ c ∈ user ++ host, inHost isWord c = true) ∧
    u = user ++ '@' :: (host ++ ['.']) ∧ isWord x = true

section Words

variable {word u text : List Char} {inClass : Char → Bool} {x c letter : Char}

theorem startsWith_append (begins : startsWith word u = true) (rest : List Char) :
    startsWith word (u ++ rest) = true := by
  induction word generalizing u with
  | nil => rfl
  | cons letter word ih =>
    cases u with
    | nil => cases begins
    | cons c u =>
      simp only [startsWith, Bool.and_eq_true] at begins
      simp [startsWith, begins.1, ih begins.2]

/-- A text that begins with a word is split behind it. -/
theorem split_of_startsWith (begins : startsWith word text = true) :
    (text.take word.length).length = word.length ∧ startsWith word (text.take word.length) = true := by
  induction word generalizing text with
  | nil => exact ⟨rfl, rfl⟩
  | cons letter word ih =>
    cases text with
    | nil => cases begins
    | cons c text =>
      simp only [startsWith, Bool.and_eq_true] at begins
      obtain ⟨length, rest⟩ := ih begins.2
      exact ⟨by simp [length], by simp [startsWith, begins.1, rest]⟩

theorem wordThenRun_ne_zero_iff : wordThenRun word inClass text ≠ 0 ↔ SpotAt (WordSpot word inClass) text := by
  constructor
  · intro matched
    simp only [wordThenRun] at matched
    split at matched
    next begins =>
      obtain ⟨length, starts⟩ := split_of_startsWith begins
      cases behind : text.drop word.length with
      | nil => rw [behind] at matched; simp at matched
      | cons x rest =>
        rw [behind] at matched
        have inClass_ : inClass x = true := by
          by_contra outside
          simp [outside] at matched
        refine ⟨text.take word.length, x, rest, ⟨length, starts, inClass_⟩, ?_⟩
        rw [← behind, List.take_append_drop]
    next => exact absurd rfl matched
  · rintro ⟨u, x, rest, ⟨length, starts, inClass_⟩, rfl⟩
    have behind : (u ++ x :: rest).drop word.length = x :: rest := by rw [← length, List.drop_left]
    simp [wordThenRun, startsWith_append starts, behind, inClass_]

/-- Every character that a word matches matches one of its letters. -/
theorem exists_letter (length : u.length = word.length) (starts : startsWith word u = true) (member : c ∈ u) :
    ∃ letter ∈ word, ignoresCase letter c = true := by
  induction word generalizing u with
  | nil =>
    rw [List.length_eq_zero_iff.mp length] at member
    cases member
  | cons letter word ih =>
    cases u with
    | nil => cases member
    | cons d u =>
      simp only [startsWith, Bool.and_eq_true] at starts
      cases List.mem_cons.mp member with
      | inl here => exact ⟨letter, List.mem_cons_self, here ▸ starts.1⟩
      | inr later =>
        obtain ⟨other, inWord, same⟩ := ih (by simpa using length) starts.2 later
        exact ⟨other, List.mem_cons_of_mem _ inWord, same⟩

theorem exists_match (starts : startsWith word u = true) (member : letter ∈ word) :
    ∃ c ∈ u, ignoresCase letter c = true := by
  induction word generalizing u with
  | nil => cases member
  | cons first word ih =>
    cases u with
    | nil => cases starts
    | cons d u =>
      simp only [startsWith, Bool.and_eq_true] at starts
      cases List.mem_cons.mp member with
      | inl here => exact ⟨d, List.mem_cons_self, here ▸ starts.1⟩
      | inr later =>
        obtain ⟨c, inText, same⟩ := ih starts.2 later
        exact ⟨c, List.mem_cons_of_mem _ inText, same⟩

/-- A word that reads no bracket, and has a sign that is not in the replacement. -/
theorem apart_wordSpot (inClass : Char → Bool) (brackets : ∀ letter ∈ word, ignoresCase letter '[' = false ∧
    ignoresCase letter ']' = false) (sign : letter ∈ word) (foreign : ∀ c, ignoresCase letter c = true → c ∉ redacted) :
    Apart (WordSpot word inClass) redacted '[' ']' where
  head := by decide
  getLast := by decide
  opens_not_mem := by
    rintro u x ⟨length, starts, _⟩ member
    obtain ⟨other, inWord, same⟩ := exists_letter length starts member
    rw [(brackets other inWord).1] at same
    cases same
  closes_not_mem := by
    rintro u x ⟨length, starts, _⟩ member
    obtain ⟨other, inWord, same⟩ := exists_letter length starts member
    rw [(brackets other inWord).2] at same
    cases same
  foreign := by
    rintro u x ⟨_, starts, _⟩
    obtain ⟨c, inText, same⟩ := exists_match starts sign
    exact ⟨c, inText, foreign c same⟩

theorem eq_of_ignoresCase_sign (sign : letter = '=' ∨ letter = '/') (same : ignoresCase letter c = true) :
    c = letter := by
  rcases sign with rfl | rfl <;> simpa [ignoresCase] using same

end Words

/-! ## Addresses -/

section Addresses

variable {isWord : Char → Bool} {u text : List Char} {x : Char}

theorem lastDot_isSome (before : List Char) (isWord_ : isWord x = true) (after : List Char) :
    (lastDot isWord (before ++ '.' :: x :: after)).isSome = true := by
  induction before with
  | nil =>
    simp only [List.nil_append, lastDot, List.head?_cons, Option.any_some, isWord_, and_self, if_true]
    split <;> rfl
  | cons c before ih =>
    obtain ⟨i, found⟩ := Option.isSome_iff_exists.mp ih
    simp [lastDot, found]

theorem lastDot_some {i : Nat} (found : lastDot isWord text = some i) :
    ∃ before y after, text = before ++ '.' :: y :: after ∧ isWord y = true := by
  induction text generalizing i with
  | nil => cases found
  | cons c text ih =>
    simp only [lastDot] at found
    cases later : lastDot isWord text with
    | some j =>
      obtain ⟨before, y, after, rfl, isWord_⟩ := ih later
      exact ⟨c :: before, y, after, rfl, isWord_⟩
    | none =>
      rw [later] at found
      simp only at found
      split at found
      next dot =>
        obtain ⟨isDot, follows⟩ := dot
        cases text with
        | nil => simp at follows
        | cons y after => exact ⟨[], y, after, by rw [isDot]; rfl, by simpa using follows⟩
      next => cases found

/-- The run of a class ends where a character outside comes. -/
theorem takeWhile_run {inClass : Char → Bool} {run rest : List Char} (inside : ∀ c ∈ run, inClass c = true)
    (outside : inClass x = false) : (run ++ x :: rest).takeWhile inClass = run := by
  rw [List.takeWhile_append_of_pos inside]
  simp [outside]

theorem emailPattern_ne_zero_iff (words : WordClass isWord) :
    emailPattern isWord text ≠ 0 ↔ SpotAt (EmailSpot isWord) text := by
  have notHost : inHost isWord '@' = false := by simp [inHost, words.at_]
  constructor
  · intro matched
    simp only [emailPattern] at matched
    split at matched
    next rest behind =>
      split at matched
      next => exact absurd rfl matched
      next nonempty =>
        split at matched
        next => exact absurd rfl matched
        next i found =>
          obtain ⟨before, y, after, tail, isWord_⟩ := lastDot_some found
          cases host : rest.takeWhile (inHost isWord) with
          | nil => rw [host] at tail; simp at tail
          | cons h host' =>
            rw [host, List.tail_cons] at tail
            have inside : ∀ c ∈ h :: host', inHost isWord c = true := by
              intro c member
              rw [← host] at member
              exact List.mem_takeWhile_imp member
            refine ⟨text.takeWhile (inHost isWord) ++ '@' :: (h :: before ++ ['.']), y,
              after ++ rest.dropWhile (inHost isWord),
              ⟨text.takeWhile (inHost isWord), h :: before, by simpa using nonempty, by simp, ?_, by simp, isWord_⟩, ?_⟩
            · intro c member
              cases List.mem_append.mp member with
              | inl inUser => exact List.mem_takeWhile_imp inUser
              | inr inBefore =>
                apply inside c
                rw [tail]
                cases List.mem_cons.mp inBefore with
                | inl first => simp [first]
                | inr later => simp [later]
            · have whole : text = text.takeWhile (inHost isWord) ++ '@' :: rest := by
                rw [← behind]
                exact (List.prefix_iff_eq_append.mp (List.takeWhile_prefix _)).symm
              have split := @List.takeWhile_append_dropWhile _ (inHost isWord) rest
              rw [host, tail] at split
              conv_lhs => rw [whole, ← split]
              simp
    next => exact absurd rfl matched
  · rintro ⟨_, x, rest, ⟨user, host, someUser, someHost, inside, rfl, isWord_⟩, rfl⟩
    have inUser : ∀ c ∈ user, inHost isWord c = true := fun c member => inside c (List.mem_append_left _ member)
    have inHost_ : ∀ c ∈ host ++ ['.', x], inHost isWord c = true := by
      intro c member
      cases List.mem_append.mp member with
      | inl old => exact inside c (List.mem_append_right _ old)
      | inr new =>
        simp only [List.mem_cons, List.not_mem_nil, or_false] at new
        rcases new with rfl | rfl <;> simp [inHost, isWord_]
    have shape : user ++ '@' :: (host ++ ['.']) ++ x :: rest = user ++ '@' :: (host ++ ['.', x] ++ rest) := by simp
    have user_ : (user ++ '@' :: (host ++ ['.', x] ++ rest)).takeWhile (inHost isWord) = user :=
      takeWhile_run inUser notHost
    have behind : (user ++ '@' :: (host ++ ['.', x] ++ rest)).drop user.length = '@' :: (host ++ ['.', x] ++ rest) := by
      simp
    have tail : ((host ++ ['.', x] ++ rest).takeWhile (inHost isWord)).tail =
        host.tail ++ '.' :: x :: rest.takeWhile (inHost isWord) := by
      rw [List.takeWhile_append_of_pos inHost_]
      cases host with
      | nil => exact absurd rfl someHost
      | cons h host => simp
    obtain ⟨i, found⟩ := Option.isSome_iff_exists.mp
      (lastDot_isSome host.tail isWord_ (rest.takeWhile (inHost isWord)))
    rw [shape]
    simp only [emailPattern, user_, behind, tail, found]
    rw [if_neg (by simpa using someUser)]
    omega

theorem apart_emailSpot (words : WordClass isWord) : Apart (EmailSpot isWord) redacted '[' ']' where
  head := by decide
  getLast := by decide
  opens_not_mem := by
    rintro u x ⟨user, host, _, _, inside, rfl, _⟩ member
    have outside : inHost isWord '[' = false := by simp [inHost, words.opens]
    have member' : '[' ∈ user ++ host := by simpa using member
    rw [inside _ member'] at outside
    cases outside
  closes_not_mem := by
    rintro u x ⟨user, host, _, _, inside, rfl, _⟩ member
    have outside : inHost isWord ']' = false := by simp [inHost, words.closes]
    have member' : ']' ∈ user ++ host := by simpa using member
    rw [inside _ member'] at outside
    cases outside
  foreign := by
    rintro u x ⟨user, host, _, _, _, rfl, _⟩
    exact ⟨'@', by simp, by decide⟩

end Addresses

/-! ## What is left in a message -/

/-- No token, no password and no address, and behind `/join/` nothing but replacements. -/
structure Redacted (isWord : Char → Bool) (message : List Char) : Prop where
  tokens : ∀ t, t <:+ message → tokenPattern isWord t = 0
  passwords : ∀ t, t <:+ message → passwordPattern t = 0
  addresses : ∀ t, t <:+ message → emailPattern isWord t = 0
  joins : OnlyMarked (WordSpot "/join/".toList inPathPart) redacted message

theorem unmatched_of_not_spotted {p : Pattern Char} {L : List Char → Char → Prop} {message : List Char}
    (spots : ∀ t, p t ≠ 0 ↔ SpotAt L t) (clean : ¬ Spotted L message) : ∀ t, t <:+ message → p t = 0 := by
  intro t suffix
  by_contra matched
  exact clean ⟨t, suffix, (spots t).mp matched⟩

section Filtered

variable {isWord : Char → Bool} {message : List Char}

theorem apart_token (isWord : Char → Bool) : Apart (WordSpot "token=".toList (inHost isWord)) redacted '[' ']' := by
  have sign : '=' ∈ "token=".toList := by decide
  refine apart_wordSpot _ (by simp [ignoresCase]) sign fun c same => ?_
  rw [eq_of_ignoresCase_sign (.inl rfl) same]
  decide

theorem apart_join : Apart (WordSpot "/join/".toList inPathPart) redacted '[' ']' := by
  have sign : '/' ∈ "/join/".toList := by decide
  refine apart_wordSpot _ (by simp [ignoresCase]) sign fun c same => ?_
  rw [eq_of_ignoresCase_sign (.inr rfl) same]
  decide

theorem apart_password : Apart (WordSpot "password=".toList fun c => !isSpace c) redacted '[' ']' := by
  have sign : '=' ∈ "password=".toList := by decide
  refine apart_wordSpot _ (by simp [ignoresCase]) sign fun c same => ?_
  rw [eq_of_ignoresCase_sign (.inl rfl) same]
  decide

/-- A bracket completes no token, whatever has been replaced. -/
theorem completes_token (words : WordClass isWord) (p : Pattern Char) :
    Completes p (WordSpot "token=".toList (inHost isWord)) '[' := by
  rintro u ⟨_, _, bracket⟩
  simp [inHost, words.opens] at bracket

theorem completes_email (words : WordClass isWord) (p : Pattern Char) : Completes p (EmailSpot isWord) '[' := by
  rintro u ⟨_, _, _, _, _, _, bracket⟩
  rw [words.opens] at bracket
  cases bracket

/-- A match that begins with no white space would have completed the password itself. -/
theorem completes_password {p : Pattern Char}
    (visible : ∀ text, p text ≠ 0 → ∃ c rest, text = c :: rest ∧ isSpace c = false) :
    Completes p (WordSpot "password=".toList fun c => !isSpace c) '[' := by
  rintro u ⟨length, starts, _⟩ text matched
  obtain ⟨c, rest, rfl, seen⟩ := visible text matched
  exact ⟨c, rest, rfl, length, starts, by simp [seen]⟩

theorem visible_password (text : List Char) (matched : passwordPattern text ≠ 0) :
    ∃ c rest, text = c :: rest ∧ isSpace c = false := by
  obtain ⟨u, x, rest, ⟨length, starts, _⟩, rfl⟩ := wordThenRun_ne_zero_iff.mp matched
  cases u with
  | nil => cases starts
  | cons c u =>
    refine ⟨c, u ++ x :: rest, rfl, ?_⟩
    have first : ignoresCase 'p' c = true := by
      simp only [show "password=".toList = 'p' :: "assword=".toList from rfl, startsWith, Bool.and_eq_true] at starts
      exact starts.1
    have letters : c = 'p' ∨ c = 'P' := by simpa [ignoresCase] using first
    rcases letters with rfl | rfl <;> decide

theorem visible_email (words : WordClass isWord) (text : List Char) (matched : emailPattern isWord text ≠ 0) :
    ∃ c rest, text = c :: rest ∧ isSpace c = false := by
  obtain ⟨_, x, rest, ⟨user, host, someUser, _, inside, rfl, _⟩, rfl⟩ := (emailPattern_ne_zero_iff words).mp matched
  cases user with
  | nil => exact absurd rfl someUser
  | cons c user =>
    refine ⟨c, _, rfl, ?_⟩
    have first := inside c (by simp)
    simp only [inHost, Bool.or_eq_true, decide_eq_true_eq] at first
    rcases first with (isWord_ | rfl) | rfl
    · exact words.space c isWord_
    · decide
    · decide

theorem redactMessage_redacted (words : WordClass isWord) (message : List Char) :
    Redacted isWord (redactMessage isWord message) := by
  have emailSpots : ∀ t, emailPattern isWord t ≠ 0 ↔ SpotAt (EmailSpot isWord) t :=
    fun t => emailPattern_ne_zero_iff words
  have passwordDetects : Detects passwordPattern (WordSpot "password=".toList fun c => !isSpace c) :=
    fun t spot => wordThenRun_ne_zero_iff.mpr spot
  simp only [redactMessage, sensitivePatterns, List.foldl_cons, List.foldl_nil]
  -- what a substitution has removed does not come back with the later ones
  have tokens : ¬ Spotted _ (sub (tokenPattern isWord) redacted message) :=
    (apart_token isWord).not_spotted_sub (completes_token words _) fun t spot => wordThenRun_ne_zero_iff.mpr spot
  have joins : OnlyMarked _ redacted (sub joinPattern redacted (sub (tokenPattern isWord) redacted message)) :=
    apart_join.onlyMarked_sub fun t spot => wordThenRun_ne_zero_iff.mpr spot
  generalize sub (tokenPattern isWord) redacted message = first at tokens joins ⊢
  have tokens := mt ((apart_token isWord).spotted_of_sub (completes_token words joinPattern)) tokens
  generalize sub joinPattern redacted first = second at tokens joins ⊢
  have passwords : ¬ Spotted _ (sub passwordPattern redacted second) :=
    apart_password.not_spotted_sub (completes_password visible_password) passwordDetects
  have tokens := mt ((apart_token isWord).spotted_of_sub (completes_token words passwordPattern)) tokens
  have joins : OnlyMarked _ redacted (sub passwordPattern redacted second) := apart_join.onlyMarked_of_sub
    (apart_password.intact fun t matched => wordThenRun_ne_zero_iff.mp matched) joins
  generalize sub passwordPattern redacted second = third at tokens joins passwords ⊢
  have emails : ¬ Spotted _ (sub (emailPattern isWord) redacted third) :=
    (apart_emailSpot words).not_spotted_sub (completes_email words _) fun t spot => (emailSpots t).mpr spot
  have tokens := mt ((apart_token isWord).spotted_of_sub (completes_token words (emailPattern isWord))) tokens
  have passwords := mt (apart_password.spotted_of_sub (completes_password (visible_email words))) passwords
  have joins : OnlyMarked _ redacted (sub (emailPattern isWord) redacted third) := apart_join.onlyMarked_of_sub
    ((apart_emailSpot words).intact fun t matched => (emailSpots t).mp matched) joins
  exact ⟨unmatched_of_not_spotted (fun _ => wordThenRun_ne_zero_iff) tokens,
    unmatched_of_not_spotted (fun _ => wordThenRun_ne_zero_iff) passwords,
    unmatched_of_not_spotted emailSpots emails, joins⟩

/-- A message without anything sensitive is logged as it is. -/
theorem redactMessage_eq_self (clean : ∀ p ∈ sensitivePatterns isWord, ∀ t, t <:+ message → p t = 0) :
    redactMessage isWord message = message := by
  have first : sub (tokenPattern isWord) redacted message = message :=
    sub_eq_self (clean _ (by simp [sensitivePatterns]))
  have second : sub joinPattern redacted message = message :=
    sub_eq_self (clean _ (by simp [sensitivePatterns]))
  have third : sub passwordPattern redacted message = message :=
    sub_eq_self (clean _ (by simp [sensitivePatterns]))
  have fourth : sub (emailPattern isWord) redacted message = message :=
    sub_eq_self (clean _ (by simp [sensitivePatterns]))
  simp only [redactMessage, sensitivePatterns, List.foldl_cons, List.foldl_nil, first, second, third, fourth]

end Filtered

/-- A record whose message cannot be built stays as it is, and the error goes on.  Every other one
    is logged, and its message is then without tokens, passwords and addresses and without what
    stands behind `/join/`, and the same as before when there is none of them in it. -/
theorem filter_redacts {α β ε : Type} (python : Formatting α β ε) (isWord : Char → Bool) (words : WordClass isWord)
    (record : LogRecord α β) :
    (∀ e, record.getMessage python = .error e → filter python isWord record = (.error e, record)) ∧
      ∀ message, record.getMessage python = .ok message →
        (filter python isWord record).1 = .ok true ∧
        (filter python isWord record).2.requestId = some (record.requestId.getD (.text "-")) ∧
        ∃ shown, (filter python isWord record).2.getMessage python = .ok shown ∧ Redacted isWord shown.toList ∧
          ((∀ p ∈ sensitivePatterns isWord, ∀ t, t <:+ message.toList → p t = 0) → shown = message) := by
  constructor
  · intro e raises
    simp only [filter, raises]
  · intro message built
    have after : filter python isWord record = (.ok true, ⟨.text (String.ofList (redactMessage isWord message.toList)),
        none, some (record.requestId.getD (.text "-"))⟩) := by simp only [filter, built]
    rw [after]
    refine ⟨rfl, rfl, _, rfl, ?_, fun clean => ?_⟩
    · rw [String.toList_ofList]
      exact redactMessage_redacted words _
    · rw [redactMessage_eq_self clean, String.ofList_toList]

/-- Letters, digits and the underscore. -/
def asciiWord (c : Char) : Bool := c.isAlphanum || c = '_'

theorem wordClass_asciiWord : WordClass asciiWord where
  space := by
    intro c isWord
    simp only [asciiWord, Bool.or_eq_true, decide_eq_true_eq] at isWord
    cases isWord with
    | inl alphanumeric =>
      have ranges : ((65 ≤ c.toNat ∧ c.toNat ≤ 90) ∨ (97 ≤ c.toNat ∧ c.toNat ≤ 122)) ∨
          (48 ≤ c.toNat ∧ c.toNat ≤ 57) := by
        simpa [Char.isAlphanum, Char.isAlpha, Char.isUpper, Char.isLower, Char.isDigit, UInt32.le_iff_toNat_le]
          using alphanumeric
      simp [isSpace]
      omega
    | inr underscore => rw [underscore]; decide
  opens := by decide
  closes := by decide
  at_ := by decide

/-- `%` for texts that hold no conversion but `%s`, and texts as arguments. -/
def percentS : List Char → List String → Except String (List Char)
  | [], [] => .ok []
  | [], _ :: _ => .error "not all arguments converted during string formatting"
  | '%' :: 's' :: _, [] => .error "not enough arguments for format string"
  | '%' :: 's' :: text, arg :: args => (arg.toList ++ ·) <$> percentS text args
  | c :: text, args => (c :: ·) <$> percentS text args

def texts : Formatting Empty (List String) String where
  str := Empty.elim
  percent text args := String.ofList <$> percentS text.toList args

/-- A request that names a link, a token and an address. -/
def badRequest (args : Option (List String)) : LogRecord Empty (List String) :=
  ⟨.text "Bad Request: /join/%s?token=x /join//join/q %s.", args, none⟩

theorem filter_redacts_join : ∃ shown,
    (filter texts asciiWord (badRequest (some ["p1_abc", "a.b@c.de"]))).2.getMessage texts = .ok shown ∧
      Redacted asciiWord shown.toList := by
  have redacts := (filter_redacts texts asciiWord wordClass_asciiWord (badRequest (some ["p1_abc", "a.b@c.de"]))).2
    "Bad Request: /join/p1_abc?token=x /join//join/q a.b@c.de." (by decide +kernel)
  obtain ⟨_, _, shown, same, redacted, _⟩ := redacts
  exact ⟨shown, same, redacted⟩

-- the outer `/join/` has nothing behind it that the class accepts, and stays
example : filter texts asciiWord (badRequest (some ["p1_abc", "a.b@c.de"])) =
    (.ok true, ⟨.text "Bad Request: [REDACTED] /join/[REDACTED] [REDACTED].", none, some (.text "-")⟩) := by
  decide +kernel

-- an argument too few: nothing is logged, and the caller has the error
example : filter texts asciiWord (badRequest (some ["p1_abc"])) =
    (.error "not enough arguments for format string", badRequest (some ["p1_abc"])) := by decide +kernel

end EventPlatform.Health
