import BlogOps.PatternMatching
import BlogOps.SecurityRules

/-!
# Redaction of texts

`redact_safe_text` with its three patterns.  What a digit, a word character and
white space are beyond ASCII is left open; with `IGNORECASE` the letters take in
the four characters whose case folds into them.
-/

namespace BlogOps.Security

open PatternMatching Pattern

/-- The classes of `re` for text. -/
class UnicodeClasses where
  isDigit : Char → Bool
  isWord : Char → Bool
  isSpace : Char → Bool
  ascii_digit : ∀ c : Char, c.val < 128 → isDigit c = c.isDigit
  ascii_word : ∀ c : Char, c.val < 128 → isWord c = (c.isAlphanum || c = '_')
  ascii_space : ∀ c : Char, c.val < 128 →
    isSpace c = (c = ' ' || 9 ≤ c.val && c.val ≤ 13 || 28 ≤ c.val && c.val ≤ 31)

/-- `[A-Z]` with `IGNORECASE`. -/
def isLetter (c : Char) : Bool := c.isAlpha || c.toNat ∈ [0x130, 0x131, 0x17F, 0x212A]

def isLocalChar (c : Char) : Bool := isLetter c || c.isDigit || c ∈ "._%+-".toList

def isDomainChar (c : Char) : Bool := isLetter c || c.isDigit || c ∈ ".-".toList

def isTokenChar (c : Char) : Bool := isLetter c || c.isDigit || c ∈ "._~+/=-".toList

def isSeparator (c : Char) : Bool := c ∈ "- .".toList

def literal (c : Char) : Pattern Char := one (· = c)

def optional (pattern : Pattern Char) : Pattern Char := upTo 1 pattern

section Redaction

variable [UnicodeClasses]

def emailPattern : Pattern Char := join [
  boundary UnicodeClasses.isWord, atLeast 1 isLocalChar, literal '@', atLeast 1 isDomainChar,
  literal '.', atLeast 2 isLetter, boundary UnicodeClasses.isWord]

/-- `[- .]?\d`. -/
def spacedDigit : Pattern Char := join [optional (one isSeparator), one UnicodeClasses.isDigit]

def phonePattern : Pattern Char := join [ notBehind UnicodeClasses.isDigit,
  optional (join [optional (literal '+'), literal '8', literal '2', optional (one isSeparator)]),
  optional (literal '0'), literal '1', one (· ∈ "016789".toList), times 7 spacedDigit,
  upTo 1 spacedDigit, notAhead UnicodeClasses.isDigit]

def bearerPattern : Pattern Char := join [
  boundary UnicodeClasses.isWord, join ("bearer".toList.map fun c => one (·.toLower = c)),
  atLeast 1 UnicodeClasses.isSpace, atLeast 1 isTokenChar]

def redactSafeText (value : String) : String :=
  String.ofList (bearerPattern.sub "Bearer [REDACTED]".toList
    (phonePattern.sub "[PHONE]".toList (emailPattern.sub "[EMAIL]".toList value.toList)))

variable {text : List Char}

theorem email_fails (h : '@' ∉ text) : Fails emailPattern text := by
  have hfails : Fails (literal '@') text :=
    fails_one fun c hc => decide_eq_false fun heq => h (heq ▸ hc)
  exact fails_join (by simp) hfails

theorem phone_fails (h : '1' ∉ text) : Fails phonePattern text := by
  have hfails : Fails (literal '1') text :=
    fails_one fun c hc => decide_eq_false fun heq => h (heq ▸ hc)
  exact fails_join (by simp) hfails

theorem bearer_fails (h : ∀ c ∈ text, UnicodeClasses.isSpace c = false) : Fails bearerPattern text := by
  have hfails : Fails (atLeast 1 UnicodeClasses.isSpace) text := fails_atLeast h
  exact fails_join (by simp) hfails

/-- Without an at sign and white space only telephone numbers are replaced. -/
theorem redactSafeText_phone {value : String} (hat : '@' ∉ value.toList)
    (hspace : ∀ c ∈ phonePattern.sub "[PHONE]".toList value.toList, UnicodeClasses.isSpace c = false) :
    redactSafeText value =
      String.ofList (phonePattern.sub "[PHONE]".toList value.toList) := by
  unfold redactSafeText
  rw [sub_of_fails (email_fails hat), sub_of_fails (bearer_fails hspace)]

/-- A text without an at sign, a one and white space is left as it is. -/
theorem redactSafeText_plain {value : String} (hat : '@' ∉ value.toList) (hone : '1' ∉ value.toList)
    (hspace : ∀ c ∈ value.toList, UnicodeClasses.isSpace c = false) : redactSafeText value = value := by
  have hphone := sub_of_fails (phone_fails hone) "[PHONE]".toList
  rw [redactSafeText_phone hat (hphone.symm ▸ hspace), hphone, String.ofList_toList]

end Redaction

end BlogOps.Security
