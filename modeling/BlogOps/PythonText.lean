import Mathlib.Data.List.Basic

/-!
# Texts of the interpreter

White space as `str.isspace` knows it, `str.strip`, and texts with lone surrogates.
-/

namespace BlogOps.PythonText

def isSpace (c : Char) : Bool := 9 ≤ c.toNat && c.toNat ≤ 13 || 28 ≤ c.toNat && c.toNat ≤ 32 ||
    8192 ≤ c.toNat && c.toNat ≤ 8202 ||
    c.toNat ∈ [0x85, 0xa0, 0x1680, 0x2028, 0x2029, 0x202f, 0x205f, 0x3000]

def stripChars (text : List Char) : List Char :=
  ((text.dropWhile isSpace).reverse.dropWhile isSpace).reverse

def strip (value : String) : String := String.ofList (stripChars value.toList)

/-- A character of a `str`: a Unicode scalar value, or a lone surrogate, such as `json.loads` makes
of an escape. -/
inductive PyChar where
  | scalar (c : Char)
  | surrogate (code : Fin 2048)
deriving DecidableEq, Repr

abbrev PyText := List PyChar

def ofString (text : String) : PyText := text.toList.map .scalar

def PyChar.isSpace : PyChar → Bool
  | .scalar c => PythonText.isSpace c
  | .surrogate _ => false

def PyChar.char? : PyChar → Option Char
  | .scalar c => some c
  | .surrogate _ => none

def stripText (text : PyText) : PyText :=
  ((text.dropWhile PyChar.isSpace).reverse.dropWhile PyChar.isSpace).reverse

/-- `"\n\n".join(texts)`. -/
def joinLines (texts : List PyText) : PyText := (ofString "\n\n").intercalate texts

/-- The text whose bytes `text.encode("utf-8")` are; it raises on a lone surrogate. -/
def encode (text : PyText) : Option String :=
  if text.all (·.char?.isSome) = true then some (String.ofList (text.filterMap PyChar.char?)) else none

end BlogOps.PythonText
