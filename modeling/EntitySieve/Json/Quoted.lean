import EntitySieve.Json.Value

/-! Text inside a JSON string. Writing escapes what has to be escaped and nothing else; reading
takes every escape, and pairs the two halves of a character that is escaped as two code units. -/
namespace EntitySieve.Json

def hexDigits : Text := "0123456789abcdef"

/-- The letter of a two-character escape and the character it stands for. -/
def shortEscapes : List (Char × Char) :=
  [('"', '"'), ('\\', '\\'), ('b', '\x08'), ('f', '\x0c'), ('n', '\n'), ('r', '\r'), ('t', '\t')]

def escapeChar (c : Char) : Text :=
  match shortEscapes.find? fun e => e.2 == c with
  | some e => ['\\', e.1]
  | none =>
    if c.toNat < 0x20 then
      "\\u00" ++ [hexDigits.getD (c.toNat / 16) '0', hexDigits.getD (c.toNat % 16) '0']
    else [c]

def escape (t : Text) : Text := t.flatMap escapeChar

def hexValue? (c : Char) : Option Nat :=
  if '0' ≤ c ∧ c ≤ '9' then some (c.toNat - '0'.toNat)
  else if 'a' ≤ c ∧ c ≤ 'f' then some (c.toNat - 'a'.toNat + 10)
  else if 'A' ≤ c ∧ c ≤ 'F' then some (c.toNat - 'A'.toNat + 10)
  else none

/-- The number that hexadecimal digits denote. -/
def hexNumber? (t : Text) : Option Nat :=
  t.foldl (fun n c => do return 16 * (← n) + (← hexValue? c)) (some 0)

/-- A solidus may be escaped too. -/
def shortEscape? (letter : Char) : Option Char :=
  if letter = '/' then some '/' else shortEscapes.lookup letter

/-- The code points of a string body, a surrogate half counting as one. A body holds no quote and no
control character as itself, and no escape that JSON does not know. -/
def codePoints? : Text → Option (List Nat)
  | [] => some []
  | '\\' :: 'u' :: a :: b :: c :: d :: t => do
    return (← hexNumber? [a, b, c, d]) :: (← codePoints? t)
  | '\\' :: e :: t => do
    return (← shortEscape? e).toNat :: (← codePoints? t)
  | c :: t =>
    if c = '\\' ∨ c = '"' ∨ c.toNat < 0x20 then none else (codePoints? t).map (c.toNat :: ·)

def isHighSurrogate (n : Nat) : Bool := 0xD800 ≤ n && n ≤ 0xDBFF

def isLowSurrogate (n : Nat) : Bool := 0xDC00 ≤ n && n ≤ 0xDFFF

/-- The text of code points. A high surrogate takes the low one after it; neither stands alone. -/
def pairSurrogates? : List Nat → Option Text
  | [] => some []
  | u :: v :: us =>
    if isHighSurrogate u && isLowSurrogate v then
      (pairSurrogates? us).map (Char.ofNat (0x10000 + (u - 0xD800) * 0x400 + (v - 0xDC00)) :: ·)
    else if isHighSurrogate u || isLowSurrogate u then none
    else (pairSurrogates? (v :: us)).map (Char.ofNat u :: ·)
  | [u] => if isHighSurrogate u || isLowSurrogate u then none else some [Char.ofNat u]

def isBody (t : Text) : Bool := (codePoints? t).isSome

/-- The text that a string body stands for. -/
def unescape? (t : Text) : Option Text := do pairSurrogates? (← codePoints? t)

def ofText (t : Text) : Json := .string (escape t)

def ofText? : Option Text → Json
  | some t => ofText t
  | none => .null

/-- A member whose name is a text. -/
def member (name : Text) (v : Json) : Text × Json := (escape name, v)

end EntitySieve.Json
