import Understudy.Json.Basic

/-!
# Reading JSON text

A strict reader: blanks are space, tab, line feed and carriage return; a string may not hold a raw
control character, and escapes are the eight short ones and `\uXXXX`; a number has no leading
zero, no bare point and no empty exponent; nothing but blanks may follow the document.
`readWithin?` also bounds how deep arrays and objects nest.

An escaped high surrogate followed by an escaped low one is one character. A string, or an object
with a key, that escapes a surrogate without its partner reads as `unpairedSurrogate`. Numbers are
kept as written. What a document is worth beyond its syntax (numbers in range, text that is text)
is for its reader to ask (`Json.Numeral`).

Nesting is read by recursive descent. Between two nested calls of the descent at most one further
call is made without consuming a character, so a budget of two calls per character, plus two,
always suffices; `read?` grants it.
-/

namespace Understudy.Json

def isBlank (c : Char) : Bool := c = ' ' || c = '\t' || c = '\n' || c = '\r'

def skipBlanks (cs : List Char) : List Char := cs.dropWhile isBlank

def hexValue? (c : Char) : Option Nat :=
  if c.isDigit then some (c.toNat - '0'.toNat)
  else if 'a' ≤ c && c ≤ 'f' then some (c.toNat - 'a'.toNat + 10)
  else if 'A' ≤ c && c ≤ 'F' then some (c.toNat - 'A'.toNat + 10)
  else none

def hex4? (a b c d : Char) : Option Nat := do
  let a ← hexValue? a
  let b ← hexValue? b
  let c ← hexValue? c
  let d ← hexValue? d
  pure (((a * 16 + b) * 16 + c) * 16 + d)

def shortEscape? (c : Char) : Option Char :=
  match c with
  | '"' => some '"'
  | '\\' => some '\\'
  | '/' => some '/'
  | 'b' => some (Char.ofNat 8)
  | 'f' => some (Char.ofNat 12)
  | 'n' => some '\n'
  | 'r' => some '\r'
  | 't' => some '\t'
  | _ => none

def readStringBody : List Char → List Char → Bool → Option (Option String × List Char)
  | [], _, _ => none
  | '"' :: rest, acc, whole =>
    some (if whole then some (String.ofList acc.reverse) else none, rest)
  | '\\' :: 'u' :: a :: b :: c :: d :: rest, acc, whole =>
    match hex4? a b c d with
    | none => none
    | some hi =>
      if 0xD800 ≤ hi && hi < 0xDC00 then
        match _hr : rest with
        | '\\' :: 'u' :: e :: f :: g :: h :: more =>
          match hex4? e f g h with
          | some lo =>
            if 0xDC00 ≤ lo && lo < 0xE000 then
              readStringBody more
                (Char.ofNat (0x10000 + (hi - 0xD800) * 0x400 + (lo - 0xDC00)) :: acc) whole
            else readStringBody rest acc false
          | none => none
        | _ => readStringBody rest acc false
      else if 0xDC00 ≤ hi && hi < 0xE000 then readStringBody rest acc false
      else readStringBody rest (Char.ofNat hi :: acc) whole
  | '\\' :: e :: rest, acc, whole =>
    match shortEscape? e with
    | some c => readStringBody rest (c :: acc) whole
    | none => none
  | c :: rest, acc, whole =>
    if c.toNat < 0x20 then none else readStringBody rest (c :: acc) whole
termination_by cs _ _ => cs.length
decreasing_by all_goals (try subst _hr); all_goals (simp only [List.length_cons]; omega)

def spanDigits (cs : List Char) : List Char × List Char :=
  (cs.takeWhile Char.isDigit, cs.dropWhile Char.isDigit)

def digitsValue (ds : List Char) : Nat :=
  ds.foldl (fun acc c => acc * 10 + (c.toNat - '0'.toNat)) 0

def readNumeral (cs : List Char) : Option (Numeral × List Char) :=
  let (negative, cs) := match cs with
    | '-' :: rest => (true, rest)
    | rest => (false, rest)
  let (whole, rest) := spanDigits cs
  if whole.isEmpty || (whole.length > 1 && whole.head? = some '0') then none
  else
    let fracPart : Option (Option String × List Char) := match rest with
      | '.' :: more =>
        let (frac, rest) := spanDigits more
        if frac.isEmpty then none else some (some (String.ofList frac), rest)
      | _ => some (none, rest)
    match fracPart with
    | none => none
    | some (fraction, rest) =>
      let expPart : Option (Option Int × List Char) := match rest with
        | e :: more =>
          if e = 'e' || e = 'E' then
            let (neg, more) := match more with
              | '+' :: r => (false, r)
              | '-' :: r => (true, r)
              | r => (false, r)
            let (digits, rest) := spanDigits more
            if digits.isEmpty then none
            else
              let x : Int := digitsValue digits
              some (some (if neg then -x else x), rest)
          else some (none, rest)
        | [] => some (none, [])
      expPart.map fun (exponent, rest) =>
        (⟨negative, String.ofList whole, fraction, exponent⟩, rest)

mutual

def readValue : Nat → Nat → List Char → Option (Json × List Char)
  | 0, _, _ => none
  | fuel + 1, room, cs =>
    match skipBlanks cs with
    | '{' :: rest =>
      if room ≤ 1 then none else
      match skipBlanks rest with
      | '}' :: rest => some (.obj [], rest)
      | rest => readFields fuel (room - 1) rest [] true
    | '[' :: rest =>
      if room ≤ 1 then none else
      match skipBlanks rest with
      | ']' :: rest => some (.arr [], rest)
      | rest => readItems fuel (room - 1) rest []
    | '"' :: rest =>
      (readStringBody rest [] true).map fun (s, r) => (s.elim .unpairedSurrogate .str, r)
    | 't' :: 'r' :: 'u' :: 'e' :: rest => some (.bool true, rest)
    | 'f' :: 'a' :: 'l' :: 's' :: 'e' :: rest => some (.bool false, rest)
    | 'n' :: 'u' :: 'l' :: 'l' :: rest => some (.null, rest)
    | cs => (readNumeral cs).map fun (n, r) => (.number n, r)

def readItems : Nat → Nat → List Char → List Json → Option (Json × List Char)
  | 0, _, _, _ => none
  | fuel + 1, room, cs, acc =>
    match readValue fuel room cs with
    | none => none
    | some (v, rest) =>
      match skipBlanks rest with
      | ',' :: rest => readItems fuel room rest (v :: acc)
      | ']' :: rest => some (.arr (v :: acc).reverse, rest)
      | _ => none

def readFields : Nat → Nat → List Char → List (String × Json) → Bool → Option (Json × List Char)
  | 0, _, _, _, _ => none
  | fuel + 1, room, cs, acc, whole =>
    match skipBlanks cs with
    | '"' :: rest =>
      match readStringBody rest [] true with
      | none => none
      | some (key, rest) =>
        match skipBlanks rest with
        | ':' :: rest =>
          match readValue fuel room rest with
          | none => none
          | some (v, rest) =>
            let acc := (key.getD "", v) :: acc
            let whole := whole && key.isSome
            match skipBlanks rest with
            | ',' :: rest => readFields fuel room rest acc whole
            | '}' :: rest => some (if whole then .obj acc.reverse else .unpairedSurrogate, rest)
            | _ => none
        | _ => none
    | _ => none

end

def readWithin? (room : Nat) (s : String) : Option Json :=
  let cs := s.toList
  match readValue (2 * cs.length + 2) room cs with
  | some (v, rest) => if (skipBlanks rest).isEmpty then some v else none
  | none => none

def read? (s : String) : Option Json := readWithin? (s.length + 2) s

end Understudy.Json
