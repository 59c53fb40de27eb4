import Mt6582.Gps.Platform

/-! # The NMEA tokenizer and its number readers

Tokens are pointer ranges. A pointer is an offset into the object it points to: the reader's `in`
array, or the empty string literal that stands for a missing token. Reads go through `byteAt`, so a
read one past a token sees whatever byte lies there, as in the source.
-/

namespace Mt6582.Gps

/-- The byte at an offset of an object. -/
def byteAt (mem : List Byte) (i : Nat) : Byte := mem.getD i 0

/-- The bytes of the range `[p, q)`. -/
def slice (mem : List Byte) (p q : Nat) : List Byte := (mem.take q).drop p

/-- `Token`: the range `[p, fin)` of the object `mem`. -/
structure Token where
  mem : List Byte
  p : Nat
  fin : Nat
deriving DecidableEq, Repr

/-- The bytes a token covers. -/
def Token.text (tok : Token) : List Byte := slice tok.mem tok.p tok.fin

/-- `tok.p[0]`, read even when the token is empty. -/
def Token.first (tok : Token) : Byte := byteAt tok.mem tok.p

/-- `!memcmp(p, text, sizeof(text))`. -/
def memEq (mem : List Byte) : Nat → List Byte → Bool
  | _, [] => true
  | p, c :: rest => byteAt mem p == c && memEq mem (p + 1) rest

/-- `memchr(p, c, n)` as an offset. -/
def memchr (mem : List Byte) (c : Byte) : Nat → Nat → Option Nat
  | _, 0 => none
  | p, n + 1 => if byteAt mem p = c then some p else memchr mem c (p + 1) n

def maxNmeaTokens : Nat := 24

/-- The range that remains of `[p, fin)` without `$`, line end and checksum. -/
def nmeaTokenizerTrim (mem : List Byte) (p fin : Nat) : Nat × Nat :=
  let p := if p < fin ∧ byteAt mem p = dollar then p + 1 else p
  let fin :=
    if p < fin ∧ byteAt mem (fin - 1) = lf then
      if p < fin - 1 ∧ byteAt mem (fin - 1 - 1) = cr then fin - 1 - 1 else fin - 1
    else fin
  let fin := if p + 3 ≤ fin ∧ byteAt mem (fin - 3) = star then fin - 3 else fin
  (p, fin)

/-- The loop of `nmea_tokenizer_init`. Every round advances `p`, so `fin - p` rounds suffice. -/
def nmeaTokenizerLoop (mem : List Byte) (fin : Nat) : Nat → Nat → List Token → List Token
  | 0, _, tokens => tokens
  | rounds + 1, p, tokens =>
      if p < fin then
        let q := (memchr mem comma p (fin - p)).getD fin
        let tokens :=
          if p ≤ q ∧ tokens.length < maxNmeaTokens then tokens ++ [⟨mem, p, q⟩] else tokens
        nmeaTokenizerLoop mem fin rounds (if q < fin then q + 1 else q) tokens
      else tokens

/-- `nmea_tokenizer_init`; the count is the length of the list. -/
def nmeaTokenizerInit (mem : List Byte) (p fin : Nat) : List Token :=
  let range := nmeaTokenizerTrim mem p fin
  nmeaTokenizerLoop mem range.2 (range.2 - range.1) range.1 []

/-- `nmea_tokenizer_get`; a missing token is the empty literal. -/
def nmeaTokenizerGet (tokens : List Token) (index : Nat) : Token :=
  tokens.getD index ⟨[0], 0, 0⟩

/-- The digit loop of `str2int`; `none` is its `goto Fail`. -/
def str2intLoop (mem : List Byte) (fin : Nat) : Nat → Nat → Int → Option Int
  | 0, _, result => some result
  | len + 1, p, result =>
      if fin ≤ p then none
      else
        let c : Int := (byteAt mem p).toNat - 48
        if 0 ≤ c ∧ c < 10 then str2intLoop mem fin len (p + 1) (wrap32 (result * 10 + c)) else none

def str2int (mem : List Byte) (p fin : Nat) : Int :=
  let start := if byteAt mem p = minus then p + 1 else p
  match str2intLoop mem fin (fin - start) start 0 with
  | some result => if byteAt mem p = minus then wrap32 (-result) else result
  | none => -1

/-- `str2float`: longer texts than `temp[16]` can hold read as zero. -/
def str2float {F : Type} (pf : Platform F) (mem : List Byte) (p fin : Nat) : F :=
  if 16 ≤ fin - p then pf.ofInt 0 else pf.strtod (slice mem p fin)

def Token.int (tok : Token) : Int := str2int tok.mem tok.p tok.fin

def Token.float {F : Type} (pf : Platform F) (tok : Token) : F := str2float pf tok.mem tok.p tok.fin

end Mt6582.Gps
