/-!
Text from bytes. Every byte sequence decodes: each maximal stretch of bytes that starts a
character but does not complete it, and each byte that can start none, becomes one replacement
character. The decoder is an automaton that reads one byte at a time, so its run over two
sequences is its run over the first followed by its run over the second from where the first
left it (`decodeFrom_append`).
-/

namespace Kaleidoscope.Utf8

def replacement : Char := '\uFFFD'

/-- A character of which the first bytes have been read: their payload, how many bytes are
still owed, and the range the next of them must fall in. -/
structure Partial where
  payload : Nat
  owed : Nat
  low : Nat
  high : Nat

/-- What the decoder knows between two bytes: nothing, or the beginning of a character. -/
abbrev State := Option Partial

/-- A byte read where a character may start. The second byte is restricted after E0 and F0,
where a smaller one would spell a character that fits fewer bytes, after ED, where a larger one
would spell a surrogate, and after F4, where a larger one would pass the last character. -/
def begin (byte : Nat) : List Char × State :=
  if byte < 0x80 then ([Char.ofNat byte], none)
  else if 0xC2 ≤ byte ∧ byte ≤ 0xDF then ([], some ⟨byte - 0xC0, 1, 0x80, 0xBF⟩)
  else if byte = 0xE0 then ([], some ⟨0, 2, 0xA0, 0xBF⟩)
  else if byte = 0xED then ([], some ⟨0xD, 2, 0x80, 0x9F⟩)
  else if 0xE1 ≤ byte ∧ byte ≤ 0xEF then ([], some ⟨byte - 0xE0, 2, 0x80, 0xBF⟩)
  else if byte = 0xF0 then ([], some ⟨0, 3, 0x90, 0xBF⟩)
  else if 0xF1 ≤ byte ∧ byte ≤ 0xF3 then ([], some ⟨byte - 0xF0, 3, 0x80, 0xBF⟩)
  else if byte = 0xF4 then ([], some ⟨4, 3, 0x80, 0x8F⟩)
  else ([replacement], none)

/-- A byte that continues a character: the last one owed completes it. -/
def Partial.extend (p : Partial) (byte : Nat) : List Char × State :=
  let payload := p.payload * 0x40 + (byte - 0x80)
  if p.owed ≤ 1 then ([Char.ofNat payload], none)
  else ([], some ⟨payload, p.owed - 1, 0x80, 0xBF⟩)

/-- The characters that a byte completes and the state after it. A byte that cannot continue
the character begun ends it as damaged and is itself read afresh. -/
def step : State → Nat → List Char × State
  | none, byte => begin byte
  | some p, byte =>
    if p.low ≤ byte ∧ byte ≤ p.high then p.extend byte
    else (replacement :: (begin byte).1, (begin byte).2)

/-- What the end of the bytes leaves: a character begun and not completed is damaged. -/
def flush : State → List Char
  | none => []
  | some _ => [replacement]

def decodeFrom (s : State) : List UInt8 → List Char
  | [] => flush s
  | b :: bytes => (step s b.toNat).1 ++ decodeFrom (step s b.toNat).2 bytes

def decode (bytes : List UInt8) : List Char :=
  decodeFrom none bytes

/-- The state after a sequence of bytes. -/
def advance (s : State) : List UInt8 → State
  | [] => s
  | b :: bytes => advance (step s b.toNat).2 bytes

/-- The characters completed within a sequence of bytes. -/
def completed (s : State) : List UInt8 → List Char
  | [] => []
  | b :: bytes => (step s b.toNat).1 ++ completed (step s b.toNat).2 bytes

theorem decodeFrom_append (s : State) (a b : List UInt8) :
    decodeFrom s (a ++ b) = completed s a ++ decodeFrom (advance s a) b := by
  induction a generalizing s with
  | nil => simp [completed, advance]
  | cons x a ih => simp [decodeFrom, completed, advance, ih]

/-- How many bytes a text takes. -/
def size : List Char → Nat
  | [] => 0
  | c :: rest => c.utf8Size + size rest

theorem size_append (a b : List Char) : size (a ++ b) = size a + size b := by
  induction a with
  | nil => rw [List.nil_append, size, Nat.zero_add]
  | cons c a ih => rw [List.cons_append, size, size, ih, Nat.add_assoc]

end Kaleidoscope.Utf8
