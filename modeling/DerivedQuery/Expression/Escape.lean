import DerivedQuery.Text.CharName
import DerivedQuery.Text.Quoted

/-!
# Escapes

Inside a quoted text a backslash and what follows it stand for other characters: marks for
themselves, some letters for characters that cannot be seen, and numbers and names for the character
of that code or name. A backslash before the end of a line hides the end of the line. Before
anything else it stands for itself. Codes of more than two digits and names are known in texts only,
not in byte strings.
-/

set_option autoImplicit false

namespace DerivedQuery.Escape

/-- The value of a digit of a base up to sixteen. -/
def digit? (base : Nat) (c : Char) : Option Nat :=
  let value :=
    if c.isDigit then c.toNat - 48
    else if c.isLower then c.toNat - 87
    else if c.isUpper then c.toNat - 55 else base
  if value < base then some value else none

/-- The number that some digits denote. Fails at a character that is no digit. -/
def number? (base : Nat) (digits : List Char) : Option Nat :=
  digits.foldlM (fun total c => (digit? base c).map fun value => total * base + value) 0

/-- The character of a code. Codes of half characters have none. -/
def character? (code : Nat) : Option Char :=
  if code.isValidChar then some (Char.ofNat code) else none

/-- The character of a code with a fixed number of digits at the head of a text, and the number of
digits. -/
def readCode (digits : Nat) (cs : List Char) : Option (List Char × Nat) :=
  if cs.length < digits then none
  else do
    let code ← number? 16 (cs.take digits)
    let c ← character? code
    some ([c], digits)

/-- The character of a name in braces at the head of a text, and the number of characters that name
it. -/
def readName (cs : List Char) : Option (List Char × Nat) :=
  match cs with
  | '\x7b' :: rest => do
      let name := rest.takeWhile (· != '\x7d')
      let c ← Text.namedChar? (String.ofList name)
      if name.length < rest.length then some ([c], name.length + 2) else none
  | _ => none

/-- The characters that a letter behind a backslash stands for, where it has a meaning. -/
def letter? (c : Char) : Option (List Char) :=
  match c with
  | '\n' => some []
  | 'a' => some ['\x07']
  | 'b' => some ['\x08']
  | 'f' => some ['\x0c']
  | 'n' => some ['\n']
  | 'r' => some ['\r']
  | 't' => some ['\t']
  | 'v' => some ['\x0b']
  | _ => if c = '\\' ∨ c.toNat = 34 ∨ c.toNat = 39 then some [c] else none

/-- What is meant behind a backslash, and how many characters mean it. The code of a text may be
`wide`. Fails where a code has too few digits or is the code of no character. -/
def read (wide : Bool) : List Char → Option (List Char × Nat)
  | [] => some (['\\'], 0)
  | c :: rest =>
      if (digit? 8 c).isSome then do
        let digits := ((c :: rest).take 3).takeWhile fun c => (digit? 8 c).isSome
        let code ← number? 8 digits
        let found ← character? code
        some ([found], digits.length)
      else if c = 'x' then (readCode 2 rest).map fun found => (found.1, found.2 + 1)
      else if c = 'u' && wide then (readCode 4 rest).map fun found => (found.1, found.2 + 1)
      else if c = 'U' && wide then (readCode 8 rest).map fun found => (found.1, found.2 + 1)
      else if c = 'N' && wide then (readName rest).map fun found => (found.1, found.2 + 1)
      else
        match letter? c with
        | some plain => some (plain, 1)
        | none => some (['\\', c], 1)

/-- What a text means after its first `skipped` characters, which belong to an escape that has been
read already. -/
def resolveAfter (wide : Bool) : Nat → List Char → Option (List Char)
  | _, [] => some []
  | skipped + 1, _ :: rest => resolveAfter wide skipped rest
  | 0, '\\' :: rest => do
      let (found, used) ← read wide rest
      (resolveAfter wide used rest).map fun others => found ++ others
  | 0, c :: rest => (resolveAfter wide 0 rest).map fun others => c :: others

/-- The text that a text with escapes means. -/
def text? (cs : List Char) : Option (List Char) := resolveAfter true 0 cs

/-- The byte string that a text with escapes means. Only ASCII characters stand for bytes. -/
def bytes? (cs : List Char) : Option (List UInt8) :=
  if cs.any fun c => 0x80 ≤ c.toNat then none
  else (resolveAfter false 0 cs).map fun found => found.map fun c => UInt8.ofNat c.toNat

end DerivedQuery.Escape
