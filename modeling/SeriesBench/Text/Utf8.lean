set_option autoImplicit false

/-!
# Text as bytes

`utf8` writes text in UTF-8. `readUtf8` reads any bytes: it gives a character for each well-formed
sequence and `none` for each run of bytes that begins one and is cut short, and for each byte that
begins none.
-/
namespace SeriesBench.Text

def utf8 (s : List Char) : List UInt8 := s.flatMap String.utf8EncodeChar

def byteLength (s : List Char) : Nat := (utf8 s).length

def dropBytes? : Nat → List Char → Option (List Char)
  | 0, s => some s
  | _, [] => none
  | n, c :: cs => if c.utf8Size ≤ n then dropBytes? (n - c.utf8Size) cs else none

def takeBytes? : Nat → List Char → Option (List Char)
  | 0, _ => some []
  | _, [] => none
  | n, c :: cs =>
    if c.utf8Size ≤ n then (takeBytes? (n - c.utf8Size) cs).map (c :: ·) else none

def slice? (first stop : Nat) (s : List Char) : Option (List Char) :=
  (dropBytes? first s).bind (takeBytes? (stop - first))

/-- A sequence that is still to be completed: the bits so far, the number of bytes to come, and the
range of the next of them. -/
structure PartialChar where
  bits : Nat
  missing : Nat
  least : UInt8
  greatest : UInt8
deriving DecidableEq, Repr

inductive FirstByte where
  | char (c : Char)
  | opens (p : PartialChar)
  | stray
deriving DecidableEq, Repr

/-- What a byte says as the first of a sequence. Neither longer sequences than needed nor surrogates
nor numbers above the last character can be begun. -/
def firstByte (b : UInt8) : FirstByte :=
  let n := b.toNat
  if n < 0x80 then .char (Char.ofNat n)
  else if n < 0xC2 then .stray
  else if n < 0xE0 then .opens ⟨n - 0xC0, 1, 0x80, 0xBF⟩
  else if n = 0xE0 then .opens ⟨0, 2, 0xA0, 0xBF⟩
  else if n = 0xED then .opens ⟨0xD, 2, 0x80, 0x9F⟩
  else if n < 0xF0 then .opens ⟨n - 0xE0, 2, 0x80, 0xBF⟩
  else if n = 0xF0 then .opens ⟨0, 3, 0x90, 0xBF⟩
  else if n < 0xF4 then .opens ⟨n - 0xF0, 3, 0x80, 0xBF⟩
  else if n = 0xF4 then .opens ⟨4, 3, 0x80, 0x8F⟩
  else .stray

def readOn (open? : Option PartialChar) : List UInt8 → List (Option Char)
  | [] => if open?.isSome then [none] else []
  | b :: bs =>
    let start (_ : Unit) : List (Option Char) :=
      match firstByte b with
      | .char c => some c :: readOn none bs
      | .opens p => readOn (some p) bs
      | .stray => none :: readOn none bs
    match open? with
    | none => start ()
    | some p =>
      if p.least ≤ b ∧ b ≤ p.greatest then
        let bits := p.bits * 0x40 + (b.toNat - 0x80)
        if p.missing ≤ 1 then some (Char.ofNat bits) :: readOn none bs
        else readOn (some ⟨bits, p.missing - 1, 0x80, 0xBF⟩) bs
      else none :: start ()

def readUtf8 (bytes : List UInt8) : List (Option Char) := readOn none bytes

def ofUtf8? (bytes : List UInt8) : Option (List Char) := (readUtf8 bytes).mapM id

/-- The text of the bytes with U+FFFD for what is malformed. -/
def ofUtf8Lossy (bytes : List UInt8) : List Char := (readUtf8 bytes).map (·.getD '\uFFFD')

end SeriesBench.Text
