/-
This file reads and writes the UTF-8 form of a text. Reading is strict, where one
ill-formed byte refuses the whole, or lenient, where every longest ill-formed
piece becomes the replacement character U+FFFD. Both are the same walk over the
bytes and differ only in what they do with an ill-formed piece.
-/

namespace HandleFederation.Text.Utf8

/-! ### Writing -/

/-- The bytes of a list of characters. -/
def encode (letters : List Char) : List UInt8 :=
  letters.flatMap String.utf8EncodeChar

/-! ### Reading -/

/-- What stands at the front of a list of bytes: a character that takes some bytes, or an
ill-formed piece of some bytes. -/
inductive Piece where
  | letter (value : Char) (size : Nat)
  | illFormed (size : Nat)

/-- The number of bytes of a piece. -/
def Piece.size : Piece → Nat
  | .letter _ size => size
  | .illFormed size => size

/-- A byte that continues a character, `10xxxxxx`. -/
def isContinuation (byte : UInt8) : Bool :=
  0x80 ≤ byte && byte ≤ 0xBF

/-- The payload of a continuation byte. -/
def payload (byte : UInt8) : Nat :=
  byte.toNat - 0x80

/-- The bytes that may follow a first byte: those that keep the character in range, out of the
surrogates and in its shortest form. -/
def secondAllowed (first second : UInt8) : Bool :=
  if first == 0xE0 then 0xA0 ≤ second && second ≤ 0xBF
  else if first == 0xED then 0x80 ≤ second && second ≤ 0x9F
  else if first == 0xF0 then 0x90 ≤ second && second ≤ 0xBF
  else if first == 0xF4 then 0x80 ≤ second && second ≤ 0x8F
  else isContinuation second

/-- The piece at the front of a list that starts with a given byte. -/
def frontPiece (first : UInt8) (rest : List UInt8) : Piece :=
  let lead := first.toNat
  if first < 0x80 then .letter (Char.ofNat lead) 1
  else if first < 0xC2 then .illFormed 1
  else if first < 0xE0 then
    match rest with
    | second :: _ =>
      if isContinuation second then .letter (Char.ofNat ((lead - 0xC0) * 64 + payload second)) 2
      else .illFormed 1
    | [] => .illFormed 1
  else if first < 0xF0 then
    match rest with
    | second :: third :: _ =>
      if !secondAllowed first second then .illFormed 1
      else if !isContinuation third then .illFormed 2
      else .letter (Char.ofNat (((lead - 0xE0) * 64 + payload second) * 64 + payload third)) 3
    | [second] => if secondAllowed first second then .illFormed 2 else .illFormed 1
    | [] => .illFormed 1
  else if first < 0xF5 then
    match rest with
    | second :: third :: fourth :: _ =>
      if !secondAllowed first second then .illFormed 1
      else if !isContinuation third then .illFormed 2
      else if !isContinuation fourth then .illFormed 3
      else .letter (Char.ofNat ((((lead - 0xF0) * 64 + payload second) * 64 + payload third) * 64
        + payload fourth)) 4
    | [second, third] =>
      if !secondAllowed first second then .illFormed 1
      else if !isContinuation third then .illFormed 2
      else .illFormed 3
    | [second] => if secondAllowed first second then .illFormed 2 else .illFormed 1
    | [] => .illFormed 1
  else .illFormed 1

/-- The characters of a list of bytes, or nothing when a piece of it is ill-formed. -/
def decode? : List UInt8 → Option (List Char)
  | [] => some []
  | first :: rest =>
    match frontPiece first rest with
    | .letter value size => (decode? (rest.drop (size - 1))).map (value :: ·)
    | .illFormed _ => none
termination_by bytes => bytes.length
decreasing_by simp only [List.length_drop, List.length_cons]; omega

/-- The characters of a list of bytes, with U+FFFD for every ill-formed piece. -/
def decodeLenient : List UInt8 → List Char
  | [] => []
  | first :: rest =>
    match frontPiece first rest with
    | .letter value size => value :: decodeLenient (rest.drop (size - 1))
    | .illFormed size => '\uFFFD' :: decodeLenient (rest.drop (size - 1))
termination_by bytes => bytes.length
decreasing_by all_goals (simp only [List.length_drop, List.length_cons]; omega)

/-- The bytes of a text. -/
def bytes (text : String) : List UInt8 :=
  encode text.toList

end HandleFederation.Text.Utf8
