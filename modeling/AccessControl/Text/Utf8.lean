/-!
# UTF-8

Reading bytes as text. `head` splits off the first character, or the longest beginning of one that the following
byte breaks off. `decode?` wants every byte to belong to a character, while `decodeLossy` writes the replacement
character for each broken beginning.
-/
namespace AccessControl.Text.Utf8

/-- Whether a byte continues a character. -/
def isContinuation (b : UInt8) : Bool :=
  0x80 ≤ b && b ≤ 0xBF

/-- Whether `b` may follow the first byte `a` of a character of three or four bytes. -/
def isSecond (a b : UInt8) : Bool :=
  if a = 0xE0 then 0xA0 ≤ b && b ≤ 0xBF
  else if a = 0xED then 0x80 ≤ b && b ≤ 0x9F
  else if a = 0xF0 then 0x90 ≤ b && b ≤ 0xBF
  else if a = 0xF4 then 0x80 ≤ b && b ≤ 0x8F
  else isContinuation b

/-- The low bits of a byte. -/
def low (bits : Nat) (b : UInt8) : Nat :=
  b.toNat % Nat.pow 2 bits

/-- The character of two bytes. -/
def char2 (a b : UInt8) : Char :=
  Char.ofNat (low 5 a * 64 + low 6 b)

/-- The character of three bytes. -/
def char3 (a b c : UInt8) : Char :=
  Char.ofNat (low 4 a * 4096 + low 6 b * 64 + low 6 c)

/-- The character of four bytes. -/
def char4 (a b c d : UInt8) : Char :=
  Char.ofNat (low 3 a * 262144 + low 6 b * 4096 + low 6 c * 64 + low 6 d)

/-- The first character behind its first byte, with the number of bytes taken from the rest. -/
def after (a : UInt8) (rest : List UInt8) : Option Char × Nat :=
  if a < 0x80 then (some (Char.ofNat a.toNat), 0)
  else if 0xC2 ≤ a && a ≤ 0xDF then
    match rest with
    | b :: _ => if isContinuation b then (some (char2 a b), 1) else (none, 0)
    | [] => (none, 0)
  else if 0xE0 ≤ a && a ≤ 0xEF then
    match rest with
    | b :: c :: _ =>
      if !isSecond a b then (none, 0)
      else if isContinuation c then (some (char3 a b c), 2) else (none, 1)
    | [b] => (none, if isSecond a b then 1 else 0)
    | [] => (none, 0)
  else if 0xF0 ≤ a && a ≤ 0xF4 then
    match rest with
    | b :: c :: more =>
      if !isSecond a b then (none, 0)
      else if !isContinuation c then (none, 1)
      else match more with
        | d :: _ => if isContinuation d then (some (char4 a b c d), 3) else (none, 2)
        | [] => (none, 2)
    | [b] => (none, if isSecond a b then 1 else 0)
    | [] => (none, 0)
  else (none, 0)

/-- The characters of some bytes, with none for each broken beginning. -/
def chars (bs : List UInt8) : List (Option Char) :=
  match bs with
  | [] => []
  | a :: rest => (after a rest).1 :: chars (rest.drop (after a rest).2)
termination_by bs.length
decreasing_by
  simp only [List.length_cons, List.length_drop]
  omega

/-- The text of some bytes, if they are well-formed. -/
def decode? (bs : List UInt8) : Option String :=
  ((chars bs).mapM id).map String.ofList

/-- The text of some bytes, with the replacement character where they are ill-formed. -/
def decodeLossy (bs : List UInt8) : String :=
  String.ofList ((chars bs).map fun c => c.getD '\uFFFD')

end AccessControl.Text.Utf8
