/-!
# UTF-8

A text as bytes and bytes as a text. Reading bytes gives one entry per character or per
ill-formed piece, a piece being as long as a well-formed character could have started; a lossy
reading puts the replacement character for each piece and a strict one refuses them. A text can
also be clipped to a budget of bytes, from which the cut goes back to the edge of a character.
-/

namespace Metering.Text

/-- The bytes of a text. -/
def utf8 (s : List Char) : List UInt8 :=
  s.flatMap String.utf8EncodeChar

/-- The number of bytes of a text. -/
def utf8Size : List Char → Nat
  | [] => 0
  | c :: rest => c.utf8Size + utf8Size rest

/-- A byte that continues a character. -/
def isContinuation (b : UInt8) : Bool :=
  0x80 ≤ b && b ≤ 0xBF

/-- The six low bits of a byte. -/
def low6 (b : UInt8) : Nat :=
  b.toNat % 64

/--
Whether the second byte can follow the first one. The bounds rule out overlong forms, surrogates
and numbers beyond the last code point.
-/
def mayFollow (first second : UInt8) : Bool :=
  let lowest : UInt8 := if first == 0xE0 then 0xA0 else if first == 0xF0 then 0x90 else 0x80
  let highest : UInt8 := if first == 0xED then 0x9F else if first == 0xF4 then 0x8F else 0xBF
  lowest ≤ second && second ≤ highest

/-- The characters of the bytes in order, `none` for each ill-formed piece. -/
def readUtf8 : List UInt8 → List (Option Char)
  | [] => []
  | b :: rest =>
    if b < 0x80 then some (Char.ofNat b.toNat) :: readUtf8 rest
    else if b < 0xC2 || 0xF4 < b then none :: readUtf8 rest
    else if b < 0xE0 then
      match rest with
      | c :: more =>
        if isContinuation c then
          some (Char.ofNat (b.toNat % 32 * 64 + low6 c)) :: readUtf8 more
        else none :: readUtf8 (c :: more)
      | [] => [none]
    else if b < 0xF0 then
      match rest with
      | c :: more =>
        if mayFollow b c then
          match more with
          | d :: more =>
            if isContinuation d then
              some (Char.ofNat (b.toNat % 16 * 4096 + low6 c * 64 + low6 d)) :: readUtf8 more
            else none :: readUtf8 (d :: more)
          | [] => [none]
        else none :: readUtf8 (c :: more)
      | [] => [none]
    else
      match rest with
      | c :: more =>
        if mayFollow b c then
          match more with
          | d :: more =>
            if isContinuation d then
              match more with
              | e :: more =>
                if isContinuation e then
                  some (Char.ofNat
                    (b.toNat % 8 * 262144 + low6 c * 4096 + low6 d * 64 + low6 e)) ::
                    readUtf8 more
                else none :: readUtf8 (e :: more)
              | [] => [none]
            else none :: readUtf8 (d :: more)
          | [] => [none]
        else none :: readUtf8 (c :: more)
      | [] => [none]
termination_by bytes => bytes.length

/-- The text of the bytes, a replacement character for each ill-formed piece. -/
def ofUtf8Lossy (bytes : List UInt8) : List Char :=
  (readUtf8 bytes).map fun c => c.getD '\uFFFD'

/-- The text of the bytes, if they are well-formed. -/
def ofUtf8? (bytes : List UInt8) : Option (List Char) :=
  (readUtf8 bytes).mapM id

/-- Whether a position among the bytes of a text is an edge of a character. -/
def isEdge (bytes : List UInt8) (position : Nat) : Bool :=
  position == 0 ||
    match bytes[position]? with
    | some b => !isContinuation b
    | none => position == bytes.length

/-- The first edge that is met from a position on, going back byte by byte. The beginning is one. -/
def edgeBefore (bytes : List UInt8) : Nat → Nat
  | 0 => 0
  | n + 1 => if isEdge bytes (n + 1) then n + 1 else edgeBefore bytes n

/--
A text that fits the budget of bytes, and of any other what stands before the last edge within the
budget.
-/
def clip (budget : Nat) (s : List Char) : List Char :=
  let bytes := utf8 s
  if bytes.length ≤ budget then s else ofUtf8Lossy (bytes.take (edgeBefore bytes budget))

end Metering.Text
