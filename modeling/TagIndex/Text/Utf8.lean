/-! UTF-8: reading bytes as characters, and finding the first byte that is not part of one. -/

namespace TagIndex.Text.Utf8

def encode (text : List Char) : List UInt8 := text.flatMap String.utf8EncodeChar

@[simp] theorem encode_nil : encode [] = [] := rfl

@[simp] theorem encode_cons (c : Char) (text : List Char) :
    encode (c :: text) = String.utf8EncodeChar c ++ encode text := rfl

@[simp] theorem encode_append (a b : List Char) : encode (a ++ b) = encode a ++ encode b :=
  List.flatMap_append

def isContinuation (b : UInt8) : Bool := 0x80 ≤ b && b ≤ 0xBF

def low (b : UInt8) : Nat := b.toNat % 64

/-- Whether the second byte may come after the first byte of a longer sequence. It is restricted
after some first bytes, which rules out overlong forms, surrogates, and code points past the
last. -/
def mayFollow (first second : UInt8) : Bool :=
  let least : UInt8 := if first = 0xE0 then 0xA0 else if first = 0xF0 then 0x90 else 0x80
  let most : UInt8 := if first = 0xED then 0x9F else if first = 0xF4 then 0x8F else 0xBF
  least ≤ second && second ≤ most

/-- The first character of a byte sequence and its length in bytes, if the sequence begins with a
well-formed character. -/
def decodeChar? : List UInt8 → Option (Char × Nat)
  | [] => none
  | a :: rest =>
    if a ≤ 0x7F then some (Char.ofNat a.toNat, 1)
    else if 0xC2 ≤ a && a ≤ 0xDF then
      match rest with
      | b :: _ =>
        if mayFollow a b then some (Char.ofNat (a.toNat % 32 * 64 + low b), 2) else none
      | _ => none
    else if 0xE0 ≤ a && a ≤ 0xEF then
      match rest with
      | b :: c :: _ =>
        if mayFollow a b && isContinuation c then
          some (Char.ofNat ((a.toNat % 16 * 64 + low b) * 64 + low c), 3)
        else none
      | _ => none
    else if 0xF0 ≤ a && a ≤ 0xF4 then
      match rest with
      | b :: c :: d :: _ =>
        if mayFollow a b && isContinuation c && isContinuation d then
          some (Char.ofNat (((a.toNat % 8 * 64 + low b) * 64 + low c) * 64 + low d), 4)
        else none
      | _ => none
    else none

structure Flaw where
  offset : Nat
  /-- How many bytes from there on begin no character, whatever comes next; none if the bytes end
  within a character. -/
  length : Option Nat
deriving BEq, DecidableEq, Inhabited, Repr

/-- The length of the flaw at the start of bytes that begin with no well-formed character. -/
def flawLength? : List UInt8 → Option Nat
  | [] => none
  | a :: rest =>
    if 0xC2 ≤ a && a ≤ 0xF4 then
      match rest with
      | [] => none
      | b :: rest =>
        if !mayFollow a b then some 1
        else match rest with
          | [] => none
          | c :: rest =>
            if !isContinuation c then some 2
            else match rest with
              | [] => none
              | _ :: _ => some 3
    else some 1

def Flaw.message : Flaw → String
  | ⟨offset, some n⟩ =>
    "invalid utf-8 sequence of " ++ toString n ++ " bytes from index " ++ toString offset
  | ⟨offset, none⟩ => "incomplete utf-8 byte sequence from index " ++ toString offset

theorem decodeChar?_length_pos {bytes : List UInt8} {c : Char} {n : Nat}
    (h : decodeChar? bytes = some (c, n)) : 0 < n ∧ bytes ≠ [] := by
  unfold decodeChar? at h
  grind

def decodeFrom (offset : Nat) (done : List Char) (bytes : List UInt8) : Except Flaw (List Char) :=
  match _ : decodeChar? bytes with
  | some (c, n) => decodeFrom (offset + n) (c :: done) (bytes.drop n)
  | none => if bytes.isEmpty then .ok done.reverse else .error ⟨offset, flawLength? bytes⟩
termination_by bytes.length
decreasing_by
  have := decodeChar?_length_pos ‹decodeChar? bytes = some (c, n)›
  cases bytes <;> grind

def decode (bytes : List UInt8) : Except Flaw (List Char) := decodeFrom 0 [] bytes

end TagIndex.Text.Utf8
