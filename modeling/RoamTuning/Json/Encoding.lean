import RoamTuning.Json

/-!
# Encodings of JSON documents

A document arrives as bytes. Where zero bytes stand among the first ones tells
UTF-16 and UTF-32 in either byte order from UTF-8, since a document starts with
a character of ASCII. A byte order mark in front of UTF-8 is passed over.

Results:

* `encodingOf_ascii`: bytes that start with two other than zero are UTF-8.
-/

namespace RoamTuning.Json

/-- How the characters of a document are encoded; units of two and four bytes
    have their high byte first or last. -/
inductive Encoding where
  | utf8
  | utf16 (highFirst : Bool)
  | utf32 (highFirst : Bool)
deriving DecidableEq, Repr

/-- The encoding that the first bytes of a document tell. -/
def encodingOf : List Nat → Encoding
  | a :: b :: c :: d :: _ =>
    if a = 0 then (if b = 0 then .utf32 true else .utf16 true)
    else if b = 0 then (if c = 0 ∧ d = 0 then .utf32 false else .utf16 false)
    else .utf8
  | [a, b] => if a = 0 then .utf16 true else if b = 0 then .utf16 false else .utf8
  | _ => .utf8

/-- The number that bytes make up. -/
def numberOf (highFirst : Bool) (bytes : List Nat) : Nat :=
  (if highFirst then bytes else bytes.reverse).foldl (fun n b => 256 * n + b) 0

/-- The numbers of units of two bytes; `none` if a byte is left over. -/
def units16 (highFirst : Bool) : List Nat → Option (List Nat)
  | [] => some []
  | a :: b :: r => (units16 highFirst r).map (numberOf highFirst [a, b] :: ·)
  | _ => none

/-- The numbers of units of four bytes; `none` if bytes are left over. -/
def units32 (highFirst : Bool) : List Nat → Option (List Nat)
  | [] => some []
  | a :: b :: c :: d :: r => (units32 highFirst r).map (numberOf highFirst [a, b, c, d] :: ·)
  | _ => none

/-- The code points of units of two bytes, a pair of surrogates being one. -/
def joinSurrogates : List Nat → List Code
  | [] => []
  | [n] => [.ofNat n]
  | n :: m :: r =>
    if isHighSurrogate n && isLowSurrogate m then .char (ofSurrogates n m) :: joinSurrogates r
    else .ofNat n :: joinSurrogates (m :: r)

/-- Why a body could not be read as a document. -/
inductive BodyError where
  /-- The text breaks the form of a document. -/
  | malformed
  /-- The bytes encode no text, an integer is too long, or the nesting is too
      deep. -/
  | unreadable
deriving DecidableEq, Repr

/-- What a failure to read means for a body. -/
def ReadError.inBody : ReadError → BodyError
  | .malformed => .malformed
  | .tooManyDigits => .unreadable
  | .tooDeep => .unreadable

/-- The code points that a body stands for. -/
def bodyCodes (body : String) : Except BodyError (List Code) :=
  let bytes := body.toUTF8.toList.map UInt8.toNat
  match encodingOf bytes with
  | .utf8 =>
    match body.toList with
    | '\uFEFF' :: r => .ok (r.map .char)
    | cs => .ok (cs.map .char)
  | .utf16 highFirst =>
    match units16 highFirst bytes with
    | some ns => .ok (joinSurrogates ns)
    | none => .error .unreadable
  | .utf32 highFirst =>
    match units32 highFirst bytes with
    | some ns => if ns.any (0x10FFFF < ·) then .error .unreadable else .ok (ns.map .ofNat)
    | none => .error .unreadable

/-- Reads the body of a request as a document. -/
def readBody (body : String) : Except BodyError Document := do
  let cs ← bodyCodes body
  (readCodes cs).mapError ReadError.inBody

theorem encodingOf_ascii {a b : Nat} (ha : a ≠ 0) (hb : b ≠ 0) (r : List Nat) :
    encodingOf (a :: b :: r) = .utf8 := by
  match r with
  | [] => simp [encodingOf, ha, hb]
  | [_] => rfl
  | _ :: _ :: _ => simp [encodingOf, ha, hb]

end RoamTuning.Json
