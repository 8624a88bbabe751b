import Splice.Secret.Fault

/-! # Numbers in a secret's text

A number is never a wanted value, so it is read only to name it in a message. Whole numbers that
fit in 64 bits keep their digits. Every other number is a significand of at most 64 bits, scaled
by a power of ten and rounded to the binary format.
-/

namespace Splice.Secret

open Splice.Decimal Splice.Text

def faultAt (cause : Cause) (rest : List Char) : Fault :=
  ⟨cause, byteLength rest⟩

/-- A fault noticed on the next bytes of `rest`, which count as read as far as there are any. -/
def faultPast (cause : Cause) (rest : List Char) (bytes : Nat) : Fault :=
  ⟨cause, byteLength rest - bytes⟩

def greatestSignificand : Nat := Nat.pow 2 64 - 1

def greatestWrittenExponent : Nat := Nat.pow 2 31 - 1

def greatestPower : Nat := 308

/-- The whole power of ten nearest in the binary format, up to the greatest power. -/
def power? (exponent : Nat) : Option Binary64 :=
  Binary64.nearest? (Nat.pow 10 exponent) 1

/-- A number divided by a power of ten, in as many steps as the greatest power requires. -/
def scaleDown? (x : Binary64) (exponent : Nat) : Option Binary64 :=
  if exponent ≤ greatestPower then (power? exponent).bind x.div?
  else if x.significand = 0 then some x
  else
    (power? greatestPower).bind fun power =>
      (x.div? power).bind fun y => scaleDown? y (exponent - greatestPower)
termination_by exponent
decreasing_by simp only [greatestPower] at *; omega

/-- A significand times a power of ten, unless it is out of the range of the format. -/
def scale? (significand : Nat) (exponent : Int) : Option Binary64 :=
  (Binary64.nearest? significand 1).bind fun x =>
    if exponent < 0 then scaleDown? x exponent.natAbs
    else if exponent.toNat ≤ greatestPower then (power? exponent.toNat).bind x.mul?
    else if x.significand = 0 then some x
    else none

def takeDigits (text : List Char) : List Char × List Char :=
  (text.takeWhile Char.isDigit, text.dropWhile Char.isDigit)

def digitValue (digit : Char) : Nat :=
  digit.toNat - '0'.toNat

/-- Digits appended to a number as long as it stays within a bound, and the digits left over. -/
def appendDigits (bound value : Nat) : List Char → Nat × List Char
  | [] => (value, [])
  | digit :: rest =>
    let next := value * 10 + digitValue digit
    if bound < next then (value, digit :: rest) else appendDigits bound next rest

abbrev Reading := Except Fault (Found × List Char)

/-- Closes a scaled number. -/
def finishScaled (negative : Bool) (significand : Nat) (exponent : Int) (rest : List Char) :
    Reading :=
  match scale? significand exponent with
  | some magnitude => .ok (.floating negative magnitude, rest)
  | none => .error (faultAt .numberTooLarge rest)

def readExponent (negative : Bool) (significand : Nat) (exponent : Int) (text : List Char) :
    Reading :=
  let (down, unsigned) := match text with
    | '+' :: rest => (false, rest)
    | '-' :: rest => (true, rest)
    | rest => (false, rest)
  match unsigned with
  | [] => .error (faultAt .endsInValue [])
  | first :: rest =>
    if first.isDigit then
      let (digits, after) := takeDigits (first :: rest)
      let (written, unused) := appendDigits greatestWrittenExponent 0 digits
      if unused.isEmpty then
        finishScaled negative significand
          (if down then exponent - written else exponent + written) after
      else if significand ≠ 0 ∧ ¬ down then
        .error ⟨.numberTooLarge, byteLength (unused.drop 1 ++ after)⟩
      else .ok (.floating negative ⟨0, Binary64.leastExponent⟩, after)
    else .error (faultPast .badNumber (first :: rest) 1)

/-- Goes on after the last digit: with an exponent if one is written. -/
def readScale (negative : Bool) (significand : Nat) (exponent : Int) (text : List Char) :
    Reading :=
  match text with
  | 'e' :: rest => readExponent negative significand exponent rest
  | 'E' :: rest => readExponent negative significand exponent rest
  | rest => finishScaled negative significand exponent rest

/-- Reads the digits after the point. Digits that no longer fit in the significand are dropped. -/
def readFraction (negative : Bool) (significand : Nat) (exponent : Int) (text : List Char) :
    Reading :=
  let (digits, after) := takeDigits text
  if digits.isEmpty then
    match after with
    | [] => .error (faultAt .endsInValue [])
    | _ :: _ => .error (faultPast .badNumber after 1)
  else
    let (value, unused) := appendDigits greatestSignificand significand digits
    readScale negative value (exponent - (digits.length - unused.length : Nat)) after

def readUnsigned (negative : Bool) (text : List Char) : Reading :=
  match text with
  | [] => .error (faultAt .endsInValue [])
  | first :: rest =>
    if !first.isDigit then .error (faultPast .badNumber text 1)
    else
      let (digits, after) := takeDigits text
      if first = '0' ∧ 1 < digits.length then .error (faultPast .badNumber rest 1)
      else
        let (value, unused) := appendDigits greatestSignificand 0 digits
        match after with
        | '.' :: fraction => readFraction negative value unused.length fraction
        | _ =>
          if unused.isEmpty ∧ after.head? ≠ some 'e' ∧ after.head? ≠ some 'E' then
            if ¬ negative then .ok (.integer value, after)
            else if value = 0 ∨ Nat.pow 2 63 < value then
              finishScaled true value 0 after
            else .ok (.integer (-value), after)
          else readScale negative value unused.length after

end Splice.Secret
