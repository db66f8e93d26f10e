import RowAccess.Digest.Blake3
import RowAccess.Digest.Sha256
import RowAccess.Text.Hex
import RowAccess.Value

/-!
# Masking

What a caller sees in place of a hidden value. A strategy works on the text of a string
or a number; where it does not apply, the masked value is null and never the value
itself.
-/

namespace RowAccess

/-- The formats of which a part may be shown. -/
inductive MaskPattern where
  | ssn
  | phone
  | email
  | creditCard
  deriving DecidableEq, Repr, Inhabited

/-- How a value is masked. -/
inductive MaskStrategy where
  /-- Shows the end of a number or the domain of an address. -/
  | redact (pattern : MaskPattern)
  /-- The SHA-256 digest in hexadecimal. -/
  | hash
  /-- A short token; equal values get equal tokens. -/
  | tokenize
  /-- The first characters, with three dots where some are missing. -/
  | truncate (maxChars : Nat)
  | constant (text : String)
  | null
  deriving DecidableEq, Repr, Inhabited

/-- Why a value could not be masked. -/
inductive MaskError where
  | mismatch (pattern : MaskPattern) (reason : String)
  | notText (kind : String)
  deriving DecidableEq, Repr

namespace MaskPattern

def name : MaskPattern → String
  | .ssn => "Ssn"
  | .phone => "Phone"
  | .email => "Email"
  | .creditCard => "CreditCard"

def ofName? : String → Option MaskPattern
  | "Ssn" => some .ssn
  | "Phone" => some .phone
  | "Email" => some .email
  | "CreditCard" => some .creditCard
  | _ => none

@[simp] theorem ofName?_name (p : MaskPattern) : ofName? p.name = some p := by
  cases p <;> rfl

end MaskPattern

def MaskError.message : MaskError → String
  | .mismatch pattern reason =>
    "Value does not match expected pattern for " ++ pattern.name ++ ": " ++ reason
  | .notText kind => "Value of type " ++ kind ++ " cannot be masked as text"

namespace Masking

def textOf : Value → Except MaskError String
  | .string s => .ok s
  | .number n => .ok n.text
  | .bool _ => .error (.notText "bool")
  | .array _ => .error (.notText "array")
  | .object _ => .error (.notText "object")
  | .null => .error (.notText "null")

def digits (s : String) : List Char := s.toList.filter Char.isDigit

def lastFour (ds : List Char) : String := String.ofList (ds.drop (ds.length - 4))

/-- The part before the first `@` and the part behind it. -/
def splitAddress? (cs : List Char) : Option (List Char × List Char) :=
  match cs.dropWhile (· != '@') with
  | [] => none
  | _ :: domain => some (cs.takeWhile (· != '@'), domain)

/-- The first character of the local part and the domain of an address: one `@`, and
something on each side of it. -/
def redactEmail (s : String) : Except MaskError String :=
  match splitAddress? s.toList with
  | some (name, domain) =>
    if domain.isEmpty || domain.contains '@' then
      .error (.mismatch .email "invalid email format")
    else
      match name with
      | [] => .error (.mismatch .email "empty local part")
      | first :: _ => .ok (String.ofList (first :: "***@".toList ++ domain))
  | none => .error (.mismatch .email "invalid email format")

def redact (p : MaskPattern) (s : String) : Except MaskError String :=
  let ds := digits s
  match p with
  | .ssn =>
    if ds.length = 9 then .ok ("***-**-" ++ lastFour ds)
    else .error (.mismatch .ssn ("expected 9 digits for SSN, found " ++ toString ds.length))
  | .phone =>
    if 10 ≤ ds.length then .ok ("***-***-" ++ lastFour ds)
    else
      .error (.mismatch .phone
        ("expected at least 10 digits for phone, found " ++ toString ds.length))
  | .creditCard =>
    if 13 ≤ ds.length ∧ ds.length ≤ 19 then .ok ("****-****-****-" ++ lastFour ds)
    else
      .error (.mismatch .creditCard
        ("expected 13-19 digits for credit card, found " ++ toString ds.length))
  | .email => redactEmail s

def hash (s : String) : String := Text.hex (Digest.Sha256.digest (Text.utf8 s))

/-- The token of a text: the first eight bytes of its digest. -/
def token (s : String) : String :=
  "tok_" ++ Text.hex ((Digest.Blake3.digest (Text.utf8 s)).take 8)

def truncate (maxChars : Nat) (s : String) : String :=
  let cs := s.toList
  if cs.length ≤ maxChars then s else String.ofList (cs.take maxChars ++ "...".toList)

end Masking

namespace MaskStrategy

def onText (strategy : MaskStrategy) (s : String) : Except MaskError String :=
  match strategy with
  | .redact p => Masking.redact p s
  | .hash => .ok (Masking.hash s)
  | .tokenize => .ok (Masking.token s)
  | .truncate n => .ok (Masking.truncate n s)
  | .constant t => .ok t
  | .null => .ok ""

/-- Masks a value, or says why it cannot be masked. Null stays null, except under a constant. -/
def attempt (strategy : MaskStrategy) (v : Value) : Except MaskError Value :=
  match strategy, v with
  | .constant t, _ => .ok (.string t)
  | .null, _ => .ok .null
  | _, .null => .ok .null
  | _, v =>
    match Masking.textOf v with
    | .error e => .error e
    | .ok s => (strategy.onText s).map Value.string

/-- Masks a value; null where the strategy does not apply. -/
def apply (strategy : MaskStrategy) (v : Value) : Value :=
  match strategy.attempt v with
  | .ok masked => masked
  | .error _ => .null

end MaskStrategy

end RowAccess
