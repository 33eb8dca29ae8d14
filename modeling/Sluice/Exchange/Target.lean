import Sluice.Fault
import Sluice.Text.Quoted
import Sluice.Text.Utf8

/-! The check of a request target before a request is adapted: every percent sign begins an escape of two
hexadecimal digits, and no byte is an ASCII control or a space. -/

set_option autoImplicit false

namespace Sluice.Target

/-- The first thing wrong with a target, at its offset in bytes. -/
inductive Defect where
  | brokenEscape (offset : Nat)
  | illegalByte (byte : UInt8) (offset : Nat)
  deriving DecidableEq, Repr

def Defect.reason : Defect → String
  | .brokenEscape offset => "invalid percent escape at offset " ++ toString offset
  | .illegalByte byte offset =>
    "illegal character " ++ Text.quoteChar (Ascii.latin1 byte) ++ " at offset " ++ toString offset

def isPercent (b : UInt8) : Bool := b == 0x25

def isIllegal (b : UInt8) : Bool := b.toNat ≤ 0x20 || b == 0x7F

def isHexByte (b : UInt8) : Bool := Ascii.isHexDigit (Ascii.latin1 b)

/-- Scans the bytes from an offset on; a whole escape is passed over at once. -/
def scan (offset : Nat) : Bytes → Option Defect
  | [] => none
  | b :: high :: low :: rest =>
    if isPercent b then
      if isHexByte high && isHexByte low then scan (offset + 3) rest else some (.brokenEscape offset)
    else if isIllegal b then some (.illegalByte b offset)
    else scan (offset + 1) (high :: low :: rest)
  | b :: rest =>
    if isPercent b then some (.brokenEscape offset)
    else if isIllegal b then some (.illegalByte b offset)
    else scan (offset + 1) rest

def defect? (target : String) : Option Defect := scan 0 (Bytes.ofText target)

def validate (target : String) : Except Fault Unit :=
  match defect? target with
  | none => .ok ()
  | some defect => .error (.malformedTarget target defect.reason)

end Sluice.Target
