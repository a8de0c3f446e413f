/-
# Redaction

Secrets do not reach the log.  A rule has two parts: `keep` describes how a secret starts, which
stays readable, and `drop` what is blotted out after it.  The rules are applied one after the
other, each to the text that the one before has left.
-/
import ThreatScan.Pattern.Basic

namespace ThreatScan

/-- A kind of secret: what stays and what is blotted out. -/
structure RedactionRule where
  keep : Pattern
  drop : Pattern
deriving Repr, DecidableEq

namespace Redaction

open Pattern

/-! ## 1. The rules -/

/-- ASCII letters, digits and the hyphen. -/
def keyChar : CharClass := .within [(45, 45), (48, 57), (65, 90), (97, 122)]

/-- Capital ASCII letters and digits. -/
def capitalChar : CharClass := .within [(48, 57), (65, 90)]

/-- ASCII letters, digits and the underscore. -/
def wordChar : CharClass := .within [(48, 57), (65, 90), (95, 95), (97, 122)]

/-- The characters of a bearer token: letters, digits and `+ - . / _ ~`. -/
def tokenChar : CharClass :=
  .within [(43, 43), (45, 57), (65, 90), (95, 95), (97, 122), (126, 126)]

/-- The names of credentials that are assigned to. -/
def credentialNames : List Text := ["api_key", "secret_key", "private_key", "password"]

/-- The rules in the order of their application. -/
def rules : List RedactionRule := [
  ⟨sequence [exact "sk-ant-", times 10 keyChar], anyOf keyChar⟩,
  ⟨sequence [exact "sk-", times 10 .alphanumeric], anyOf .alphanumeric⟩,
  ⟨sequence [exact "AKIA", times 4 capitalChar], times 12 capitalChar⟩,
  ⟨sequence [exact "ghp_", times 4 .alphanumeric], many wordChar 32 false⟩,
  ⟨sequence [exact "Bearer", someOf .blank, times 10 tokenChar], anyOf tokenChar⟩,
  ⟨sequence [words credentialNames, blanks, word "=", blanks, one .quote], someOf .notQuote⟩]

/-! ## 2. Their application -/

/-- What stands in the place of a secret. -/
def mark : Text := "[REDACTED]"

/-- Where the two parts of a secret that starts at a cursor end. -/
def secretAt (r : RedactionRule) (c : Cursor) : Option (Nat × Nat) :=
  r.keep.run c fun m => (r.drop.run m some).map fun e => (m.offset, e.offset)

/-- Applies a rule to the text that follows an offset, of which the first `skip` code points
are blotted out or already written; `done` is the result so far, reversed. -/
def applyFrom (r : RedactionRule) : Nat → Text → Nat → Text → Text
  | _, [], _, done => done.reverse
  | offset, _ :: t, skip + 1, done => applyFrom r (offset + 1) t skip done
  | offset, c :: t, 0, done =>
    match secretAt r ⟨offset, c :: t⟩ with
    | some (kept, stop) =>
      applyFrom r (offset + 1) t (stop - offset - 1)
        (mark.reverse ++ (((c :: t).take (kept - offset)).reverse ++ done))
    | none => applyFrom r (offset + 1) t 0 (c :: done)

/-- Applies a rule to a text. -/
def apply (t : Text) (r : RedactionRule) : Text := applyFrom r 0 t 0 []

/-- The text without its secrets. -/
def redact (t : Text) : Text := rules.foldl apply t

end Redaction
end ThreatScan
