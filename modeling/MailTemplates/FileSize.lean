import MailTemplates.Number.Decimal
/-!
# File sizes

A byte count in the largest decimal unit that keeps the number at one or more, with one place. The
number is divided by a thousand step by step, each step rounded to a binary number.
-/

namespace MailTemplates

open Number (Binary64 digits oneDecimal)

namespace FileSize

/-- The units above bytes, each a thousand of the one before. -/
def units : List String := ["kB", "MB", "GB", "TB"]

/-- Divides by a thousand while that leaves at least one of the next unit. -/
def scaled (value : Binary64) (unit : String) : List String → Binary64 × String
  | [] => (value, unit)
  | next :: rest =>
    if value.num < 1000 * value.den then (value, unit)
    else scaled ((value.div? (Binary64.ofNat 1000)).getD value) next rest

/-- A byte count as text. -/
def format (bytes : Nat) : String :=
  if bytes < 1000 then s!"{String.ofList (digits bytes)} B"
  else
    let (value, unit) := scaled (Binary64.ofNat bytes) "B" units
    s!"{String.ofList (oneDecimal value.num value.den)} {unit}"

end FileSize

end MailTemplates
