import QueryGate.Text.Blank
import QueryGate.Text.Case
import QueryGate.Text.Cut
/-!
# TLS modes

How a connection is encrypted, and how a setting of the server gets into a
connection text that does not say so itself.
-/

namespace QueryGate.Dsn

inductive TlsMode where
  | disabled
  | preferred
  /-- Encrypted, the certificate not looked at. -/
  | required
  | verified
  deriving Repr, DecidableEq

namespace TlsMode

/-- The value of the `tls` parameter that asks for a mode. -/
def value : TlsMode → List Char
  | disabled => "false".toList
  | preferred => "preferred".toList
  | required => "skip-verify".toList
  | verified => "true".toList

/-- The mode a parameter's value asks for; a value that is none asks for no
encryption. -/
def ofValue (v : List Char) : TlsMode :=
  let small := Text.lower v
  if small = verified.value then verified
  else if small = required.value then required
  else if small = preferred.value then preferred
  else disabled

/-- Settings that leave encryption off. -/
def offSettings : List (List Char) := [[], "false".toList, "0".toList]

/-- The mode a setting asks for; a setting that is no mode asks for the
strictest. -/
def ofSetting (ssl : List Char) : TlsMode :=
  let small := Text.lower (Text.trim ssl)
  if offSettings.contains small then disabled
  else if small = required.value then required
  else if small = preferred.value then preferred
  else verified

end TlsMode

def tlsKey : List Char := "tls=".toList

/-- Adds the mode of a setting to the parameters of a connection text, unless
they have a mode. -/
def applyTls (dsn ssl : List Char) : List Char :=
  match TlsMode.ofSetting ssl with
  | .disabled => dsn
  | mode =>
    match Text.cutFirst '?' dsn with
    | some (_, query) =>
      if (Text.pieces '&' query).any (Text.beginsWith tlsKey) then dsn
      else if query.isEmpty ∨ query.getLast? = some '&' then dsn ++ tlsKey ++ mode.value
      else dsn ++ '&' :: tlsKey ++ mode.value
    | none => dsn ++ '?' :: tlsKey ++ mode.value

end QueryGate.Dsn
