import Provisioning.Text.Form

/-!
# Addresses of requests

Where a request goes is written as one text: a path, behind the first question mark the parameters,
and behind the first number sign a remark that is not sent.  Names are put into a path as they are,
so that one with a question mark brings parameters of its own, and one with a space is no part of an
address at all.
-/

namespace Provisioning.Api

/-- Why a text is no address. -/
inductive AddressError where
  | tooLong
  | invalidCharacter
  deriving DecidableEq, Repr

def AddressError.message : AddressError → String
  | .tooLong => "uri too long"
  | .invalidCharacter => "invalid uri character"

/-- Where a request goes. -/
structure Address where
  path : String
  /-- The parameters, in their order. -/
  query : List (String × String)
  deriving DecidableEq, Repr

namespace Address

/-- The most bytes that an address can have. -/
def maxSize : Nat := 65534

/-- Whether a character can stand in the parameters: neither a space, a control, a quote nor an
angle bracket. -/
def isQueryCharacter (character : Char) : Bool :=
  '\x20' < character && character != '\x7f' && ! ['"', '<', '>'].contains character

/-- Whether a character can stand in a path: the quote can, the grave accent cannot. -/
def isPathCharacter (character : Char) : Bool :=
  character == '"' || character != '\x60' && isQueryCharacter character

def textOf (path : String) (parameters : List (String × String)) : String :=
  path ++ "?" ++
    String.join (parameters.map fun parameter => "&" ++ Text.Form.encodeField parameter)

def ofText (text : String) : Except AddressError Address :=
  if maxSize < text.utf8ByteSize then .error .tooLong
  else
    let sent := text.toList.takeWhile (· ≠ '#')
    let path := sent.takeWhile (· ≠ '?')
    let query := (sent.dropWhile (· ≠ '?')).drop 1
    if path.all isPathCharacter && query.all isQueryCharacter then
      .ok ⟨String.ofList path, Text.Form.fields query⟩
    else .error .invalidCharacter

end Address

end Provisioning.Api
