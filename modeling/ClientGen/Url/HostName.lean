/-
# Internationalised host names

The ASCII form of a host name with other than ASCII characters.  Each label of
the name must be one that may be registered: of permitted characters, with no
hyphen at an end or at both the third and the fourth place, and no combining mark
in front.  A label beyond ASCII is encoded after the mark `xn--`.

The rules that look at several characters of a label (normal form, joiners and
the direction of writing) are not checked.
-/
import ClientGen.Url.HostTable
import ClientGen.Url.Punycode

namespace ClientGen.HostName

/-- The mark in front of an encoded label. -/
def encodedMark : Text := "xn--"

/-- The greatest length of a label. -/
def maxLabelLength : Nat := 63

/-- The greatest length of a name, a point at its end apart. -/
def maxLength : Nat := 253

/-- Whether `c` separates labels. -/
def isDot (c : Char) : Bool := c = '.' || c = '\u3002' || c = '\uFF0E' || c = '\uFF61'

/-- The labels of a name. -/
def labels (name : Text) : List Text :=
  Text.splitAt '.' (name.map fun c => if isDot c then '.' else c)

/-- Whether a label may be registered. -/
def isLabel (label : Text) : Bool :=
  ! label.isEmpty && (label.drop 2).take 2 ≠ ['-', '-'] &&
    label.head? ≠ some '-' && label.getLast? ≠ some '-' &&
    ! label.head?.any isMark && label.all isPermitted

/-- Whether a label is laid out as an encoded one. -/
def isEncoded (label : Text) : Bool :=
  encodedMark.isPrefixOf label && label.length > encodedMark.length &&
    label.getLast? ≠ some '-' && label.all fun c => c.toNat < 0x80 && isPermitted c

/-- The ASCII form of a label, if it has one. -/
def encodeLabel? (label : Text) : Option Text :=
  let form :=
    if label.all (·.toNat < 0x80) then
      if isEncoded label || isLabel label then some label else none
    else if isLabel label then some (encodedMark ++ Punycode.encode label)
    else none
  form.filter (·.length ≤ maxLabelLength)

/-- The ASCII form of a host name, if it has one. -/
def encode? (name : Text) : Option Text := do
  let parts := labels name
  let isRooted := parts.getLast? = some []
  let encoded ← (if isRooted then parts.dropLast else parts).mapM encodeLabel?
  let form := Text.joinWith "." encoded
  if encoded.isEmpty || form.length > maxLength then none
  else some (if isRooted then form ++ ['.'] else form)

end ClientGen.HostName
