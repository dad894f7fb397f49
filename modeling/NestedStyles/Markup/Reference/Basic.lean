import NestedStyles.Markup.Reference
import NestedStyles.Text.Integer

/-!
The references that plain text may hold outside of a document: the names of the first edition of
the reference list, always with their semicolon, and numbers.
-/

set_option autoImplicit false

namespace NestedStyles

namespace Reference

def basicNames : List Text :=
  Text.splitAt ' ' (
    "AElig Aacute Acirc Agrave Alpha Aring Atilde Auml Beta Ccedil Chi Dagger Delta ETH " ++
    "Eacute Ecirc Egrave Epsilon Eta Euml Gamma Iacute Icirc Igrave Iota Iuml Kappa " ++
    "Lambda Mu Ntilde Nu OElig Oacute Ocirc Ograve Omega Omicron Oslash Otilde Ouml Phi " ++
    "Pi Prime Psi Rho Scaron Sigma THORN Tau Theta Uacute Ucirc Ugrave Upsilon Uuml Xi " ++
    "Yacute Yuml Zeta aacute acirc acute aelig agrave alefsym alpha amp and ang aring " ++
    "asymp atilde auml bdquo beta brvbar bull cap ccedil cedil cent chi circ clubs cong " ++
    "copy crarr cup curren dArr dagger darr deg delta diams divide eacute ecirc egrave " ++
    "empty emsp ensp epsilon equiv eta eth euml euro exist fnof forall frac12 frac14 " ++
    "frac34 frasl gamma ge gt hArr harr hearts hellip iacute icirc iexcl igrave image " ++
    "infin int iota iquest isin iuml kappa lArr lambda lang laquo larr lceil ldquo le " ++
    "lfloor lowast loz lrm lsaquo lsquo lt macr mdash micro middot minus mu nabla nbsp " ++
    "ndash ne ni not notin nsub ntilde nu oacute ocirc oelig ograve oline omega omicron " ++
    "oplus or ordf ordm oslash otilde otimes ouml para part permil perp phi pi piv plusmn " ++
    "pound prime prod prop psi quot rArr radic rang raquo rarr rceil rdquo real reg " ++
    "rfloor rho rlm rsaquo rsquo sbquo scaron sdot sect shy sigma sigmaf sim spades sub " ++
    "sube sum sup sup1 sup2 sup3 supe szlig tau there4 theta thetasym thinsp thorn tilde " ++
    "times trade uArr uacute uarr ucirc ugrave uml upsih upsilon uuml weierp xi yacute " ++
    "yen yuml zeta zwj zwnj").toList

/-- The reference by name that follows an `&`: what it stands for and its length without the `&`. -/
def basicNamed? (text : Text) : Option (Text × Nat) :=
  let name := text.takeWhile (· != ';')
  if name.length < text.length ∧ basicNames.contains name then longestName? text else none

/-- The number that digits of any script write, a to f counting from ten on where the base allows
it; none if a character is no digit. -/
def writtenNumber? (base : Nat) (text : Text) : Option Nat :=
  text.foldlM (fun number c => do
    let digit ← (Text.digit? c).or (digit? base c)
    return number * base + digit) 0

/-- The reference by number behind `lead`: the number and the length of the reference without the
`&`. -/
def basicNumber? (base : Nat) (lead text : Text) : Option (Nat × Nat) := do
  let rest ← Text.after? lead text
  let digits := rest.takeWhile (· != ';')
  if digits.isEmpty || digits.length == rest.length then none
  else return (← writtenNumber? base digits, lead.length + digits.length + 1)

/-- The text with its references by name resolved. The number counts the characters of the last
reference that are still to be skipped. -/
def decodeBasicNamed : Nat → Text → Text
  | _, [] => []
  | skip + 1, _ :: rest => decodeBasicNamed skip rest
  | 0, c :: rest =>
    match if c = '&' then basicNamed? rest else none with
    | some (value, length) => value ++ decodeBasicNamed length rest
    | none => c :: decodeBasicNamed 0 rest

def maxNumber : Nat := 0x10FFFF

/-- The text with its references by number resolved; none if one of them is too large. -/
def decodeBasicNumbers? (base : Nat) (lead : Text) : Nat → Text → Option Text
  | _, [] => some []
  | skip + 1, _ :: rest => decodeBasicNumbers? base lead skip rest
  | 0, c :: rest =>
    match if c = '&' then basicNumber? base lead rest else none with
    | some (number, length) =>
      if number ≤ maxNumber then
        (decodeBasicNumbers? base lead length rest).map
          ((if number.isValidChar then Char.ofNat number else replacementChar) :: ·)
      else none
    | none => (decodeBasicNumbers? base lead 0 rest).map (c :: ·)

/-- The text with its references resolved: by name, then by decimal, then by hexadecimal number.
One number that is too large keeps all others of its base from being resolved. -/
def decodeBasic (text : Text) : Text :=
  let named := decodeBasicNamed 0 text
  let decimal := (decodeBasicNumbers? 10 "#".toList 0 named).getD named
  (decodeBasicNumbers? 16 "#x".toList 0 decimal).getD decimal

end Reference

end NestedStyles
