import Proofreader.Charset.Property
import Proofreader.Charset.ScriptExtension

/-!
# Character sets by name

A pattern names a character set either by one word (`L`, `Greek`, `White_Space`) or by a property
and a value (`Script=Greek`).  `find` looks either kind up.  Names are compared loosely: case,
blanks, hyphens and underscores do not count, nor does a leading `is`.

One word is looked for among the properties first, then among the general categories, then among
the scripts; the one-word names of a property that has values (`Script`) name no set.

Not every set of the character database is here.  Of the properties that have values, the categories
and the scripts are; the ages and the classes of breaks (`Age`, `Grapheme_Cluster_Break`,
`Word_Break`, `Sentence_Break`) are not, and a value of one of these is an unknown value.  Of the
properties that a character has or has not, only `InCB` is left out.
-/

set_option autoImplicit false

namespace Proofreader
namespace Charset

/-- Why a name gives no set. -/
inductive LookupFault where
  /-- There is no such property, category or script. -/
  | unknownProperty
  /-- The property exists and has no such value. -/
  | unknownValue
deriving Repr, DecidableEq

/-- How a pattern asks for a set. -/
inductive Query where
  /-- By one word. -/
  | word (name : String)
  /-- By a property and a value. -/
  | value (property value : String)
deriving Repr, DecidableEq

/-- Whether a name begins with `is`, in any case. -/
def startsWithIs : List Char → Bool
  | i :: s :: _ => (i == 'i' || i == 'I') && (s == 's' || s == 'S')
  | _ => false

/-- The form in which names are compared: small ASCII letters without separators and without a
leading `is`.  The word `isc` stays, since it is a name of its own and not `c` with the prefix. -/
def normalizeName (name : String) : String :=
  let cs := name.toList
  let kept := (if startsWithIs cs then cs.drop 2 else cs).filterMap fun c =>
    if c == ' ' || c == '_' || c == '-' || 0x80 ≤ c.toNat then none else some c.toLower
  if startsWithIs cs && kept == ['c'] then "isc" else String.ofList kept

/-- The set that a table gives a name, if any. -/
def lookup (table : List (List String × Charset)) (name : String) : Option Charset :=
  (table.find? fun row => row.1.contains name).map (·.2)

/-- The properties that a character has or has not. -/
def properties : List (List String × Charset) := [
  (["alphabetic", "alpha"], alphabetic),
  (["uppercase", "upper"], uppercase),
  (["lowercase", "lower"], lowercase),
  (["whitespace", "wspace", "space"], whiteSpace),
  (["cased"], cased),
  (["math"], math),
  (["idstart", "ids"], idStart),
  (["idcontinue", "idc"], idContinue),
  (["xidstart", "xids"], xidStart),
  (["xidcontinue", "xidc"], xidContinue),
  (["graphemeextend", "grext"], graphemeExtend),
  (["graphemebase", "grbase"], graphemeBase),
  (["asciihexdigit", "ahex"], asciiHexDigit),
  (["bidicontrol", "bidic"], bidiControl),
  (["dash"], dash),
  (["deprecated", "dep"], deprecated),
  (["diacritic", "dia"], diacritic),
  (["emoji"], emoji),
  (["emojicomponent", "ecomp"], emojiComponent),
  (["emojimodifier", "emod"], emojiModifier),
  (["emojimodifierbase", "ebase"], emojiModifierBase),
  (["emojipresentation", "epres"], emojiPresentation),
  (["extendedpictographic", "extpict"], extendedPictographic),
  (["extender", "ext"], extender),
  (["hexdigit", "hex"], hexDigit),
  (["ideographic", "ideo"], ideographic),
  (["joincontrol", "joinc"], joinControl),
  (["logicalorderexception", "loe"], logicalOrderException),
  (["noncharactercodepoint", "nchar"], noncharacterCodePoint),
  (["patternsyntax", "patsyn"], patternSyntax),
  (["patternwhitespace", "patws"], patternWhiteSpace),
  (["quotationmark", "qmark"], quotationMark),
  (["radical"], radical),
  (["regionalindicator", "ri"], regionalIndicator),
  (["sentenceterminal", "sterm"], sentenceTerminal),
  (["softdotted", "sd"], softDotted),
  (["terminalpunctuation", "term"], terminalPunctuation),
  (["unifiedideograph", "uideo"], unifiedIdeograph),
  (["variationselector", "vs"], variationSelector),
  (["bidimirrored", "bidim"], bidiMirrored),
  (["caseignorable", "ci"], caseIgnorable),
  (["changeswhencasefolded", "cwcf"], changesWhenCasefolded),
  (["changeswhencasemapped", "cwcm"], changesWhenCasemapped),
  (["changeswhenlowercased", "cwl"], changesWhenLowercased),
  (["changeswhentitlecased", "cwt"], changesWhenTitlecased),
  (["changeswhenuppercased", "cwu"], changesWhenUppercased),
  (["defaultignorablecodepoint", "di"], defaultIgnorable),
  (["graphemelink", "grlink"], graphemeLink),
  (["hyphen"], hyphen),
  (["idcompatmathcontinue"], idCompatMathContinue),
  (["idcompatmathstart"], idCompatMathStart),
  (["idsbinaryoperator", "idsb"], idsBinary),
  (["idstrinaryoperator", "idst"], idsTrinary),
  (["idsunaryoperator", "idsu"], idsUnary),
  (["modifiercombiningmark", "mcm"], modifierCombiningMark),
  (["otheralphabetic", "oalpha"], otherAlphabetic),
  (["otherdefaultignorablecodepoint", "odi"], otherDefaultIgnorable),
  (["othergraphemeextend", "ogrext"], otherGraphemeExtend),
  (["otheridcontinue", "oidc"], otherIdContinue),
  (["otheridstart", "oids"], otherIdStart),
  (["otherlowercase", "olower"], otherLowercase),
  (["othermath", "omath"], otherMath),
  (["otheruppercase", "oupper"], otherUppercase),
  (["prependedconcatenationmark", "pcm"], prependedMark)]

/-- The general categories and the three sets that patterns name beside them. -/
def categories : List (List String × Charset) := [
  (["any"], full),
  (["assigned"], assigned),
  (["ascii"], range 0 0x7F),
  (["l", "letter"], letter),
  (["lc", "casedletter"], casedLetter),
  (["lu", "uppercaseletter"], uppercaseLetter),
  (["ll", "lowercaseletter"], lowercaseLetter),
  (["lt", "titlecaseletter"], titlecaseLetter),
  (["lm", "modifierletter"], modifierLetter),
  (["lo", "otherletter"], otherLetter),
  (["m", "mark", "combiningmark"], mark),
  (["mn", "nonspacingmark"], nonspacingMark),
  (["mc", "spacingmark"], spacingMark),
  (["me", "enclosingmark"], enclosingMark),
  (["n", "number"], number),
  (["nd", "decimalnumber", "digit"], decimalNumber),
  (["nl", "letternumber"], letterNumber),
  (["no", "othernumber"], otherNumber),
  (["p", "punctuation", "punct"], punctuation),
  (["pc", "connectorpunctuation"], connectorPunctuation),
  (["pd", "dashpunctuation"], dashPunctuation),
  (["ps", "openpunctuation"], openPunctuation),
  (["pe", "closepunctuation"], closePunctuation),
  (["pi", "initialpunctuation"], initialPunctuation),
  (["pf", "finalpunctuation"], finalPunctuation),
  (["po", "otherpunctuation"], otherPunctuation),
  (["s", "symbol"], symbol),
  (["sm", "mathsymbol"], mathSymbol),
  (["sc", "currencysymbol"], currencySymbol),
  (["sk", "modifiersymbol"], modifierSymbol),
  (["so", "othersymbol"], otherSymbol),
  (["z", "separator"], separator),
  (["zs", "spaceseparator"], spaceSeparator),
  (["zl", "lineseparator"], lineSeparator),
  (["zp", "paragraphseparator"], paragraphSeparator),
  (["c", "other"], other),
  (["cc", "control", "cntrl"], control),
  (["cf", "format"], format),
  (["co", "privateuse"], privateUse),
  (["cn", "unassigned"], unassigned)]

/-- The names of the category of surrogates, which exists and has no characters in it. -/
def surrogateNames : List String := ["cs", "surrogate"]

/-- The properties that take a value from a list other than those of this library. -/
def otherValuedProperties : List String := ["age", "blk", "block", "bc", "bidiclass", "ccc",
  "canonicalcombiningclass", "dt", "decompositiontype", "ea", "eastasianwidth", "gcb",
  "graphemeclusterbreak", "hst", "hangulsyllabletype", "jg", "joininggroup", "jt", "joiningtype",
  "lb", "linebreak", "nt", "numerictype", "sb", "sentencebreak", "wb", "wordbreak"]

/-- The set that one word names. -/
def findWord (name : String) : Except LookupFault Charset :=
  match lookup properties name with
  | some s => .ok s
  | none =>
    match lookup categories name with
    | some s => .ok s
    | none =>
      if surrogateNames.contains name then .error .unknownValue
      else match lookup scripts name with
        | some s => .ok s
        | none => .error .unknownProperty

/-- The set that a property and one of its values name. -/
def findValue (property value : String) : Except LookupFault Charset :=
  if property == "gc" || property == "generalcategory" then
    match lookup categories value with
    | some s => .ok s
    | none => .error .unknownValue
  else if property == "sc" || property == "script" then
    match lookup scripts value with
    | some s => .ok s
    | none => .error .unknownValue
  else if property == "scx" || property == "scriptextensions" then
    match lookup scriptExtensions value with
    | some s => .ok s
    | none => .error .unknownValue
  else if otherValuedProperties.contains property || (lookup properties property).isSome then
    .error .unknownValue
  else
    .error .unknownProperty

/-- The set that a query names. -/
def find : Query → Except LookupFault Charset
  | .word name => findWord (normalizeName name)
  | .value property value => findValue (normalizeName property) (normalizeName value)

end Charset
end Proofreader
