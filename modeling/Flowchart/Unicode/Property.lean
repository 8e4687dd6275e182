import Flowchart.Unicode.AgeTable
import Flowchart.Unicode.BreakTable
import Flowchart.Unicode.CaseTable
import Flowchart.Unicode.CategoryTable
import Flowchart.Unicode.ExtensionTable
import Flowchart.Unicode.PropertyTable
import Flowchart.Unicode.ScriptTable

/-!
# Properties of characters by name

The sets that a query such as `Greek`, `Lu` or `age=3.0` stands for. Properties that follow from
others are defined here as the Unicode standard defines them. Surrogates are code points but no
characters, so they belong to no set that can be asked for.
-/

namespace Flowchart.Unicode

open Text (CharSet)

/-- The code points of a general category, by its short name. -/
def category (name : String) : CharSet := NamedSet.get categoryTable name

/-- The code points of any of several general categories. -/
def categories (names : List String) : CharSet :=
  .unionAll (names.map category)

/-- The code points with a listed property. -/
def listed (name : String) : CharSet := NamedSet.get propertyTable name

/-- The code points that stand for halves of pairs and are no characters. -/
def surrogates : CharSet := .range 0xD800 0xDFFF

/-- The code points that are characters. -/
def scalars : CharSet := surrogates.complement

/-- The code points outside all general categories of assigned characters. -/
def unassigned : CharSet :=
  (CharSet.unionAll (surrogates :: categoryTable.map (·.members))).complement

/-- Small letters, and what counts as such. -/
def lowercase : CharSet := category "Ll" |>.union (listed "Other_Lowercase")

/-- Capital letters, and what counts as such. -/
def uppercase : CharSet := category "Lu" |>.union (listed "Other_Uppercase")

/-- Letters with case. -/
def cased : CharSet := .unionAll [lowercase, uppercase, category "Lt"]

/-- Letters and what is used like letters. -/
def alphabetic : CharSet :=
  .unionAll [lowercase, uppercase, categories ["Lt", "Lm", "Lo", "Nl"], listed "Other_Alphabetic"]

/-- Mathematical characters. -/
def math : CharSet := category "Sm" |>.union (listed "Other_Math")

/-- Characters that extend the cluster before them. -/
def graphemeExtend : CharSet :=
  categories ["Me", "Mn"] |>.union (listed "Other_Grapheme_Extend")

/-- Characters that begin a cluster of their own. -/
def graphemeBase : CharSet :=
  (CharSet.unionAll [categories ["Cc", "Cf", "Co", "Zl", "Zp"], surrogates, unassigned,
    graphemeExtend]).complement

/-- Characters reserved for the notation of patterns. -/
def patternCharacters : CharSet :=
  listed "Pattern_Syntax" |>.union (listed "Pattern_White_Space")

/-- Characters that may begin an identifier. -/
def idStart : CharSet :=
  (categories ["Lu", "Ll", "Lt", "Lm", "Lo", "Nl"] |>.union (listed "Other_ID_Start")).difference
    patternCharacters

/-- Characters that may continue an identifier. -/
def idContinue : CharSet :=
  (CharSet.unionAll [idStart, categories ["Mn", "Mc", "Nd", "Pc"],
    listed "Other_ID_Continue"]).difference patternCharacters

/-- Characters of identifiers whose compatibility form does not begin with such a character, and
that may not continue an identifier in that form either. -/
def compatibilityExceptions : CharSet :=
  .ofRanges [(0x37A, 0x37A), (0x309B, 0x309C), (0xFC5E, 0xFC63), (0xFDFA, 0xFDFB),
    (0xFE70, 0xFE70), (0xFE72, 0xFE72), (0xFE74, 0xFE74), (0xFE76, 0xFE76), (0xFE78, 0xFE78),
    (0xFE7A, 0xFE7A), (0xFE7C, 0xFE7C), (0xFE7E, 0xFE7E)]

/-- Characters that may begin an identifier in any compatibility form. -/
def xidStart : CharSet :=
  (idStart.difference compatibilityExceptions).difference
    (.ofRanges [(0xE33, 0xE33), (0xEB3, 0xEB3), (0xFF9E, 0xFF9F)])

/-- Characters that may continue an identifier in any compatibility form. -/
def xidContinue : CharSet := idContinue.difference compatibilityExceptions

/-- Characters that are not shown where they are not supported. -/
def defaultIgnorable : CharSet :=
  (CharSet.unionAll [listed "Other_Default_Ignorable_Code_Point", category "Cf",
    listed "Variation_Selector"]).difference
    (.unionAll [listed "White_Space", listed "Prepended_Concatenation_Mark",
      .ofRanges [(0xFFF9, 0xFFFB), (0x13430, 0x13440)]])

/-- Characters that are passed over where the case of a word is decided. -/
def caseIgnorable : CharSet :=
  categories ["Mn", "Me", "Cf", "Lm", "Sk"] |>.union
    (.ofList ['\'', '.', ':', '\u00b7', '\u0387', '\u055f', '\u05f4',
      '\u2018', '\u2019', '\u2024', '\u2027', '\ufe13', '\ufe52', '\ufe55', '\uff07', '\uff0e',
      '\uff1a'])

/-- The code points that a table of case mappings moves. -/
def mappedBy (runs : List CaseRun) (sequences : List (Nat × List Nat)) : CharSet :=
  .ofRanges (runs.flatMap CaseRun.sources ++ sequences.map fun (n, _) => (n, n))

/-- The capital and small letters of Ascii. -/
def asciiLetters (first : Char) : CharSet := .range first.toNat (first.toNat + 25)

/-- Characters that differ from their lower case. -/
def changesWhenLowercased : CharSet :=
  asciiLetters 'A' |>.union (mappedBy lowerRuns lowerSequences)

/-- Characters that differ from their upper case. -/
def changesWhenUppercased : CharSet :=
  asciiLetters 'a' |>.union (mappedBy upperRuns upperSequences)

/-- Characters that differ from their title case. The letters of Georgian have none, and those in
title case already stay. -/
def changesWhenTitlecased : CharSet :=
  (changesWhenUppercased.difference
    (category "Lt" |>.union (.ofRanges [(0x10D0, 0x10FA), (0x10FD, 0x10FF)]))).union
    (.ofList ['Ǆ', 'Ǉ', 'Ǌ', 'Ǳ'])

/-- Characters that some case mapping changes. -/
def changesWhenCasemapped : CharSet :=
  .unionAll [changesWhenLowercased, changesWhenUppercased, changesWhenTitlecased]

/-- The scripts written with a character; where no list says otherwise, that is its own script. -/
def scriptExtension? (loose : String) : Option CharSet :=
  match NamedSet.find? extensionTable loose with
  | some s => some s.members
  | none => (NamedSet.find? scriptTable loose).map (·.members)

/-- Why a query has no answer. -/
inductive PropertyFault where
  | unknownProperty
  | unknownValue
  deriving DecidableEq, Repr

/-- A query, or the fault of it. -/
abbrev Answer := Except PropertyFault CharSet

/-- The answer with a set, or that there is no such value. -/
def Answer.ofOption : Option CharSet → Answer
  | some s => .ok s
  | none => .error .unknownValue

/-- The groups of general categories by name. -/
def categoryGroups : List (List String × List String) := [
  (["c", "other"], ["Cc", "Cf", "Co"]),
  (["l", "letter"], ["Lu", "Ll", "Lt", "Lm", "Lo"]),
  (["lc", "casedletter"], ["Lu", "Ll", "Lt"]),
  (["m", "mark", "combiningmark"], ["Mn", "Mc", "Me"]),
  (["n", "number"], ["Nd", "Nl", "No"]),
  (["p", "punctuation", "punct"], ["Pc", "Pd", "Ps", "Pe", "Pi", "Pf", "Po"]),
  (["s", "symbol"], ["Sm", "Sc", "Sk", "So"]),
  (["z", "separator"], ["Zs", "Zl", "Zp"])]

/-- The answer for a general category or a group of them, if a name is one of those. Surrogates
are a category without characters. -/
def categoryAnswer? (loose : String) : Option Answer :=
  if loose = "any" then some (.ok scalars)
  else if loose = "assigned" then some (.ok (scalars.difference unassigned))
  else if loose = "ascii" then some (.ok (.range 0 0x7F))
  else if loose = "cs" ∨ loose = "surrogate" then some (.error .unknownValue)
  else if loose = "cn" ∨ loose = "unassigned" then some (.ok unassigned)
  else match categoryGroups.find? fun (names, _) => names.contains loose with
  | some (names, members) =>
      let assigned := categories members
      some (.ok (if names.contains "c" then assigned.union unassigned else assigned))
  | none => (NamedSet.find? categoryTable loose).map fun s => .ok s.members

/-- The properties that are defined by others, by their names in loose form. -/
def derivedProperties : List (List String × CharSet) := [
  (["lowercase", "lower"], lowercase), (["uppercase", "upper"], uppercase),
  (["cased"], cased), (["caseignorable", "ci"], caseIgnorable),
  (["alphabetic", "alpha"], alphabetic), (["math"], math),
  (["graphemeextend", "grext"], graphemeExtend), (["graphemebase", "grbase"], graphemeBase),
  (["idstart", "ids"], idStart), (["idcontinue", "idc"], idContinue),
  (["xidstart", "xids"], xidStart), (["xidcontinue", "xidc"], xidContinue),
  (["defaultignorablecodepoint", "di"], defaultIgnorable),
  (["changeswhenlowercased", "cwl"], changesWhenLowercased),
  (["changeswhenuppercased", "cwu"], changesWhenUppercased),
  (["changeswhentitlecased", "cwt"], changesWhenTitlecased),
  (["changeswhencasemapped", "cwcm"], changesWhenCasemapped)]

/-- The code points with a property that has no values but yes and no. -/
def plainProperty? (loose : String) : Option CharSet :=
  match derivedProperties.find? fun (names, _) => names.contains loose with
  | some (_, members) => some members
  | none => (NamedSet.find? propertyTable loose).map (·.members)

/-- The answer for a script. -/
def scriptAnswer? (loose : String) : Option CharSet :=
  (NamedSet.find? scriptTable loose).map (·.members)

/-- The characters of a version of the standard and of those before it. -/
def age? (loose : String) : Option CharSet :=
  let upTo := ageTable.takeWhile fun s => !s.names.any fun name =>
    String.ofList (bareName name.toList) == loose
  (ageTable[upTo.length]?).map fun s => .unionAll ((upTo ++ [s]).map (·.members))

/-- Names of properties that have no sets here. -/
def otherProperties : List String := [
  "bidiclass", "bc", "bidimirroringglyph", "bmg", "bidipairedbracket", "bpb",
  "bidipairedbrackettype", "bpt", "block", "blk", "canonicalcombiningclass", "ccc",
  "casefolding", "cf", "changeswhennfkccasefolded", "cwkcf",
  "cjkaccountingnumeric", "cjkcompatibilityvariant", "cjkiicore", "cjkothernumeric",
  "cjkprimarynumeric", "cjkrsunicode", "compositionexclusion", "ce", "decompositionmapping",
  "dm", "decompositiontype", "dt", "eastasianwidth", "ea", "equivalentunifiedideograph",
  "equideo", "expandsonnfc", "xonfc", "expandsonnfd", "xonfd", "expandsonnfkc", "xonfkc",
  "expandsonnfkd", "xonfkd", "fcnfkcclosure", "fcnfkc", "fullcompositionexclusion", "compex",
  "hangulsyllabletype", "hst", "indicconjunctbreak", "incb", "indicpositionalcategory", "inpc",
  "indicsyllabiccategory", "insc", "isocomment", "isc", "jamoshortname", "jsn", "joininggroup",
  "jg", "joiningtype", "jt", "kaccountingnumeric", "kcompatibilityvariant", "kiicore",
  "kothernumeric", "kprimarynumeric", "krsunicode", "linebreak", "lb", "lowercasemapping", "lc",
  "name", "na", "namealias", "nfcquickcheck", "nfcqc", "nfdquickcheck", "nfdqc", "nfkccasefold",
  "nfkccf", "nfkcquickcheck", "nfkcqc", "nfkcsimplecasefold", "nfkcscf", "nfkdquickcheck",
  "nfkdqc", "numerictype", "nt", "numericvalue", "nv", "simplecasefolding", "scf", "sfc",
  "simplelowercasemapping", "slc", "simpletitlecasemapping", "stc", "simpleuppercasemapping",
  "suc", "titlecasemapping", "tc", "unicode1name", "na1", "unicoderadicalstroke", "urs",
  "uppercasemapping", "uc", "verticalorientation", "vo"]

/-- The values of a property in loose form; `none` if no property has the name. -/
def valuesOf? (property : String) : Option (String → Answer) :=
  let tabled table := fun value => Answer.ofOption ((NamedSet.find? table value).map (·.members))
  if ["gc", "generalcategory"].contains property then
    some fun value => (categoryAnswer? value).getD (.error .unknownValue)
  else if ["sc", "script"].contains property then some (tabled scriptTable)
  else if ["scx", "scriptextensions"].contains property then
    some fun value => .ofOption (scriptExtension? value)
  else if property = "age" then some fun value => .ofOption (age? value)
  else if ["gcb", "graphemeclusterbreak"].contains property then
    some (tabled graphemeBreakTable)
  else if ["wb", "wordbreak"].contains property then some (tabled wordBreakTable)
  else if ["sb", "sentencebreak"].contains property then some (tabled sentenceBreakTable)
  else if otherProperties.contains property || (plainProperty? property).isSome then
    some fun _ => .error .unknownValue
  else none

/-- The set that a single name stands for: a property, else a general category, else a script.
Three names of categories are names of properties too; there the category is meant. -/
def ofName (name : String) : Answer :=
  let loose := looseName name
  let plain := if ["cf", "sc", "lc"].contains loose then none else plainProperty? loose
  match plain with
  | some members => .ok members
  | none =>
      match categoryAnswer? loose with
      | some answer => answer
      | none =>
          match scriptAnswer? loose with
          | some members => .ok members
          | none => .error .unknownProperty

/-- The set of the characters for which a property has a value. -/
def ofValue (property value : String) : Answer :=
  match valuesOf? (looseName property) with
  | some answer => answer (looseName value)
  | none => .error .unknownProperty

/-- Characters that a reader cannot see: controls, format characters, private use, unassigned code
points, and separators other than the space. -/
def invisible : CharSet :=
  (CharSet.unionAll [categories ["Cc", "Cf", "Co", "Zl", "Zp", "Zs"], surrogates,
    unassigned]).difference (.singleton ' ')

/-- Letters and numbers. -/
def alphanumeric : CharSet := alphabetic.union (categories ["Nd", "Nl", "No"])

/-- Characters of words. -/
def word : CharSet :=
  .unionAll [alphabetic, categories ["Mn", "Mc", "Me", "Nd", "Pc"], listed "Join_Control"]

/-- Decimal digits. -/
def digit : CharSet := category "Nd"

/-- Blank characters. -/
def space : CharSet := listed "White_Space"

end Flowchart.Unicode
